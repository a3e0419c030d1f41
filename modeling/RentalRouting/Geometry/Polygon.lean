/-
RentalRouting/Geometry/Polygon.lean

Polygons with holes and where a point lies against them.  A ring is closed by repeating its
first point at its end when it is not there.  A point is on a ring's boundary when it lies
on one of its segments, and inside when the ring winds around it: crossing the ring's
segments, an upward segment that has the point strictly to its left counts one, a
downward one that has it strictly to its right counts minus one (an upward segment
includes its lower end and excludes its upper one, a downward one the other way round,
and horizontal ones count nothing).  A polygon contains a point that is inside its exterior
ring and outside every hole, boundaries excluded; a set of polygons contains a point that
one of them contains.

A ring turns one way at its least point (the first point of smallest `x`, then smallest
`y`): the orientation of the nearest distinct points before and after it.  An exterior
ring that has no such turn (fewer than four points, or neighbours collinear with it, as when
the coordinates' differences leave the range of doubles) bounds no area, and its polygon
contains no point.
-/
import RentalRouting.Geometry.Orientation

namespace RentalRouting

/-- Where a point lies against a ring. -/
inductive Position where
  | inside
  | boundary
  | outside
  deriving DecidableEq, Repr

/-- A closed chain of points. -/
abbrev Ring := List Coord

/-- Two points are the same. -/
def Coord.same (a b : Coord) : Bool := a.x == b.x && a.y == b.y

/-- Close a ring by repeating its first point at its end when it is not there. -/
def Ring.close (r : Ring) : Ring :=
  match r.head?, r.getLast? with
  | some a, some b => if a.same b then r else r ++ [a]
  | _, _ => r

/-- The segments of a chain of points. -/
def Ring.segments : Ring → List (Coord × Coord)
  | a :: b :: rest => (a, b) :: Ring.segments (b :: rest)
  | _ => []

/-- The value lies between two bounds, bounds included. -/
def between (v a b : Float) : Bool := if a < b then a ≤ v && v ≤ b else b ≤ v && v ≤ a

/-- The winding number of the segments around a point, or `none` when the point is on one
of them. -/
def windingAround (p : Coord) : List (Coord × Coord) → Option Int
  | [] => some 0
  | (s, e) :: rest =>
    if s.y ≤ p.y then
      if e.y ≥ p.y then
        let o := orient s e p
        if o == .counterClockwise && e.y != p.y then (windingAround p rest).map (· + 1)
        else if o == .collinear && between p.x s.x e.x then none
        else windingAround p rest
      else windingAround p rest
    else if e.y ≤ p.y then
      let o := orient s e p
      if o == .clockwise then (windingAround p rest).map (· - 1)
      else if o == .collinear && between p.x s.x e.x then none
      else windingAround p rest
    else windingAround p rest

/-- Where a point lies against a closed ring. -/
def Ring.position (r : Ring) (p : Coord) : Position :=
  match r with
  | [] => .outside
  | [a] => if a.same p then .boundary else .outside
  | _ =>
    match windingAround p r.segments with
    | none => .boundary
    | some 0 => .outside
    | some _ => .inside

/-- The first index of the ring's least point, smallest `x` first, then smallest `y`. -/
def Ring.leastIndex (r : Ring) : Nat :=
  (r.zipIdx.foldl (fun (best : Option (Coord × Nat)) (c, i) =>
    match best with
    | none => some (c, i)
    | some (b, j) => if c.x < b.x || (c.x == b.x && c.y < b.y) then some (c, i) else some (b, j))
    none).elim 0 (·.2)

/-- The nearest index after `k` (going round, `step` forward or back) whose point differs
from `p`, or `none` when the walk comes back to `start` first. -/
def Ring.distinctFrom (pts : Array Coord) (p : Coord) (start : Nat) (forward : Bool) :
    Nat → Nat → Option Nat
  | 0, _ => none
  | fuel + 1, k =>
    if (pts.getD k default).same p then
      if forward && k == start then none
      else
        let n := pts.size
        Ring.distinctFrom pts p start forward fuel (if forward then (k + 1) % n else (k + n - 1) % n)
    else some k

/-- The turn of a closed ring at its least point: the orientation of the nearest distinct
points before it, at it and after it; `none` when the ring has fewer than four points or no
distinct neighbours, or when they are collinear. -/
def Ring.turn (r : Ring) : Option Orientation :=
  let pts := r.toArray
  let n := pts.size
  if n < 4 then none
  else
    let i := r.leastIndex
    let p := pts.getD i default
    match Ring.distinctFrom pts p i true (n + 1) ((i + 1) % n) with
    | none => none
    | some next =>
      match Ring.distinctFrom pts p i false (n + 1) ((i + n - 1) % n) with
      | none => none
      | some prev =>
        match orient (pts.getD prev default) p (pts.getD next default) with
        | .collinear => none
        | o => some o

/-- A polygon: an exterior ring and holes. -/
structure Polygon where
  exterior : Ring
  holes : List Ring
  deriving Inhabited

namespace Polygon

/-- The polygon of rings, each closed. -/
def ofRings (exterior : Ring) (holes : List Ring) : Polygon :=
  ⟨exterior.close, holes.map Ring.close⟩

/-- The polygon contains the point, its boundary excluded. -/
def contains (poly : Polygon) (p : Coord) : Bool :=
  match poly.exterior with
  | [] => false
  | _ =>
    poly.exterior.turn.isSome && poly.exterior.position p == .inside &&
      poly.holes.all (·.position p == .outside)

end Polygon

/-- One of the polygons contains the point. -/
def polygonsContain (polys : List Polygon) (p : Coord) : Bool := polys.any (·.contains p)

end RentalRouting
