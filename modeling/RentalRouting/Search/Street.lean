/-
RentalRouting/Search/Street.lean

Street edges: a length in meters and the modes allowed on it.  A state crosses a street in
its current mode if the street allows it and the mode has a speed; the time is the length
over the speed and the weight that time times the mode's reluctance, both unrounded
before the editor rounds the time.  The distance counts as ridden while renting, as walked
when walking, and not at all otherwise.  The least time a street can take is its length
over the largest speed among its modes, where a speed replaces the one before only when
it is larger; without a speed it is infinite.
-/
import RentalRouting.Search.Editor

namespace RentalRouting

/-- A street between two vertices. -/
structure StreetEdge where
  id : EdgeId
  source : VertexId
  target : VertexId
  /-- Meters. -/
  length : Float
  permission : ModeSet
  deriving Inhabited

namespace StreetEdge

/-- What the street tells about itself. -/
def info (e : StreetEdge) : EdgeInfo := ⟨e.id, .street, e.source, e.target⟩

/-- Cross the street from a state. -/
def traverse (e : StreetEdge) (s : State) : Option State := do
  let mode ← s.mode
  if !e.permission.contains mode then none
  let speed ← s.request.speed mode
  let seconds := e.length / speed
  let weight := seconds * s.request.reluctance mode
  let ed := (s.edit e.info).addTime seconds |>.addWeight weight
  let ed := if s.rental.renting then ed.addRentalDistance e.length
    else if mode == .walk then ed.addWalkDistance e.length
    else ed
  (ed.apply (.setBackMode (some mode))).make

/-- The fastest speed among the street's modes that have one. -/
def fastest (e : StreetEdge) (r : Request) : Option Float :=
  (e.permission.toList.filterMap r.speed).foldl
    (fun acc b => match acc with
      | none => some b
      | some a => some (if b > a then b else a)) none

/-- The least time the street can take, in seconds. -/
def timeLowerBound (e : StreetEdge) (r : Request) : Float :=
  match e.fastest r with
  | some speed => e.length / speed
  | none => 1 / 0

end StreetEdge

end RentalRouting
