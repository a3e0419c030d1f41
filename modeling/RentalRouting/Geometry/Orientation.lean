/-
RentalRouting/Geometry/Orientation.lean

The orientation of three points in the plane: whether `c` lies to the left of the directed
line from `a` to `b` (counterclockwise), to its right (clockwise), or on it.  It is the sign
of the determinant `(a.x - c.x) * (b.y - c.y) - (a.y - c.y) * (b.x - c.x)`, found by the
adaptive test on doubles.  The determinant is first evaluated in doubles; its sign is kept
when a forward error bound shows it certain.  Otherwise it is evaluated again with
error-free transformations (a sum or a product together with its rounding error, whose sum
is the exact value) in up to three stages of growing precision, each ending as soon as its
own error bound allows, the last one exact: its value is an expansion, a list of doubles
whose sum is the determinant, and the sign is that of its most significant part.

While no product overflows or underflows the sign is the exact one.  Beyond that range the
doubles decide: an infinite determinant keeps its sign, a product that underflows to zero
can make the points collinear, and not-a-number counts as collinear.
-/

namespace RentalRouting

/-- A point of the plane. -/
structure Coord where
  x : Float
  y : Float
  deriving Inhabited

/-- The orientation of three points. -/
inductive Orientation where
  | counterClockwise
  | clockwise
  | collinear
  deriving DecidableEq, Repr

/-- The orientation of a sign: above zero counterclockwise, below it clockwise, else
collinear. -/
def Orientation.ofSign (v : Float) : Orientation :=
  if 0.0 < v then .counterClockwise else if v < 0.0 then .clockwise else .collinear

namespace Adaptive

/-- The unit roundoff of doubles, `2 ^ -53`. -/
def epsilon : Float := 1.0 / 9007199254740992.0

/-- The factor `2 ^ 27 + 1` that splits a double into two halves of at most 26 bits. -/
def splitter : Float := 134217729.0

/-- The relative error bound of a value read off an expansion. -/
def resultErrBound : Float := (3.0 + 8.0 * epsilon) * epsilon

/-- The relative error bound of the determinant evaluated in doubles. -/
def boundA : Float := (3.0 + 16.0 * epsilon) * epsilon

/-- The relative error bound of the determinant of the rounded differences. -/
def boundB : Float := (2.0 + 12.0 * epsilon) * epsilon

/-- The relative error bound after the first correction by the differences' tails. -/
def boundC : Float := (9.0 + 64.0 * epsilon) * epsilon * epsilon

/-- A double as a high half and the rest, their sum being the double. -/
def split (a : Float) : Float × Float :=
  let c := splitter * a
  let big := c - a
  let hi := c - big
  (hi, a - hi)

/-- The rounding error of the product `x` of `a` and `b`. -/
def productTail (a b x : Float) : Float :=
  let (ahi, alo) := split a
  let (bhi, blo) := split b
  let err1 := x - ahi * bhi
  let err2 := err1 - alo * bhi
  let err3 := err2 - ahi * blo
  alo * blo - err3

/-- The product of two doubles and its rounding error. -/
def twoProduct (a b : Float) : Float × Float :=
  let x := a * b
  (x, productTail a b x)

/-- The sum of two doubles and its rounding error. -/
def twoSum (a b : Float) : Float × Float :=
  let x := a + b
  let bVirtual := x - a
  let aVirtual := x - bVirtual
  (x, (a - aVirtual) + (b - bVirtual))

/-- The rounding error of the difference `x` of `a` and `b`. -/
def diffTail (a b x : Float) : Float :=
  let bVirtual := a - x
  let aVirtual := x + bVirtual
  (a - aVirtual) + (bVirtual - b)

/-- The difference of two doubles and its rounding error. -/
def twoDiff (a b : Float) : Float × Float :=
  let x := a - b
  (x, diffTail a b x)

/-- The sum of two doubles and its rounding error, when `a` is not smaller than `b`. -/
def fastTwoSum (a b : Float) : Float × Float :=
  let x := a + b
  (x, b - (x - a))

/-- `a1 + a0 - b` as three parts, the most significant first. -/
def twoOneDiff (a1 a0 b : Float) : Float × Float × Float :=
  let (i, x0) := twoDiff a0 b
  let (x2, x1) := twoSum a1 i
  (x2, x1, x0)

/-- `a1 + a0 - (b1 + b0)` as an expansion of four parts, the least significant first. -/
def twoTwoDiff (a1 a0 b1 b0 : Float) : List Float :=
  let (j, z, x0) := twoOneDiff a1 a0 b0
  let (x3, x2, x1) := twoOneDiff j z b1
  [x0, x1, x2, x3]

/-- The expansion's value rounded part by part, the least significant first. -/
def estimate : List Float → Float
  | [] => 0.0
  | e :: es => es.foldl (· + ·) e

/-- In merging two expansions, the part `e` goes before the part `f`: it is not larger. -/
def goesFirst (e f : Float) : Bool := (f > e) == (f > -e)

/-- The parts kept after adding a rounding error: zeros are dropped. -/
def keep (parts : List Float) (err : Float) : List Float :=
  if err != 0.0 then parts ++ [err] else parts

/-- The merge of two expansions into a running sum `q` and the parts kept so far. -/
def mergeInto (q : Float) (parts : List Float) : List Float → List Float → Float × List Float
  | e :: es, f :: fs =>
    if goesFirst e f then
      let (q', err) := twoSum q e
      mergeInto q' (keep parts err) es (f :: fs)
    else
      let (q', err) := twoSum q f
      mergeInto q' (keep parts err) (e :: es) fs
  | e :: es, [] =>
    let (q', err) := twoSum q e
    mergeInto q' (keep parts err) es []
  | [], f :: fs =>
    let (q', err) := twoSum q f
    mergeInto q' (keep parts err) [] fs
  | [], [] => (q, parts)
termination_by es fs => es.length + fs.length

/-- The sum of two expansions as an expansion, merging their parts by magnitude and dropping
zero parts (one zero part stands for zero). -/
def expansionSum (e f : List Float) : List Float :=
  match e, f with
  | e0 :: es, f0 :: fs =>
    let (q, es, fs) := if goesFirst e0 f0 then (e0, es, f0 :: fs) else (f0, e0 :: es, fs)
    let (q, parts, es, fs) :=
      match es, fs with
      | e1 :: es', f1 :: fs' =>
        if goesFirst e1 f1 then
          let (q', err) := fastTwoSum e1 q
          (q', keep [] err, es', f1 :: fs')
        else
          let (q', err) := fastTwoSum f1 q
          (q', keep [] err, e1 :: es', fs')
      | _, _ => (q, [], es, fs)
    let (q, parts) := mergeInto q parts es fs
    if q != 0.0 || parts.isEmpty then parts ++ [q] else parts
  | _, _ => e ++ f

/-- The determinant recomputed in stages of growing precision, given the sum `detsum` of the
magnitudes of its two products. -/
def determinantAdapt (a b c : Coord) (detsum : Float) : Float :=
  let acx := a.x - c.x
  let bcx := b.x - c.x
  let acy := a.y - c.y
  let bcy := b.y - c.y
  let (left, leftTail) := twoProduct acx bcy
  let (right, rightTail) := twoProduct acy bcx
  let first := twoTwoDiff left leftTail right rightTail
  let det := estimate first
  let bound := boundB * detsum
  if bound ≤ det ∨ bound ≤ -det then det
  else
    let acxTail := diffTail a.x c.x acx
    let bcxTail := diffTail b.x c.x bcx
    let acyTail := diffTail a.y c.y acy
    let bcyTail := diffTail b.y c.y bcy
    if acxTail == 0.0 && acyTail == 0.0 && bcxTail == 0.0 && bcyTail == 0.0 then det
    else
      let bound := boundC * detsum + resultErrBound * det.abs
      let det := det + ((acx * bcyTail + bcy * acxTail) - (acy * bcxTail + bcx * acyTail))
      if bound ≤ det ∨ bound ≤ -det then det
      else
        let (s1, s0) := twoProduct acxTail bcy
        let (t1, t0) := twoProduct acyTail bcx
        let second := expansionSum first (twoTwoDiff s1 s0 t1 t0)
        let (s1, s0) := twoProduct acx bcyTail
        let (t1, t0) := twoProduct acy bcxTail
        let third := expansionSum second (twoTwoDiff s1 s0 t1 t0)
        let (s1, s0) := twoProduct acxTail bcyTail
        let (t1, t0) := twoProduct acyTail bcxTail
        let last := expansionSum third (twoTwoDiff s1 s0 t1 t0)
        last.getLastD 0.0

/-- The determinant of the three points, exact in its sign while no product leaves the range
of doubles. -/
def determinant (a b c : Coord) : Float :=
  let left := (a.x - c.x) * (b.y - c.y)
  let right := (a.y - c.y) * (b.x - c.x)
  let det := left - right
  let refine (detsum : Float) : Float :=
    let bound := boundA * detsum
    if bound ≤ det ∨ bound ≤ -det then det else determinantAdapt a b c detsum
  if 0.0 < left then
    if right ≤ 0.0 then det else refine (left + right)
  else if left < 0.0 then
    if 0.0 ≤ right then det else refine (-left - right)
  else det

end Adaptive

/-- The orientation of `c` against the directed line from `a` to `b`. -/
def orient (a b c : Coord) : Orientation :=
  Orientation.ofSign (Adaptive.determinant a b c)

end RentalRouting
