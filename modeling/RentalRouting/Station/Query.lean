/-
RentalRouting/Station/Query.lean

Queries over stations: an optional envelope, an optional company and an optional locale.
An envelope is given by two corners `lat,lon` (split at the first comma, each part trimmed
and read as a finite decimal), the lower-left one checked first.  The rectangle of the two
corners is built by the geometry library, which is no part of this program: reading is
stated for any way of building it (`parseWith`), and the program builds it with `ofCorners`,
whose bounds are the smaller and larger coordinate of the two corners on each axis, as the
library's rectangle has them.  A station matches when it is not a border drop-off, has a
valid position inside the envelope (bounds included), and belongs to the company's network
or to every network.
-/
import RentalRouting.Station.Basic
import RentalRouting.Rental.Error
import RentalRouting.Numeric.Read

namespace RentalRouting

/-- A rectangle of longitudes (`x`) and latitudes (`y`). -/
structure Envelope where
  minX : Float
  minY : Float
  maxX : Float
  maxY : Float
  deriving Inhabited

namespace Envelope

/-- The smaller and the larger of two coordinates, the second first when they are not
ordered. -/
def bounds (a b : Float) : Float × Float := if a < b then (a, b) else (b, a)

/-- The envelope spanned by two corners `(x, y)`. -/
def ofCorners (c1 c2 : Float × Float) : Envelope :=
  let (minX, maxX) := bounds c1.1 c2.1
  let (minY, maxY) := bounds c1.2 c2.2
  ⟨minX, minY, maxX, maxY⟩

@[simp] theorem ofCorners_minX (c1 c2 : Float × Float) :
    (ofCorners c1 c2).minX = (bounds c1.1 c2.1).1 := rfl

@[simp] theorem ofCorners_maxX (c1 c2 : Float × Float) :
    (ofCorners c1 c2).maxX = (bounds c1.1 c2.1).2 := rfl

@[simp] theorem ofCorners_minY (c1 c2 : Float × Float) :
    (ofCorners c1 c2).minY = (bounds c1.2 c2.2).1 := rfl

@[simp] theorem ofCorners_maxY (c1 c2 : Float × Float) :
    (ofCorners c1 c2).maxY = (bounds c1.2 c2.2).2 := rfl

/-- The point lies in the envelope, bounds included. -/
def contains (e : Envelope) (x y : Float) : Bool :=
  e.minX ≤ x && x ≤ e.maxX && e.minY ≤ y && y ≤ e.maxY

theorem contains_iff (e : Envelope) (x y : Float) :
    e.contains x y = true ↔ (e.minX ≤ x ∧ x ≤ e.maxX) ∧ (e.minY ≤ y ∧ y ≤ e.maxY) := by
  simp [contains, and_assoc]

/-- Read a corner `lat,lon` as `(lat, lon)`. -/
def readCorner (corner : String) : Except RentalError (Float × Float) :=
  let (lat, rest) := corner.toList.span (· ≠ ',')
  match rest with
  | [] => .error (.envelope corner)
  | _ :: lon =>
    match readDecimal? (Text.trim (String.ofList lat)), readDecimal? (Text.trim (String.ofList lon)) with
    | some a, some b => if a.isFinite && b.isFinite then .ok (a, b) else .error (.envelope corner)
    | _, _ => .error (.envelope corner)

/-- The envelope of a lower-left and an upper-right corner, built from the two points
`(lon, lat)` by `rect`. -/
def parseWith (rect : Float × Float → Float × Float → Envelope) (lowerLeft upperRight : String) :
    Except RentalError Envelope := do
  let (minY, minX) ← readCorner lowerLeft
  let (maxY, maxX) ← readCorner upperRight
  return rect (minX, minY) (maxX, maxY)

/-- The envelope of a lower-left and an upper-right corner. -/
def parse (lowerLeft upperRight : String) : Except RentalError Envelope :=
  parseWith ofCorners lowerLeft upperRight

end Envelope

/-- A query over stations. -/
structure Query where
  envelope : Option Envelope := none
  company : Option String := none
  locale : Option String := none
  deriving Inhabited

namespace Query

/-- The query of an envelope between two corners, built by `rect`. -/
def ofCornersWith (rect : Float × Float → Float × Float → Envelope)
    (lowerLeft upperRight : String) : Except RentalError Query := do
  return { envelope := some (← Envelope.parseWith rect lowerLeft upperRight) }

/-- The query of an envelope between two corners. -/
def ofCorners (lowerLeft upperRight : String) : Except RentalError Query :=
  ofCornersWith Envelope.ofCorners lowerLeft upperRight

/-- The station answers the query. -/
def accepts (q : Query) (s : Station) : Bool :=
  if s.isBorderDropoff || !s.hasValidCoordinate then false
  else
    let inside := match q.envelope with
      | some e => e.contains s.x s.y
      | none => true
    inside &&
      match q.company, s.networks with
      | some company, some names => names.contains company
      | _, _ => true

end Query

end RentalRouting
