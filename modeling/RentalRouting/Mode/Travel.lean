/-
RentalRouting/Mode/Travel.lean

The five ways of travelling a search knows: walking, cycling, driving, riding a small
rented vehicle (micromobility) and public transit.  A mode has an upper-case name, used in
mode strings and in answers, and a lower-case key, used when modes are stored as data.  A
name is read after trimming blanks and upper-casing, so `" walk "` and `"Walk"` are
`WALK`.
-/
import RentalRouting.Text.Blank
import RentalRouting.Text.Case

namespace RentalRouting

/-- A way of travelling. -/
inductive TravelMode where
  | walk
  | bicycle
  | car
  | micromobility
  | transit
  deriving DecidableEq, Repr, Inhabited

namespace TravelMode

/-- Every mode, in the order in which mode sets list them. -/
def all : List TravelMode := [.walk, .bicycle, .car, .micromobility, .transit]

/-- The mode is public transit. -/
def isTransit : TravelMode → Bool
  | .transit => true
  | _ => false

/-- The upper-case name of a mode. -/
def name : TravelMode → String
  | .walk => "WALK"
  | .bicycle => "BICYCLE"
  | .car => "CAR"
  | .micromobility => "MICROMOBILITY"
  | .transit => "TRANSIT"

/-- The lower-case key of a mode. -/
def key : TravelMode → String
  | .walk => "walk"
  | .bicycle => "bicycle"
  | .car => "car"
  | .micromobility => "micromobility"
  | .transit => "transit"

/-- The mode whose name is exactly this text. -/
def ofExactName? (s : String) : Option TravelMode := all.find? (·.name = s)

/-- The mode whose key is exactly this text. -/
def ofKey? (s : String) : Option TravelMode := all.find? (·.key = s)

/-- The mode named by a text, after trimming blanks and upper-casing. -/
def ofName? (s : String) : Option TravelMode :=
  (Text.upperAscii? (Text.trim s)).bind ofExactName?

theorem ofExactName?_name (m : TravelMode) : ofExactName? m.name = some m := by
  cases m <;> rfl

theorem ofKey?_key (m : TravelMode) : ofKey? m.key = some m := by
  cases m <;> rfl

theorem mem_all (m : TravelMode) : m ∈ all := by
  cases m <;> simp [all]

end TravelMode

end RentalRouting
