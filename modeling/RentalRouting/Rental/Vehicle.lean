/-
RentalRouting/Rental/Vehicle.lean

Kinds of rental vehicle.  A kind is read from a token by trimming blanks and lower-casing:
`bike`, `scooter` and `car` are the known tokens, and anything else is the unknown kind,
which is compatible with every kind.  Cars are driven; every other kind is ridden as
micromobility.
-/
import RentalRouting.Mode.Travel

namespace RentalRouting

/-- A kind of rental vehicle. -/
inductive VehicleKind where
  | unknown
  | bicycle
  | scooter
  | car
  deriving DecidableEq, Repr, Inhabited

namespace VehicleKind

/-- The token of a kind. -/
def token : VehicleKind → String
  | .unknown => "unknown"
  | .bicycle => "bike"
  | .scooter => "scooter"
  | .car => "car"

/-- The kind a token names, after trimming blanks and lower-casing; unknown otherwise. -/
def ofToken (s : String) : VehicleKind :=
  match Text.lowerAscii? (Text.trim s) with
  | some "bike" => .bicycle
  | some "scooter" => .scooter
  | some "car" => .car
  | _ => .unknown

/-- The kind is the unknown one. -/
def isUnknown : VehicleKind → Bool
  | .unknown => true
  | _ => false

/-- Two kinds are compatible when either is unknown or they are equal. -/
def compatible (a b : VehicleKind) : Bool := a.isUnknown || b.isUnknown || a == b

/-- The mode in which a vehicle of this kind travels. -/
def travelMode : VehicleKind → TravelMode
  | .car => .car
  | _ => .micromobility

/-- Put a kind into a list ordered by token, unless it is there. -/
def insertByToken (k : VehicleKind) : List VehicleKind → List VehicleKind
  | [] => [k]
  | j :: rest =>
    if k.token < j.token then k :: j :: rest
    else if k = j then j :: rest
    else j :: insertByToken k rest

/-- The kinds of a list ordered by token, each once. -/
def setOf (kinds : List VehicleKind) : List VehicleKind :=
  kinds.foldl (fun acc k => insertByToken k acc) []

theorem compatible_unknown (k : VehicleKind) : compatible .unknown k = true := rfl

theorem compatible_comm (a b : VehicleKind) : compatible a b = compatible b a := by
  cases a <;> cases b <;> rfl

end VehicleKind

end RentalRouting
