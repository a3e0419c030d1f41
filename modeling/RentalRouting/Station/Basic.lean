/-
RentalRouting/Station/Basic.lean

Rental stations: where vehicles are picked up and dropped off.  A station has an id, a
name, a position (`x` the longitude, `y` the latitude), whether pick-up and drop-off are
allowed, the networks it belongs to (absent for every network), how many vehicles and
spaces it has when that is tracked, and the kind of vehicle it rents.  A floating station
is a single vehicle parked in the street.  A position with a zero coordinate is not valid.
A station is summarized for a locale by resolving its name.
-/
import RentalRouting.Station.Name
import RentalRouting.Rental.Names
import RentalRouting.Rental.Vehicle
import RentalRouting.Numeric.Text

namespace RentalRouting

/-- A rental station. -/
structure Station where
  id : String
  name : LocalName
  x : Float
  y : Float
  allowDropoff : Bool := true
  allowPickup : Bool := true
  /-- Network names in code point order; `none` for every network. -/
  networks : Networks := none
  vehiclesAvailable : Option Nat := none
  spacesAvailable : Option Nat := none
  isFloating : Bool := false
  kind : VehicleKind := .unknown
  isBorderDropoff : Bool := false
  deriving Inhabited

namespace Station

/-- Neither coordinate is zero. -/
def hasValidCoordinate (s : Station) : Bool := s.x != 0 && s.y != 0

/-- The station as text: its default name, its networks and its position to six places. -/
def display (s : Station) : String :=
  let networks := match s.networks with
    | some names => "[" ++ ", ".intercalate names ++ "]"
    | none => "unknown network"
  "Vehicle rental station " ++ s.name.default ++ " (" ++ networks ++ ") at " ++
    fixedText s.y 6 ++ ", " ++ fixedText s.x 6

end Station

/-- What a query answers about a station. -/
structure Summary where
  id : String
  name : String
  x : Float
  y : Float
  networks : Networks
  kind : VehicleKind
  vehiclesAvailable : Option Nat
  spacesAvailable : Option Nat
  allowPickup : Bool
  allowDropoff : Bool
  isFloating : Bool
  deriving Inhabited

/-- The summary of a station, its name resolved for a locale. -/
def Station.summary (s : Station) (locale : Option String) : Summary :=
  { id := s.id, name := s.name.resolve locale, x := s.x, y := s.y, networks := s.networks,
    kind := s.kind, vehiclesAvailable := s.vehiclesAvailable,
    spacesAvailable := s.spacesAvailable, allowPickup := s.allowPickup,
    allowDropoff := s.allowDropoff, isFloating := s.isFloating }

end RentalRouting
