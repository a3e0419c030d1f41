/-
RentalRouting/Request/Basic.lean

Routing requests: the modes a search may use, its direction, whether vehicles may be
rented and from whom, and the costs, times, speeds and reluctances that weigh a path.
Distances are in meters, times in seconds and speeds in meters per second.  Transit has no
speed of its own; walking is weighed by the walk reluctance and every other mode by one.
-/
import RentalRouting.Mode.Qualified
import RentalRouting.Rental.Names
import RentalRouting.Rental.Vehicle
import RentalRouting.Numeric.Binary

namespace RentalRouting

/-- Whether a search runs forward from a departure or backward from an arrival. -/
inductive Direction where
  | departAt
  | arriveBy
  deriving DecidableEq, Repr, Inhabited

/-- The key of a direction. -/
def Direction.key : Direction → String
  | .departAt => "depart_at"
  | .arriveBy => "arrive_by"

/-- The direction of a search that fixes its arrival when `arriveBy`. -/
def Direction.ofArriveBy (arriveBy : Bool) : Direction := if arriveBy then .arriveBy else .departAt

/-- A routing request. -/
structure Request where
  modes : ModeSet := ModeSet.empty.insert .walk
  direction : Direction := .departAt
  allowRental : Bool := false
  useAvailability : Bool := false
  allowedProviders : Option (List String) := none
  bannedProviders : Option (List String) := none
  allowedVehicles : Option (List VehicleKind) := none
  bannedVehicles : Option (List VehicleKind) := none
  /-- Meters. -/
  minimumRentalDistance : Float := 0
  pickupCost : Float := 120
  /-- Seconds. -/
  pickupTime : Float := 60
  dropoffCost : Float := 30
  /-- Seconds. -/
  dropoffTime : Float := 30
  walkSpeed : Float := Double.ofDecimal 133 (-2)
  bikeSpeed : Float := 5
  micromobilitySpeed : Float := 5
  carSpeed : Float := Double.ofDecimal 112 (-1)
  walkReluctance : Float := 2
  deriving Inhabited

namespace Request

/-- The request searches backward from an arrival. -/
def isArriveBy (r : Request) : Bool := r.direction == .arriveBy

/-- The speed of a mode, none for transit. -/
def speed (r : Request) : TravelMode → Option Float
  | .walk => some r.walkSpeed
  | .bicycle => some r.bikeSpeed
  | .micromobility => some r.micromobilitySpeed
  | .car => some r.carSpeed
  | .transit => none

/-- How much a second in a mode weighs. -/
def reluctance (r : Request) : TravelMode → Float
  | .walk => r.walkReluctance
  | _ => 1

/-- The mode a search starts in: the first of car, walk, bicycle and micromobility that the
request allows. -/
def initialMode (r : Request) : Option TravelMode :=
  [TravelMode.car, .walk, .bicycle, .micromobility].find? r.modes.contains

/-- The request with the modes of a mode string, rental turned on if the string asks. -/
def withModeString (r : Request) (m : ModeString) : Request :=
  let (modes, rental) := m.apply r.allowRental
  { r with modes := modes, allowRental := rental }

end Request

end RentalRouting
