/-
RentalRouting/Request/Config.lean

Request configurations: the stored form of a routing request, with its modes as a mode
string and its numbers optional.  A configuration becomes a request by checking its
numbers, in the order the configuration lists them, and then reading its mode string: the
first number out of range is the error, and the mode string is read only after all
numbers passed.  Distances, costs and times must be finite and not negative; speeds and
the walk reluctance must be finite and positive.  Provider names are trimmed, vehicle
tokens read as kinds, and both kept as sets.
-/
import RentalRouting.Request.Basic
import RentalRouting.Json.Decode

namespace RentalRouting

/-- The stored form of a routing request. -/
structure RequestConfig where
  modes : String
  arriveBy : Bool := false
  useAvailability : Bool := false
  allowedProviders : Option (List String) := none
  bannedProviders : Option (List String) := none
  allowedVehicles : Option (List String) := none
  bannedVehicles : Option (List String) := none
  minimumRentalDistance : Option Float := none
  pickupCost : Option Float := none
  pickupTime : Option Float := none
  dropoffCost : Option Float := none
  dropoffTime : Option Float := none
  walkSpeed : Option Float := none
  micromobilitySpeed : Option Float := none
  walkReluctance : Option Float := none
  deriving Inhabited

namespace RequestConfig

/-- A number that must be finite and not negative. -/
def nonNegative (name : String) (v : Float) : Except RequestError Float :=
  if v.isFinite && v ≥ 0 then .ok v
  else .error (.invalidParameter name
    ("expected a finite value >= 0, found " ++ FloatStyle.plain.render v))

/-- A number that must be finite and positive. -/
def positive (name : String) (v : Float) : Except RequestError Float :=
  if v.isFinite && v > 0 then .ok v
  else .error (.invalidParameter name
    ("expected a finite value > 0, found " ++ FloatStyle.plain.render v))

/-- Check an optional number, keeping the default when it is absent. -/
def checked (check : String → Float → Except RequestError Float) (name : String)
    (v : Option Float) (fallback : Float) : Except RequestError Float :=
  match v with
  | some v => check name v
  | none => .ok fallback

/-- The request a configuration describes. -/
def toRequest (c : RequestConfig) : Except RequestError Request := do
  let d : Request := {}
  let minimumRentalDistance ← checked nonNegative "minimum_vehicle_rental_distance_meters"
    c.minimumRentalDistance d.minimumRentalDistance
  let pickupCost ← checked nonNegative "vehicle_rental_pickup_cost" c.pickupCost d.pickupCost
  let pickupTime ← checked nonNegative "vehicle_rental_pickup_time_seconds" c.pickupTime
    d.pickupTime
  let dropoffCost ← checked nonNegative "vehicle_rental_dropoff_cost" c.dropoffCost d.dropoffCost
  let dropoffTime ← checked nonNegative "vehicle_rental_dropoff_time_seconds" c.dropoffTime
    d.dropoffTime
  let walkSpeed ← checked positive "walk_speed_meters_per_second" c.walkSpeed d.walkSpeed
  let micromobilitySpeed ← checked positive "micromobility_speed_meters_per_second"
    c.micromobilitySpeed d.micromobilitySpeed
  let walkReluctance ← checked positive "walk_reluctance" c.walkReluctance d.walkReluctance
  let request : Request :=
    { d with
      direction := Direction.ofArriveBy c.arriveBy
      useAvailability := c.useAvailability
      allowedProviders := c.allowedProviders.map fun ns => nameSet (ns.map Text.trim)
      bannedProviders := c.bannedProviders.map fun ns => nameSet (ns.map Text.trim)
      allowedVehicles := c.allowedVehicles.map fun ts => VehicleKind.setOf (ts.map VehicleKind.ofToken)
      bannedVehicles := c.bannedVehicles.map fun ts => VehicleKind.setOf (ts.map VehicleKind.ofToken)
      minimumRentalDistance := minimumRentalDistance
      pickupCost := pickupCost
      pickupTime := pickupTime
      dropoffCost := dropoffCost
      dropoffTime := dropoffTime
      walkSpeed := walkSpeed
      micromobilitySpeed := micromobilitySpeed
      walkReluctance := walkReluctance }
  let modes ← ModeString.parse c.modes
  return request.withModeString modes

/-! ### Decoding -/

open Json

/-- The slots of a configuration while its fields are decoded. -/
structure Slots where
  modes : Option String := none
  arriveBy : Option Bool := none
  useAvailability : Option Bool := none
  allowedProviders : Option (Option (List String)) := none
  bannedProviders : Option (Option (List String)) := none
  allowedVehicles : Option (Option (List String)) := none
  bannedVehicles : Option (Option (List String)) := none
  minimumRentalDistance : Option (Option Float) := none
  pickupCost : Option (Option Float) := none
  pickupTime : Option (Option Float) := none
  dropoffCost : Option (Option Float) := none
  dropoffTime : Option (Option Float) := none
  walkSpeed : Option (Option Float) := none
  micromobilitySpeed : Option (Option Float) := none
  walkReluctance : Option (Option Float) := none

/-- Decode one field of a configuration object. -/
def decodeField (s : Slots) (key : String) (v : Json) : Decoded Slots := do
  let names := asOption (asList asString)
  let number := asOption asDouble
  match key with
  | "modes" => return { s with modes := some (← asString v) }
  | "arrive_by" => return { s with arriveBy := some (← asBool v) }
  | "use_vehicle_rental_availability_information" =>
    return { s with useAvailability := some (← asBool v) }
  | "white_listed_providers" => return { s with allowedProviders := some (← names v) }
  | "banned_providers" => return { s with bannedProviders := some (← names v) }
  | "white_listed_vehicles" => return { s with allowedVehicles := some (← names v) }
  | "banned_vehicles" => return { s with bannedVehicles := some (← names v) }
  | "minimum_vehicle_rental_distance_meters" =>
    return { s with minimumRentalDistance := some (← number v) }
  | "vehicle_rental_pickup_cost" => return { s with pickupCost := some (← number v) }
  | "vehicle_rental_pickup_time_seconds" => return { s with pickupTime := some (← number v) }
  | "vehicle_rental_dropoff_cost" => return { s with dropoffCost := some (← number v) }
  | "vehicle_rental_dropoff_time_seconds" => return { s with dropoffTime := some (← number v) }
  | "walk_speed_meters_per_second" => return { s with walkSpeed := some (← number v) }
  | "micromobility_speed_meters_per_second" =>
    return { s with micromobilitySpeed := some (← number v) }
  | "walk_reluctance" => return { s with walkReluctance := some (← number v) }
  | _ => return s

/-- The configuration of filled slots; only the mode string is required. -/
def ofSlots (s : Slots) : Decoded RequestConfig := do
  let modes ← requireField "modes" s.modes
  return {
    modes := modes
    arriveBy := s.arriveBy.getD false
    useAvailability := s.useAvailability.getD false
    allowedProviders := s.allowedProviders.join
    bannedProviders := s.bannedProviders.join
    allowedVehicles := s.allowedVehicles.join
    bannedVehicles := s.bannedVehicles.join
    minimumRentalDistance := s.minimumRentalDistance.join
    pickupCost := s.pickupCost.join
    pickupTime := s.pickupTime.join
    dropoffCost := s.dropoffCost.join
    dropoffTime := s.dropoffTime.join
    walkSpeed := s.walkSpeed.join
    micromobilitySpeed := s.micromobilitySpeed.join
    walkReluctance := s.walkReluctance.join }

/-- Decode a configuration given as an array, field after field; the two flags may be
left out, every other field only with all the fields after it. -/
def ofItems (items : List Json) : Decoded RequestConfig := do
  let need {α : Type} (index : Nat) (o : Option α) : Decoded α :=
    requireItem "RoutingRequestConfig" 15 index o
  let c : ItemCursor := ⟨items, 0⟩
  let (v, c) := c.next
  let modes ← need 0 (← v.mapM asString)
  let (v, c) := c.next
  let arriveBy := (← v.mapM asBool).getD false
  let (v, c) := c.next
  let useAvailability := (← v.mapM asBool).getD false
  let names := asOption (asList asString)
  let number := asOption asDouble
  let (v, c) := c.next
  let allowedProviders ← need 3 (← v.mapM names)
  let (v, c) := c.next
  let bannedProviders ← need 4 (← v.mapM names)
  let (v, c) := c.next
  let allowedVehicles ← need 5 (← v.mapM names)
  let (v, c) := c.next
  let bannedVehicles ← need 6 (← v.mapM names)
  let (v, c) := c.next
  let minimumRentalDistance ← need 7 (← v.mapM number)
  let (v, c) := c.next
  let pickupCost ← need 8 (← v.mapM number)
  let (v, c) := c.next
  let pickupTime ← need 9 (← v.mapM number)
  let (v, c) := c.next
  let dropoffCost ← need 10 (← v.mapM number)
  let (v, c) := c.next
  let dropoffTime ← need 11 (← v.mapM number)
  let (v, c) := c.next
  let walkSpeed ← need 12 (← v.mapM number)
  let (v, c) := c.next
  let micromobilitySpeed ← need 13 (← v.mapM number)
  let (v, c) := c.next
  let walkReluctance ← need 14 (← v.mapM number)
  c.finish .plain
  return ⟨modes, arriveBy, useAvailability, allowedProviders, bannedProviders,
    allowedVehicles, bannedVehicles, minimumRentalDistance, pickupCost, pickupTime,
    dropoffCost, dropoffTime, walkSpeed, micromobilitySpeed, walkReluctance⟩

/-- Decode a configuration from a value. -/
def decode : Json → Decoded RequestConfig
  | .object fields => do ofSlots (← decodeFields fields {} decodeField)
  | .array items => ofItems items
  | j => .error (.invalidType j.unexpected "struct RoutingRequestConfig")

end RequestConfig

end RentalRouting
