/-
RentalRouting/Station/Encode.lean

Station summaries as JSON objects, with their fields in the order of the summary:
`id`, `name`, `x`, `y`, `networks` (a list, or `null` for every network), `vehicle_type`
(a token), `vehicles_available`, `spaces_available` (counts, or `null` when untracked),
`allow_pickup`, `allow_dropoff` and `is_floating_vehicle`.  A coordinate that is not finite
is written as `null`.
-/
import RentalRouting.Station.Basic
import RentalRouting.Json.Value

namespace RentalRouting

/-- A coordinate as a JSON number, `null` when it is not finite. -/
def coordinateJson (x : Float) : Json := if x.isFinite then .number (.float x) else .null

/-- A summary as a JSON object. -/
def Summary.toJson (s : Summary) : Json :=
  .object [
    ("id", .string s.id),
    ("name", .string s.name),
    ("x", coordinateJson s.x),
    ("y", coordinateJson s.y),
    ("networks", Json.ofOption Json.ofStrings s.networks),
    ("vehicle_type", .string s.kind.token),
    ("vehicles_available", Json.ofOption Json.ofNat s.vehiclesAvailable),
    ("spaces_available", Json.ofOption Json.ofNat s.spacesAvailable),
    ("allow_pickup", .bool s.allowPickup),
    ("allow_dropoff", .bool s.allowDropoff),
    ("is_floating_vehicle", .bool s.isFloating)]

end RentalRouting
