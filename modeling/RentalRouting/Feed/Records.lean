/-
RentalRouting/Feed/Records.lean

The records of GBFS feed files and how they are read from JSON text.  Every feed file is an
envelope `{"last_updated": i64, "ttl": i64 or null, "data": ...}`, the `ttl` optional.
Station information lists `stations` of `{station_id, name, lat, lon, capacity}`, station
status lists `stations` of `{station_id, num_bikes_available, num_docks_available,
is_renting, is_returning}`, free bike status lists `bikes` of `{bike_id, lat, lon,
is_reserved, is_disabled}`, and geofencing zones hold a GeoJSON feature collection
`geofencing_zones`.

Each record is an object, whose unknown fields are skipped and whose fields may come once,
or an array of its fields in this order.  Capacity and docks default to none, renting and
returning to true, reserved and disabled to false.  A flag is a boolean or a signed 64-bit
integer, non-zero meaning true.
-/
import RentalRouting.Json.Typed
import RentalRouting.Geometry.GeoJson

namespace RentalRouting

open Json

/-- A feed file: when it was made, how long it stays fresh, and its data. -/
structure Feed (α : Type) where
  lastUpdated : Int
  ttl : Option Int
  data : α

/-- A docked station of the station information feed. -/
structure StationInfo where
  id : String
  name : String
  lat : Float
  lon : Float
  capacity : Option Nat

/-- The state of a docked station in the station status feed. -/
structure StationStatus where
  id : String
  bikesAvailable : Nat
  docksAvailable : Option Nat
  isRenting : Bool
  isReturning : Bool

/-- A vehicle of the free bike status feed. -/
structure FreeBike where
  id : String
  lat : Float
  lon : Float
  isReserved : Bool
  isDisabled : Bool

/-- Read a flag: a boolean, or an integer that is true when it is not zero. -/
def readFlag : Reader Bool := do
  match ← readValue with
  | .bool b => pure b
  | .number (.nat n) =>
    if n < Nat.pow 2 63 then pure (n != 0)
    else failData (.custom "data did not match any variant of untagged enum Flag")
  | .number (.neg n) => pure (n != 0)
  | _ => failData (.custom "data did not match any variant of untagged enum Flag")

/-- Read a record of one field, an array `field` of items. -/
def readListRecord {α : Type} (name field : String) (item : Reader α) : Reader (List α) :=
  readRecord name
    (do requiredAt name 0 1 (← element true (readSeq item)))
    (do
      let s ← readKeyed none fun s key =>
        if key = field then do return some (← slot field s (readSeq item)) else pure none
      required field s)

namespace Feed

/-- The fields of a feed envelope while they are read. -/
structure Slots (α : Type) where
  lastUpdated : Option Int := none
  ttl : Option (Option Int) := none
  data : Option α := none

/-- Read a feed envelope with its data. -/
def read {α : Type} (data : Reader α) : Reader (Feed α) :=
  readRecord "GbfsFeed"
    (do
      let lastUpdated ← requiredAt "GbfsFeed" 0 3 (← element true readInt64)
      let ttl := (← element false (readOption readInt64)).getD none
      let d ← requiredAt "GbfsFeed" 2 3 (← element false data)
      pure ⟨lastUpdated, ttl, d⟩)
    (do
      let s ← readKeyed ({} : Slots α) fun s key => match key with
        | "last_updated" => do return some { s with lastUpdated := ← slot key s.lastUpdated readInt64 }
        | "ttl" => do return some { s with ttl := ← slot key s.ttl (readOption readInt64) }
        | "data" => do return some { s with data := ← slot key s.data data }
        | _ => pure none
      let lastUpdated ← required "last_updated" s.lastUpdated
      let d ← required "data" s.data
      pure ⟨lastUpdated, s.ttl.getD none, d⟩)

end Feed

namespace StationInfo

/-- The fields of a station information record while they are read. -/
structure Slots where
  id : Option String := none
  name : Option String := none
  lat : Option Float := none
  lon : Option Float := none
  capacity : Option (Option Nat) := none

/-- Read a station information record. -/
def read : Reader StationInfo :=
  let n := "StationInformationRecord"
  readRecord n
    (do
      let id ← requiredAt n 0 5 (← element true readString)
      let name ← requiredAt n 1 5 (← element false readString)
      let lat ← requiredAt n 2 5 (← element false readDouble)
      let lon ← requiredAt n 3 5 (← element false readDouble)
      let capacity := (← element false (readOption readWord32)).getD none
      pure ⟨id, name, lat, lon, capacity⟩)
    (do
      let s ← readKeyed ({} : Slots) fun s key => match key with
        | "station_id" => do return some { s with id := ← slot key s.id readString }
        | "name" => do return some { s with name := ← slot key s.name readString }
        | "lat" => do return some { s with lat := ← slot key s.lat readDouble }
        | "lon" => do return some { s with lon := ← slot key s.lon readDouble }
        | "capacity" => do return some { s with capacity := ← slot key s.capacity (readOption readWord32) }
        | _ => pure none
      let id ← required "station_id" s.id
      let name ← required "name" s.name
      let lat ← required "lat" s.lat
      let lon ← required "lon" s.lon
      pure ⟨id, name, lat, lon, s.capacity.getD none⟩)

/-- Read the station information feed. -/
def readFeed : Reader (Feed (List StationInfo)) :=
  Feed.read (readListRecord "StationInformationData" "stations" read)

end StationInfo

namespace StationStatus

/-- The fields of a station status record while they are read. -/
structure Slots where
  id : Option String := none
  bikesAvailable : Option Nat := none
  docksAvailable : Option (Option Nat) := none
  isRenting : Option Bool := none
  isReturning : Option Bool := none

/-- Read a station status record. -/
def read : Reader StationStatus :=
  let n := "StationStatusRecord"
  readRecord n
    (do
      let id ← requiredAt n 0 5 (← element true readString)
      let bikes ← requiredAt n 1 5 (← element false readWord32)
      let docks := (← element false (readOption readWord32)).getD none
      let renting := (← element false readFlag).getD true
      let returning := (← element false readFlag).getD true
      pure ⟨id, bikes, docks, renting, returning⟩)
    (do
      let s ← readKeyed ({} : Slots) fun s key => match key with
        | "station_id" => do return some { s with id := ← slot key s.id readString }
        | "num_bikes_available" =>
          do return some { s with bikesAvailable := ← slot key s.bikesAvailable readWord32 }
        | "num_docks_available" =>
          do return some { s with docksAvailable := ← slot key s.docksAvailable (readOption readWord32) }
        | "is_renting" => do return some { s with isRenting := ← slot key s.isRenting readFlag }
        | "is_returning" => do return some { s with isReturning := ← slot key s.isReturning readFlag }
        | _ => pure none
      let id ← required "station_id" s.id
      let bikes ← required "num_bikes_available" s.bikesAvailable
      pure ⟨id, bikes, s.docksAvailable.getD none, s.isRenting.getD true, s.isReturning.getD true⟩)

/-- Read the station status feed. -/
def readFeed : Reader (Feed (List StationStatus)) :=
  Feed.read (readListRecord "StationStatusData" "stations" read)

end StationStatus

namespace FreeBike

/-- The fields of a free bike record while they are read. -/
structure Slots where
  id : Option String := none
  lat : Option Float := none
  lon : Option Float := none
  isReserved : Option Bool := none
  isDisabled : Option Bool := none

/-- Read a free bike record. -/
def read : Reader FreeBike :=
  let n := "FreeBikeRecord"
  readRecord n
    (do
      let id ← requiredAt n 0 5 (← element true readString)
      let lat ← requiredAt n 1 5 (← element false readDouble)
      let lon ← requiredAt n 2 5 (← element false readDouble)
      let reserved := (← element false readFlag).getD false
      let disabled := (← element false readFlag).getD false
      pure ⟨id, lat, lon, reserved, disabled⟩)
    (do
      let s ← readKeyed ({} : Slots) fun s key => match key with
        | "bike_id" => do return some { s with id := ← slot key s.id readString }
        | "lat" => do return some { s with lat := ← slot key s.lat readDouble }
        | "lon" => do return some { s with lon := ← slot key s.lon readDouble }
        | "is_reserved" => do return some { s with isReserved := ← slot key s.isReserved readFlag }
        | "is_disabled" => do return some { s with isDisabled := ← slot key s.isDisabled readFlag }
        | _ => pure none
      let id ← required "bike_id" s.id
      let lat ← required "lat" s.lat
      let lon ← required "lon" s.lon
      pure ⟨id, lat, lon, s.isReserved.getD false, s.isDisabled.getD false⟩)

/-- Read the free bike status feed. -/
def readFeed : Reader (Feed (List FreeBike)) :=
  Feed.read (readListRecord "FreeBikeStatusData" "bikes" read)

end FreeBike

/-- Read a GeoJSON feature collection as the geometries of its features. -/
def readFeatureCollection : Reader (List (Option Shape)) := do
  let fields ← readValueMap
  match GeoJson.collectionShapes fields with
  | .ok shapes => pure shapes
  | .error e => failData (.custom e.message)

/-- Read the geofencing zones feed. -/
def readZonesFeed : Reader (Feed (List (Option Shape))) :=
  Feed.read (readRecord "GeofencingZonesData"
    (do requiredAt "GeofencingZonesData" 0 1 (← element true readFeatureCollection))
    (do
      let s ← readKeyed none fun s key =>
        if key = "geofencing_zones" then do return some (← slot key s readFeatureCollection)
        else pure none
      required "geofencing_zones" s))

end RentalRouting
