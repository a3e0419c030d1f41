/-
RentalRouting/Settings/Load.lean

Request configurations read from files.  A file holds TOML or JSON, after its name.  Its
text becomes a table of settings: a JSON document must be an object, its integers that fit
in 64 signed bits staying integers and the others becoming doubles.  A byte order mark at
the start of the text is not part of it.  A text that is not in
its format fails with the reason, at the file.  The configuration is then read from the
table, field by field and leniently: the mode string is required, the two flags default to
false, and the lists and numbers may be absent or nothing.  Unknown keys are ignored.
-/
import RentalRouting.Settings.Toml
import RentalRouting.Request.Config
import RentalRouting.Json.Reader

namespace RentalRouting

/-- The formats of configuration files. -/
inductive ConfigFormat where
  | toml
  | json
  deriving DecidableEq, Repr

open Json

mutual

/-- A JSON value as a setting. -/
def Setting.ofJson : Json → Setting
  | .null => .nil
  | .bool b => .boolean b
  | .number (.nat n) => .integer n
  | .number (.neg n) => .integer n
  | .number (.float x) => .float x
  | .string s => .text s
  | .array items => .array (Setting.ofJsonItems items)
  | .object fields => .table (Setting.ofJsonFields fields)

/-- JSON values as settings. -/
def Setting.ofJsonItems : List Json → List Setting
  | [] => []
  | j :: rest => Setting.ofJson j :: Setting.ofJsonItems rest

/-- JSON fields as settings. -/
def Setting.ofJsonFields : List (String × Json) → List (String × Setting)
  | [] => []
  | (k, j) :: rest => (k, Setting.ofJson j) :: Setting.ofJsonFields rest

end

/-- The text without one leading byte order mark. -/
def dropByteOrderMark (text : String) : String :=
  match text.toList with
  | '\uFEFF' :: rest => String.ofList rest
  | _ => text

/-- The table of settings of a file's text, one leading byte order mark dropped; `uri` names
the file. -/
def ConfigFormat.read (format : ConfigFormat) (text uri : String) :
    Except SettingError (List (String × Setting)) :=
  let text := dropByteOrderMark text
  match format with
  | .toml => (readToml text).mapError fun cause => .unparsable cause uri
  | .json =>
    match parseText text.toUTF8 with
    | .error e => .error (.unparsable (e.render text.toUTF8) uri)
    | .ok j =>
      match Setting.ofJson j with
      | .table t => .ok t
      | v => .error (.unparsable (SettingError.wrongType v.found "a map" none (some uri)).text uri)

namespace RequestConfig

/-- Read one setting of a configuration into its slot.  A table is built afresh when the
configuration is gathered, so it no longer names the file it came from. -/
def readSetting (file : Option String) (s : Slots) (key : String) (v : Setting) :
    Except SettingError Slots :=
  let origin := match v with
    | .table _ => none
    | _ => file
  let names := Setting.toOption (Setting.toTexts origin)
  let number := Setting.toOption (Setting.toDouble origin)
  (match key with
    | "modes" => do return { s with modes := some (← v.toText origin) }
    | "arrive_by" => do return { s with arriveBy := some (← v.toBool origin) }
    | "use_vehicle_rental_availability_information" =>
      do return { s with useAvailability := some (← v.toBool origin) }
    | "white_listed_providers" => do return { s with allowedProviders := some (← names v) }
    | "banned_providers" => do return { s with bannedProviders := some (← names v) }
    | "white_listed_vehicles" => do return { s with allowedVehicles := some (← names v) }
    | "banned_vehicles" => do return { s with bannedVehicles := some (← names v) }
    | "minimum_vehicle_rental_distance_meters" =>
      do return { s with minimumRentalDistance := some (← number v) }
    | "vehicle_rental_pickup_cost" => do return { s with pickupCost := some (← number v) }
    | "vehicle_rental_pickup_time_seconds" => do return { s with pickupTime := some (← number v) }
    | "vehicle_rental_dropoff_cost" => do return { s with dropoffCost := some (← number v) }
    | "vehicle_rental_dropoff_time_seconds" =>
      do return { s with dropoffTime := some (← number v) }
    | "walk_speed_meters_per_second" => do return { s with walkSpeed := some (← number v) }
    | "micromobility_speed_meters_per_second" =>
      do return { s with micromobilitySpeed := some (← number v) }
    | "walk_reluctance" => do return { s with walkReluctance := some (← number v) }
    | _ => pure s).mapError (SettingError.atKey key)

/-- Read a configuration from a table of settings that came from `origin`. -/
def ofSettings (origin : Option String) (table : List (String × Setting)) :
    Except SettingError RequestConfig := do
  let s ← table.foldlM (fun s (k, v) => readSetting origin s k v) {}
  match ofSlots s with
  | .ok c => pure c
  | .error _ => throw (.message "missing configuration field \"modes\"")

/-- Read a configuration from the text of a file named `uri`. -/
def load (format : ConfigFormat) (text uri : String) : Except RequestError RequestConfig :=
  let read : Except SettingError RequestConfig := do ofSettings (some uri) (← format.read text uri)
  read.mapError fun e => .configuration e.text

end RequestConfig

end RentalRouting
