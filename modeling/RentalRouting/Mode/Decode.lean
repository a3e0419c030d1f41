/-
RentalRouting/Mode/Decode.lean

Travel modes and mode sets stored as JSON.  A mode is stored as its key, or as an object
whose single field is named by the key and holds `null`; a mode set is stored as the list
of its modes, in any order and with repeats.
-/
import RentalRouting.Mode.Set
import RentalRouting.Json.Decode

namespace RentalRouting

open Json

/-- Decode a mode named by its key. -/
def TravelMode.decodeKey (key : String) : Decoded TravelMode :=
  match TravelMode.ofKey? key with
  | some m => .ok m
  | none => .error (.unknownVariant key (TravelMode.all.map TravelMode.key))

/-- Decode a stored mode. -/
def TravelMode.decode : Json → Decoded TravelMode
  | .string key => TravelMode.decodeKey key
  | .object [(key, value)] => do
    let m ← TravelMode.decodeKey key
    match value with
    | .null => .ok m
    | j => .error (.invalidType j.unexpected "unit")
  | .object _ => .error (.invalidValue .map "map with a single key")
  | j => .error (.invalidType j.unexpected "string or map")

/-- Decode a stored mode set. -/
def ModeSet.decode (j : Json) : Decoded ModeSet := do
  return ModeSet.ofList (← asList TravelMode.decode j)

end RentalRouting
