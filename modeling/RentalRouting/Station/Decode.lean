/-
RentalRouting/Station/Decode.lean

Stations and names stored as JSON objects.  A name is `{"default": s, "translations":
{tag: s}}`, the translations optional; it may also be an array of the two.  A station
object holds the place fields (`id`, `name`, `x`, `y`, `allow_dropoff`, `allow_pickup`,
`networks`) beside the rental fields (`vehicles_available`, `spaces_available`,
`is_floating_vehicle`, `vehicle_type`, `is_border_dropoff`).  The rental fields are
decoded first, in key order, while the place fields are set aside; the place fields are
decoded next, in key order, and then `id`, `name`, `x` and `y` are required in that order.
Every field but those four has a default, and unknown fields are ignored.
-/
import RentalRouting.Station.Basic
import RentalRouting.Json.Decode

namespace RentalRouting

open Json

namespace LocalName

/-- Decode the translations of a name. -/
def decodeTranslations (j : Json) : Decoded (List (String × String)) := do
  let pairs ← asStringMap j
  return pairs.foldl (fun acc (t, v) => insertTranslation t v acc) []

/-- Decode a name; `items` says how leftover array items are counted. -/
def decode (items : Items) : Json → Decoded LocalName
  | .object fields => do
    let (default, translations) ← decodeFields fields ((none : Option String), (none : Option (List (String × String))))
      fun s key v => match key with
        | "default" => do return (some (← asString v), s.2)
        | "translations" => do return (s.1, some (← decodeTranslations v))
        | _ => pure s
    return ⟨← requireField "default" default, translations.getD []⟩
  | .array xs => do
    let c : ItemCursor := ⟨xs, 0⟩
    let (v, c) := c.next
    let default ← requireItem "LocalizedName" 2 0 (← v.mapM asString)
    let (v, c) := c.next
    let translations := (← v.mapM decodeTranslations).getD []
    c.finish items
    return ⟨default, translations⟩
  | j => .error (.invalidType j.unexpected "struct LocalizedName")

end LocalName

namespace Station

/-- The rental fields of a station while they are decoded, with the place fields set
aside. -/
structure RentalSlots where
  vehiclesAvailable : Option (Option Nat) := none
  spacesAvailable : Option (Option Nat) := none
  isFloating : Option Bool := none
  kind : Option VehicleKind := none
  isBorderDropoff : Option Bool := none
  place : List (String × Json) := []

/-- The place fields of a station while they are decoded. -/
structure PlaceSlots where
  id : Option String := none
  name : Option LocalName := none
  x : Option Float := none
  y : Option Float := none
  allowDropoff : Option Bool := none
  allowPickup : Option Bool := none
  networks : Option Networks := none

/-- Decode one rental field, or set a place field aside. -/
def decodeRental (s : RentalSlots) (key : String) (v : Json) : Decoded RentalSlots :=
  match key with
  | "vehicles_available" => do return { s with vehiclesAvailable := some (← asOption asWord32 v) }
  | "spaces_available" => do return { s with spacesAvailable := some (← asOption asWord32 v) }
  | "is_floating_vehicle" => do return { s with isFloating := some (← asBool v) }
  | "vehicle_type" => do return { s with kind := some (VehicleKind.ofToken (← asString v)) }
  | "is_border_dropoff" => do return { s with isBorderDropoff := some (← asBool v) }
  | _ => .ok { s with place := s.place ++ [(key, v)] }

/-- Decode one place field. -/
def decodePlace (s : PlaceSlots) (key : String) (v : Json) : Decoded PlaceSlots :=
  match key with
  | "id" => do return { s with id := some (← asString v) }
  | "name" => do return { s with name := some (← LocalName.decode .buffered v) }
  | "x" => do return { s with x := some (← asDouble v) }
  | "y" => do return { s with y := some (← asDouble v) }
  | "allow_dropoff" => do return { s with allowDropoff := some (← asBool v) }
  | "allow_pickup" => do return { s with allowPickup := some (← asBool v) }
  | "networks" => do
    return { s with networks := some ((← asOption (asList asString) v).map nameSet) }
  | _ => .ok s

/-- Decode a station object. -/
def decode : Json → Decoded Station
  | .object fields => do
    let r ← decodeFields fields {} decodeRental
    let p ← decodeFields r.place {} decodePlace
    let id ← requireField "id" p.id
    let name ← requireField "name" p.name
    let x ← requireField "x" p.x
    let y ← requireField "y" p.y
    return {
      id := id, name := name, x := x, y := y
      allowDropoff := p.allowDropoff.getD true
      allowPickup := p.allowPickup.getD true
      networks := p.networks.getD none
      vehiclesAvailable := r.vehiclesAvailable.getD none
      spacesAvailable := r.spacesAvailable.getD none
      isFloating := r.isFloating.getD false
      kind := r.kind.getD .unknown
      isBorderDropoff := r.isBorderDropoff.getD false }
  | j => .error (.invalidType j.unexpected "struct VehicleRentalStation")

end Station

end RentalRouting
