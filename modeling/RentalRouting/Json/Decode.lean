/-
RentalRouting/Json/Decode.lean

Typed decoding of JSON values already read.  A decoder wants one shape and fails with a
`DataError` naming what it found; a number decoder also checks the range.  A record is
decoded from an object field by field, in the key order of the object, and then its
required fields are checked in the order the record declares them; it may also be given
as an array, field after field, where a record of the buffered kind (`Items.buffered`)
counts its leftover items differently from one decoded from a plain value.
-/
import RentalRouting.Json.DataError

namespace RentalRouting.Json

/-- A decoding result. -/
abbrev Decoded := Except DataError

/-- Decode a string. -/
def asString : Json → Decoded String
  | .string s => .ok s
  | j => .error (.invalidType j.unexpected "a string")

/-- Decode a boolean. -/
def asBool : Json → Decoded Bool
  | .bool b => .ok b
  | j => .error (.invalidType j.unexpected "a boolean")

/-- Decode a number with a conversion that checks its range. -/
def asNumber {α : Type} (expected : String) (convert : Number → Decoded α) : Json → Decoded α
  | .number n => convert n
  | j => .error (.invalidType j.unexpected expected)

/-- Decode a double. -/
def asDouble : Json → Decoded Float := asNumber "f64" Number.asDouble

/-- Decode an unsigned 32-bit integer. -/
def asWord32 : Json → Decoded Nat := asNumber "u32" Number.asWord32

/-- Decode a signed 64-bit integer. -/
def asInt64 : Json → Decoded Int := asNumber "i64" Number.asInt64

/-- Decode `null` as `none` and anything else with `f`. -/
def asOption {α : Type} (f : Json → Decoded α) : Json → Decoded (Option α)
  | .null => .ok none
  | j => some <$> f j

/-- Decode an array item by item. -/
def asList {α : Type} (f : Json → Decoded α) : Json → Decoded (List α)
  | .array items => items.mapM f
  | j => .error (.invalidType j.unexpected "a sequence")

/-- Decode an object of strings. -/
def asStringMap : Json → Decoded (List (String × String))
  | .object fields => fields.mapM fun (k, v) => do return (k, ← asString v)
  | j => .error (.invalidType j.unexpected "a map")

/-- How leftover array items of a record are counted in the error. -/
inductive Items where
  /-- A record decoded from a plain value. -/
  | plain
  /-- A record decoded from buffered content. -/
  | buffered
  deriving DecidableEq, Repr

/-- The error for an array of `total` items of which a record used `used`. -/
def Items.leftover (kind : Items) (total used : Nat) : DataError :=
  match kind with
  | .plain => .invalidLength total "fewer elements in array"
  | .buffered =>
    .invalidLength total (decimalDigits used ++ (if used = 1 then " element" else " elements") ++
      " in sequence")

/-- Decode the fields of an object into slots: `step` takes each field in key order and
leaves the slots as they are for an unknown key. -/
def decodeFields {σ : Type} (fields : List (String × Json)) (init : σ)
    (step : σ → String → Json → Decoded σ) : Decoded σ :=
  fields.foldlM (fun s kv => step s kv.1 kv.2) init

/-- The value of a required field. -/
def requireField {α : Type} (name : String) : Option α → Decoded α
  | some a => .ok a
  | none => .error (.missingField name)

/-- The items of an array left to decode, with the number used so far. -/
structure ItemCursor where
  rest : List Json
  used : Nat

/-- Take the next item of an array for a record field. -/
def ItemCursor.next (c : ItemCursor) : Option Json × ItemCursor :=
  match c.rest with
  | [] => (none, c)
  | j :: rest => (some j, ⟨rest, c.used + 1⟩)

/-- A required field of a record decoded from an array. -/
def requireItem {α : Type} (record : String) (count : Nat) (index : Nat) :
    Option α → Decoded α
  | some a => .ok a
  | none => .error (.invalidLength index (recordOfLength record count))

/-- Check that a record used every item of its array. -/
def ItemCursor.finish (c : ItemCursor) (kind : Items) : Decoded Unit :=
  if c.rest.isEmpty then .ok () else .error (kind.leftover (c.used + c.rest.length) c.used)

end RentalRouting.Json
