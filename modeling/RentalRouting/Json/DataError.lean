/-
RentalRouting/Json/DataError.lean

Errors of typed reading: a JSON value was read well but is not what a field wants.  The
message names what was found (`Unexpected`) and what was expected, in the words used for
the shapes of JSON: `boolean`, `integer`, `floating point`, `string`, `null`, `sequence`,
`map`.  A floating point value found is written in the JSON number style; a string found is
quoted with its unprintable characters escaped.
-/
import RentalRouting.Json.Value
import RentalRouting.Text.Escaped

namespace RentalRouting.Json

/-- What a typed reader found. -/
inductive Unexpected where
  | bool (b : Bool)
  | nat (n : Nat)
  | neg (n : Int)
  | float (x : Float)
  | string (s : String)
  | null
  | sequence
  | map
  deriving Inhabited

/-- The text of what was found. -/
def Unexpected.text : Unexpected → String
  | .bool b => "boolean `" ++ (if b then "true" else "false") ++ "`"
  | .nat n => "integer `" ++ decimalDigits n ++ "`"
  | .neg n => "integer `-" ++ decimalDigits n.natAbs ++ "`"
  | .float x => "floating point `" ++ FloatStyle.json.render x ++ "`"
  | .string s => "string " ++ Text.escapedQuote s
  | .null => "null"
  | .sequence => "sequence"
  | .map => "map"

/-- The names of the accepted variants: one, two joined by `or`, or a list. -/
def oneOf (names : List String) : String :=
  let quoted := names.map fun n => "`" ++ n ++ "`"
  match quoted with
  | [a] => a
  | [a, b] => a ++ " or " ++ b
  | _ => "one of " ++ ", ".intercalate quoted

/-- An error of typed reading. -/
inductive DataError where
  /-- A value of the wrong shape. -/
  | invalidType (found : Unexpected) (expected : String)
  /-- A value of the right shape out of the field's range. -/
  | invalidValue (found : Unexpected) (expected : String)
  /-- A sequence with too few items. -/
  | invalidLength (length : Nat) (expected : String)
  /-- A required field is absent. -/
  | missingField (name : String)
  /-- A field is given twice. -/
  | duplicateField (name : String)
  /-- A text names no variant of an enumeration. -/
  | unknownVariant (name : String) (expected : List String)
  /-- An error in the words of the field's own reader. -/
  | custom (text : String)
  deriving Inhabited

/-- The text of an error of typed reading. -/
def DataError.message : DataError → String
  | .invalidType found expected => "invalid type: " ++ found.text ++ ", expected " ++ expected
  | .invalidValue found expected => "invalid value: " ++ found.text ++ ", expected " ++ expected
  | .invalidLength length expected =>
    "invalid length " ++ decimalDigits length ++ ", expected " ++ expected
  | .missingField name => "missing field `" ++ name ++ "`"
  | .duplicateField name => "duplicate field `" ++ name ++ "`"
  | .unknownVariant name [] => "unknown variant `" ++ name ++ "`, there are no variants"
  | .unknownVariant name expected =>
    "unknown variant `" ++ name ++ "`, expected " ++ oneOf expected
  | .custom text => text

/-- What a record of `count` fields read from a too short array expected. -/
def recordOfLength (name : String) (count : Nat) : String :=
  "struct " ++ name ++ " with " ++ decimalDigits count ++ (if count = 1 then " element" else " elements")

end RentalRouting.Json

namespace RentalRouting

open Json

/-- What a number is, as found by a typed reader. -/
def Number.unexpected : Number → Unexpected
  | .nat n => .nat n
  | .neg n => .neg n
  | .float x => .float x

/-- What a value is, as found by a typed reader. -/
def Json.unexpected : Json → Unexpected
  | .null => .null
  | .bool b => .bool b
  | .number n => n.unexpected
  | .string s => .string s
  | .array _ => .sequence
  | .object _ => .map

/-- A number as a signed 64-bit integer: a natural number above `2 ^ 63 - 1` is out of
range and a double is of the wrong shape. -/
def Number.asInt64 : Number → Except DataError Int
  | .nat n => if n < Nat.pow 2 63 then .ok n else .error (.invalidValue (.nat n) "i64")
  | .neg n => .ok n
  | .float x => .error (.invalidType (.float x) "i64")

/-- A number as an unsigned 32-bit integer: a negative integer or one above `2 ^ 32 - 1`
is out of range and a double is of the wrong shape. -/
def Number.asWord32 : Number → Except DataError Nat
  | .nat n => if n < Nat.pow 2 32 then .ok n else .error (.invalidValue (.nat n) "u32")
  | .neg n => .error (.invalidValue (.neg n) "u32")
  | .float x => .error (.invalidType (.float x) "u32")

/-- A number as a double: words are rounded to the nearest double. -/
def Number.asDouble (n : Number) : Except DataError Float := .ok n.toFloat

end RentalRouting
