/-
RentalRouting/Json/Value.lean

JSON values.  A number is kept the way a JSON reader with 64-bit words keeps it: a natural
number below `2 ^ 64`, a negative integer from `-2 ^ 63`, or a finite double.  An object is
a list of fields; the reader keeps it sorted by key with distinct keys (`Json.insertField`),
while a writer may build one in any order it wants printed.
-/
import RentalRouting.Numeric.Text

namespace RentalRouting

/-- A JSON number: a word, a negative word, or a finite double. -/
inductive Number where
  /-- A natural number below `2 ^ 64`. -/
  | nat (n : Nat)
  /-- A negative integer not below `-2 ^ 63`. -/
  | neg (n : Int)
  /-- A finite double. -/
  | float (x : Float)
  deriving Inhabited

namespace Number

/-- The number as a double: words are rounded to the nearest double. -/
def toFloat : Number → Float
  | .nat n => Double.ofNat n
  | .neg n => Double.ofInt n
  | .float x => x

/-- The number's text: words in decimal, doubles in the JSON style. -/
def text : Number → String
  | .nat n => decimalDigits n
  | .neg n => "-" ++ decimalDigits n.natAbs
  | .float x => FloatStyle.json.render x

end Number

/-- A JSON value. -/
inductive Json where
  | null
  | bool (b : Bool)
  | number (n : Number)
  | string (s : String)
  | array (items : List Json)
  | object (fields : List (String × Json))
  deriving Inhabited

namespace Json

/-- Put a field into a key-sorted object, replacing the value of an equal key. -/
def insertField (key : String) (value : Json) : List (String × Json) → List (String × Json)
  | [] => [(key, value)]
  | (k, v) :: rest =>
    if key < k then (key, value) :: (k, v) :: rest
    else if key = k then (key, value) :: rest
    else (k, v) :: insertField key value rest

/-- The value of a key in an object's fields. -/
def lookup (key : String) : List (String × Json) → Option Json
  | [] => none
  | (k, v) :: rest => if k = key then some v else lookup key rest

/-- The value of a field when this is an object that has it. -/
def field? (j : Json) (key : String) : Option Json :=
  match j with
  | .object fields => lookup key fields
  | _ => none

/-- A natural number. -/
def ofNat (n : Nat) : Json := .number (.nat n)

/-- An integer. -/
def ofInt (n : Int) : Json := if n < 0 then .number (.neg n) else .number (.nat n.toNat)

/-- A list of texts. -/
def ofStrings (items : List String) : Json := .array (items.map .string)

/-- An optional value, `null` when absent. -/
def ofOption {α : Type} (f : α → Json) : Option α → Json
  | some a => f a
  | none => .null

theorem lookup_insertField_self (key : String) (value : Json) (fields : List (String × Json)) :
    lookup key (insertField key value fields) = some value := by
  induction fields with
  | nil => simp [insertField, lookup]
  | cons head rest ih =>
    obtain ⟨k, v⟩ := head
    unfold insertField
    by_cases hlt : key < k
    · simp [hlt, lookup]
    · by_cases heq : key = k
      · simp [heq, lookup]
      · simp only [hlt, heq, if_false, lookup]
        have hne : k ≠ key := fun h => heq h.symm
        simp [hne, ih]

end Json

end RentalRouting
