/-
RentalRouting/Json/Typed.lean

Typed reading of JSON text: readers that want a string, a number of a given range, an
optional value, a sequence, a map or a record, and fail with a `DataError` otherwise.

A record is read from an object, by field name, or from an array, field after field.  In
an object every field may come once (`slot`) and unknown fields are skipped; a required
field that never came is missing.  In an array a field with a default may be left out at
the end; a required one left out makes the length invalid.  The closing bracket of an
array or object is read even after its body failed, and a data error then takes the
position where reading stopped, which is after the closing bracket when the body had read
all its fields.  A value of the wrong shape is read to its end (arrays and objects apart)
before it is reported.
-/
import RentalRouting.Json.Reader
import RentalRouting.Json.DataError

namespace RentalRouting.Json

/-- Fail with a data error that waits for a position. -/
def failData {α : Type} (e : DataError) : Reader α := failLater e.message

/-- Fail with a data error at the current position. -/
def failDataHere {α : Type} (e : DataError) : Reader α := do
  throw (← place ⟨e.message, none⟩)

/-- Report the value ahead as not what a reader of `expected` wants. -/
def invalidTypeAhead {α : Type} (expected : String) : Reader α := do
  match ← peekToken with
  | none => failAhead SyntaxError.eofWhileValue.message
  | some b =>
    let found ← do
      if b == 110 then eat; expectWord [117, 108, 108]; pure Unexpected.null
      else if b == 116 then eat; expectWord [114, 117, 101]; pure (Unexpected.bool true)
      else if b == 102 then eat; expectWord [97, 108, 115, 101]; pure (Unexpected.bool false)
      else if b == 45 || isDigit b then pure (← readNumber).unexpected
      else if b == 34 then eat; pure (Unexpected.string (← readStringBody))
      else if b == 91 then pure Unexpected.sequence
      else if b == 123 then pure Unexpected.map
      else failAhead SyntaxError.expectedValue.message
    failDataHere (.invalidType found expected)

/-- Read a string. -/
def readString : Reader String := placed do
  match ← peekToken with
  | none => failAhead SyntaxError.eofWhileValue.message
  | some 34 => eat; readStringBody
  | some _ => invalidTypeAhead "a string"

/-- Read a number and convert it; a value that is no number is of the wrong shape. -/
def readNumberAs {α : Type} (expected : String) (convert : Number → Except DataError α) :
    Reader α := placed do
  match ← peekToken with
  | none => failAhead SyntaxError.eofWhileValue.message
  | some b =>
    if b == 45 || isDigit b then
      match convert (← readNumber) with
      | .ok a => pure a
      | .error e => failData e
    else invalidTypeAhead expected

/-- Read a signed 64-bit integer. -/
def readInt64 : Reader Int := readNumberAs "i64" Number.asInt64

/-- Read an unsigned 32-bit integer. -/
def readWord32 : Reader Nat := readNumberAs "u32" Number.asWord32

/-- Read a double. -/
def readDouble : Reader Float := readNumberAs "f64" Number.asDouble

/-- Read `null` as `none`, anything else with `r`. -/
def readOption {α : Type} (r : Reader α) : Reader (Option α) := do
  match ← peekToken with
  | some 110 => eat; expectWord [117, 108, 108]; pure none
  | _ => some <$> r

/-- Open an array or object at its bracket, read its body, then its closing bracket. -/
def nested {α : Type} (body : Reader α) (close : Reader Unit) : Reader α := do
  enter
  eat
  let a ← framed body close
  leave
  pure a

/-- Read a sequence of items. -/
def readSeq {α : Type} (item : Reader α) : Reader (List α) := placed do
  match ← peekToken with
  | none => failAhead SyntaxError.eofWhileValue.message
  | some 91 => nested (readItems item) closeArray
  | some _ => invalidTypeAhead "a sequence"

/-- Read an object of values, sorted by key, a later duplicate winning. -/
def readValueMap : Reader (List (String × Json)) := placed do
  match ← peekToken with
  | none => failAhead SyntaxError.eofWhileValue.message
  | some 123 => nested (readFields readValue) closeObject
  | some _ => invalidTypeAhead "a map"

/-- Read a record named `name`, with `fromSeq` from an array and `fromMap` from an object. -/
def readRecord {α : Type} (name : String) (fromSeq fromMap : Reader α) : Reader α := placed do
  match ← peekToken with
  | none => failAhead SyntaxError.eofWhileValue.message
  | some 91 => nested fromSeq closeArray
  | some 123 => nested fromMap closeObject
  | some _ => invalidTypeAhead ("struct " ++ name)

/-- Read the fields of an object into a record of slots: `step` takes a known key, reads
the colon and the value, and answers the new slots; it answers `none` for an unknown key,
whose value is then skipped. -/
def readKeyed {σ : Type} (init : σ) (step : σ → String → Reader (Option σ)) : Reader σ := do
  let text ← read
  let rec go : Nat → Bool → σ → Reader σ
    | 0, _, s => pure s
    | fuel + 1, first, s => do
      match ← nextKey first with
      | none => pure s
      | some key =>
        match ← step s key with
        | some s' => go fuel false s'
        | none =>
          colon
          skipValue
          go fuel false s
  go (text.size + 1) true init

/-- Fill a slot of a record: a second value for the field is an error, found before its
colon is read. -/
def slot {α : Type} (name : String) (current : Option α) (value : Reader α) :
    Reader (Option α) := do
  if current.isSome then failData (.duplicateField name)
  else
    colon
    return some (← value)

/-- The value of a required field. -/
def required {α : Type} (name : String) : Option α → Reader α
  | some a => pure a
  | none => failData (.missingField name)

/-- The next item of an array read as a record's field, if one follows. -/
def element {α : Type} (first : Bool) (r : Reader α) : Reader (Option α) := do
  if ← itemFollows first then return some (← r) else return none

/-- A required field of a record read from an array: without it the array is too short
for a record of `count` fields. -/
def requiredAt {α : Type} (name : String) (index count : Nat) : Option α → Reader α
  | some a => pure a
  | none => failData (.invalidLength index (recordOfLength name count))

/-- Read a whole text with `r`, followed only by blanks. -/
def readText {α : Type} (r : Reader α) (text : ByteArray) : Except ReadError α :=
  let whole : Reader α := do
    let a ← r
    match ← peekToken with
    | some _ => failAhead SyntaxError.trailingCharacters.message
    | none => pure a
  (whole.run' text).1

end RentalRouting.Json
