/-
RentalRouting/Settings/Value.lean

Settings: the values a configuration file holds (nothing, booleans, integers that fit in
64 bits, signed or not, doubles, strings, tables and arrays), and how they are read as the type a field wants.  The
reading is lenient: a string is read from any boolean or number (numbers written as they
print), a boolean from a number (true when not zero) or from one of the words `true`,
`on`, `yes`, `1`, `false`, `off`, `no`, `0` in any case, and a double from a boolean, an
integer, a decimal literal or one of the words for true and false.  What cannot be read is
a type error that names what was found, what was wanted, the key it was found at and the
file it came from.
-/
import RentalRouting.Numeric.Read
import RentalRouting.Numeric.Text
import RentalRouting.Text.Case
import RentalRouting.Text.Escaped

namespace RentalRouting

/-- A value of a configuration file. -/
inductive Setting where
  | nil
  | boolean (b : Bool)
  | integer (n : Int)
  | float (x : Float)
  | text (s : String)
  | table (entries : List (String × Setting))
  | array (items : List Setting)
  deriving Inhabited

/-- What a setting was found to be. -/
inductive Found where
  | boolean (b : Bool)
  | integer (n : Int)
  | float (x : Float)
  | text (s : String)
  | unit
  | sequence
  | map

/-- A found setting as text. -/
def Found.describe : Found → String
  | .boolean b => "boolean `" ++ (if b then "true" else "false") ++ "`"
  | .integer n =>
    (if ((Nat.pow 2 63 : Nat) : Int) ≤ n then "64-bit unsigned integer `" else "64-bit integer `") ++
      (if n < 0 then "-" else "") ++ decimalDigits n.natAbs ++ "`"
  | .float x => "floating point `" ++ FloatStyle.plain.render x ++ "`"
  | .text s => "string " ++ Text.escapedQuote s
  | .unit => "unit value"
  | .sequence => "sequence"
  | .map => "map"

/-- A number as a generic reader describes it: a double always with a point. -/
def Found.describeGeneric : Found → String
  | .integer n => "integer `" ++ (if n < 0 then "-" else "") ++ decimalDigits n.natAbs ++ "`"
  | .float x =>
    let t := FloatStyle.plain.render x
    "floating point `" ++ (if x.isFinite && !t.contains '.' then t ++ ".0" else t) ++ "`"
  | f => f.describe

/-- Why settings could not be read. -/
inductive SettingError where
  /-- A value is not of the type wanted. -/
  | wrongType (found : Found) (expected : String) (key : Option String) (origin : Option String)
  /-- Any other failure, at a key. -/
  | keyed (message : String) (key : String)
  /-- Any other failure. -/
  | message (text : String)
  /-- A file is not in its format. -/
  | unparsable (cause : String) (uri : String)

namespace SettingError

/-- A key segment before a key: a dot between them unless the key is an index or empty. -/
def joinKey (segment : String) : Option String → String
  | none => segment
  | some key => if key.startsWith "[" || key.isEmpty then segment ++ key else segment ++ "." ++ key

/-- The error seen from the table holding the key. -/
def atKey (key : String) : SettingError → SettingError
  | .wrongType f e k o => .wrongType f e (some (joinKey key k)) o
  | .keyed m k => .keyed m (joinKey key (some k))
  | .message m => .keyed m key
  | e => e

/-- The error seen from the array holding the index. -/
def atIndex (index : Nat) : SettingError → SettingError :=
  atKey ("[" ++ decimalDigits index ++ "]")

/-- The text of a settings error. -/
def text : SettingError → String
  | .wrongType f e k o =>
    "invalid type: " ++ f.describe ++ ", expected " ++ e ++
      (match k with | some k => " for key `" ++ k ++ "`" | none => "") ++
      (match o with | some o => " in " ++ o | none => "")
  | .keyed m k => m ++ " for key `" ++ k ++ "`"
  | .message m => m
  | .unparsable cause uri => cause ++ " in " ++ uri

end SettingError

namespace Setting

/-- What a setting that cannot be read is. -/
def found : Setting → Found
  | .nil => .unit
  | .boolean b => .boolean b
  | .integer n => .integer n
  | .float x => .float x
  | .text s => .text s
  | .table _ => .map
  | .array _ => .sequence

/-- The setting as a string. -/
def toText (origin : Option String) : Setting → Except SettingError String
  | .text s => .ok s
  | .boolean b => .ok (if b then "true" else "false")
  | .integer n => .ok ((if n < 0 then "-" else "") ++ decimalDigits n.natAbs)
  | .float x => .ok (FloatStyle.plain.render x)
  | v => .error (.wrongType v.found "a string" none origin)

/-- The setting as a boolean. -/
def toBool (origin : Option String) : Setting → Except SettingError Bool
  | .boolean b => .ok b
  | .integer n => .ok (n != 0)
  | .float x => .ok (x != 0)
  | .text s =>
    let w := Text.lowerFull s
    if w = "1" || w = "true" || w = "on" || w = "yes" then .ok true
    else if w = "0" || w = "false" || w = "off" || w = "no" then .ok false
    else .error (.wrongType (.text w) "a boolean" none origin)
  | v => .error (.wrongType v.found "a boolean" none origin)

/-- The setting as a double. -/
def toDouble (origin : Option String) : Setting → Except SettingError Float
  | .float x => .ok x
  | .integer n => .ok (Double.ofInt n)
  | .boolean b => .ok (if b then 1 else 0)
  | .text s =>
    let w := Text.lowerFull s
    if w = "true" || w = "on" || w = "yes" then .ok 1
    else if w = "false" || w = "off" || w = "no" then .ok 0
    else
      match readNumberWord? s with
      | some x => .ok x
      | none => .error (.wrongType (.text s) "a floating point" none origin)
  | v => .error (.wrongType v.found "a floating point" none origin)

/-- The setting as an optional value: nothing is none. -/
def toOption {α : Type} (read : Setting → Except SettingError α) : Setting → Except SettingError (Option α)
  | .nil => .ok none
  | v => some <$> read v

/-- The setting as a list of strings: an array whose items are read as strings. -/
def toTexts (origin : Option String) : Setting → Except SettingError (List String)
  | .array items =>
    (items.zipIdx.mapM fun (v, i) => (v.toText origin).mapError (SettingError.atIndex i))
  | v => .error (.message ("invalid type: " ++ v.found.describeGeneric ++ ", expected a sequence"))

end Setting

end RentalRouting
