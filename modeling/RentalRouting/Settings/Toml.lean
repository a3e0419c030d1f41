/-
RentalRouting/Settings/Toml.lean

TOML documents as settings.  A document that cannot be read fails with its fault shown
under the document.  Otherwise its values become settings, every table's keys in order of
their names: strings, booleans and arrays stay what they are, a date-time becomes its text,
an integer must fit in 64 signed bits, and a float may not be so large that it overflows to
infinity unless it is written as `inf`.  The first value that fails, in that order, fails
the document, with no place given.
-/
import RentalRouting.Toml.Document
import RentalRouting.Settings.Value
import RentalRouting.Numeric.Read

namespace RentalRouting

namespace Toml

/-- The value of digits of a radix with an optional sign, as a 64-bit signed integer; the
failures are those of reading an integer: no text, a character that is no digit, or a value
too large or too small. -/
def integerValue (text : List Char) (radix : Nat) : Except String Int :=
  let (negative, digits) := match text with
    | '-' :: rest => (true, rest)
    | '+' :: rest => (false, rest)
    | cs => (false, cs)
  let limit := if negative then Nat.pow 2 63 else Nat.pow 2 63 - 1
  let rec go : Nat → List Char → Except String Nat
    | n, [] => .ok n
    | n, c :: cs =>
      match hexDigit? c with
      | some d =>
        if d < radix then
          let m := n * radix + d
          if limit < m then
            .error (if negative then "number too small to fit in target type"
              else "number too large to fit in target type")
          else go m cs
        else .error "invalid digit found in string"
      | none => .error "invalid digit found in string"
  if text.isEmpty then .error "cannot parse integer from empty string"
  else if digits.isEmpty then .error "invalid digit found in string"
  else (fun n => if negative then -(n : Int) else n) <$> go 0 digits

/-- The value of a float's text; a finite number too large for a double overflows. -/
def floatValue (text : List Char) : Except String Float :=
  match readNumberWord? (String.ofList text) with
  | some x =>
    if x.isInf && !(String.ofList text).contains 'i' then .error "floating-point number overflowed"
    else .ok x
  | none => .error "invalid float literal"

/-- Two entries in the order of their keys. -/
def entryBefore (a b : KeyName × Node) : Bool := !(b.1.name < a.1.name)

mutual

/-- A value with the keys of all its tables in order. -/
def Node.sorted : Node → Node
  | .scalar s => .scalar s
  | .array items tables => .array (sortedItems items) tables
  | .table es sh => .table ((sortedEntries es).mergeSort entryBefore) sh

/-- Values with their tables' keys in order. -/
def sortedItems : List Node → List Node
  | [] => []
  | n :: ns => n.sorted :: sortedItems ns

/-- Entries whose values have their tables' keys in order. -/
def sortedEntries : Entries → Entries
  | [] => []
  | (k, n) :: more => (k, n.sorted) :: sortedEntries more

end

mutual

/-- A value as a setting. -/
def Node.toSetting : Node → Except String Setting
  | .scalar (.string s) => .ok (.text s)
  | .scalar (.boolean b) => .ok (.boolean b)
  | .scalar (.integer ds radix) => Setting.integer <$> integerValue ds radix
  | .scalar (.float text) => Setting.float <$> floatValue text
  | .scalar (.datetime d) => .ok (.text d.text)
  | .array items _ => Setting.array <$> itemSettings items
  | .table es _ => Setting.table <$> entrySettings es

/-- Values as settings. -/
def itemSettings : List Node → Except String (List Setting)
  | [] => .ok []
  | n :: ns => do
    let s ← n.toSetting
    pure (s :: (← itemSettings ns))

/-- Entries as settings. -/
def entrySettings : Entries → Except String (List (String × Setting))
  | [] => .ok []
  | (k, n) :: more => do
    let s ← n.toSetting
    pure ((k.name, s) :: (← entrySettings more))

end

end Toml

/-- Read a TOML document as a table of settings, or the text of its failure. -/
def readToml (text : String) : Except String (List (String × Setting)) :=
  match Toml.readDocument text with
  | .error f => .error (f.render text)
  | .ok root => Toml.entrySettings (Toml.sortedEntries root |>.mergeSort Toml.entryBefore)

end RentalRouting
