/-
RentalRouting/Toml/Fault.lean

Why a TOML document cannot be read, and how that is shown.  A fault has a span of the
document (character positions, the end excluded; an empty span marks the place between two
characters), a description, and what was expected there: nothing said, nothing at all, or a
list of literal texts and descriptions.

A fault is shown as the line and column of the start of its span, the line itself, a row
of carets under the span, and the message.  Positions are those of the UTF-8 bytes of the
document: the column counts the characters before the fault on its line, or their bytes
when the character at the fault is not ASCII, and a fault at the very end stands one past
the last character, on that character's line.  The carets cover the bytes of the span, at
least one and no further than one past the line.
-/
namespace RentalRouting.Toml

/-- One thing a fault expected. -/
inductive Expected where
  /-- This very text. -/
  | literal (text : String)
  /-- Something so described. -/
  | description (text : String)
  deriving DecidableEq, Repr

/-- An expected thing as text: a line feed is called a newline, other texts are quoted. -/
def Expected.render : Expected → String
  | .literal "\n" => "newline"
  | .literal s => "`" ++ s ++ "`"
  | .description s => s

/-- A fault of a document. -/
structure Fault where
  start : Nat
  stop : Nat
  description : String
  expected : Option (List Expected) := none
  deriving Repr

/-- A fault at one place, expecting what `expected` lists. -/
def Fault.at (position : Nat) (description : String) (expected : List Expected) : Fault :=
  ⟨position, position, description, some expected⟩

/-- A fault at one place that says nothing of what was expected. -/
def Fault.bare (position : Nat) (description : String) : Fault :=
  ⟨position, position, description, none⟩

/-- The message of a fault: its description, then what was expected. -/
def Fault.message (f : Fault) : String :=
  f.description ++
    match f.expected with
    | none => ""
    | some [] => ", expected nothing"
    | some es => ", expected " ++ ", ".intercalate (es.map Expected.render)

/-- The number of UTF-8 bytes of some characters. -/
def byteLength (cs : List Char) : Nat := cs.foldl (fun n c => n + c.utf8Size) 0

/-- The decimal digits of a number. -/
def decimal (n : Nat) : String := String.ofList (Nat.toDigits 10 n)

/-- The line (from zero) and the column (from zero) of a character position of a
document. -/
def locate (chars : List Char) (position : Nat) : Nat × Nat :=
  if chars.isEmpty then (0, byteLength (chars.take position))
  else
    let atEnd := chars.length ≤ position
    let here := if atEnd then chars.length - 1 else position
    let before := chars.take here
    let lineChars := (before.reverse.takeWhile (· != '\n')).reverse
    let line := (before.take (before.length - lineChars.length)).count '\n'
    let column :=
      if atEnd then lineChars.length + 1
      else match chars.drop here with
        | c :: _ => if c.toNat < 0x80 then lineChars.length else byteLength lineChars
        | [] => lineChars.length
    (line, column)

/-- A fault as text, under the document it was found in. -/
def Fault.render (text : String) (f : Fault) : String :=
  let chars := text.toList
  let (line, column) := locate chars f.start
  let content := (text.splitOn "\n").getD line ""
  let spanBytes := byteLength ((chars.drop f.start).take (f.stop - f.start))
  let highlight := min spanBytes (content.utf8ByteSize - column)
  let number := decimal (line + 1)
  let gutter := String.ofList (List.replicate (number.length + 1) ' ')
  "TOML parse error at line " ++ number ++ ", column " ++ decimal (column + 1) ++ "\n" ++
    gutter ++ "|\n" ++
    number ++ " | " ++ content ++ "\n" ++
    gutter ++ "|" ++ String.ofList (List.replicate (column + 1) ' ') ++
    String.ofList (List.replicate (max 1 highlight) '^') ++ "\n" ++
    f.message ++ "\n"

end RentalRouting.Toml
