/-
RentalRouting/Toml/Scalar.lean

Reading the parts of keys and the scalars of a TOML document.

Strings.  A basic string `"..."` holds visible characters, spaces and tabs, and escapes:
`\b`, `\t`, `\n`, `\f`, `\r`, `\e`, `\"`, `\\`, and `\xHH`, `\uHHHH`, `\UHHHHHHHH` for the
character of that code point.  A literal string `'...'` holds the same characters as they
are, but no `'`.  Their multi-line forms also hold line endings (a line feed, or a carriage
return before one) and quotes, drop a line ending just after the opening quotes, and in the
basic form a backslash at the end of a line drops the blanks and line endings after it.  A
string must end with its closing quotes.

Other scalars are read by their first character: a sign or a digit begins a number or a
date-time (digits followed by `-` or `:`), `t` and `f` begin the booleans, `i` and `n` the
floats `inf` and `nan`.  Integers are decimal (no leading zero) or, unsigned, hexadecimal,
octal or binary after `0x`, `0o` or `0b`; floats have a fraction, an exponent, or both.
An underscore may stand only between two digits.  Anything else is a string that should have
been quoted.  Numbers are kept as their digits here; their values are taken later.

Every fault is placed in the document: at the character it is about, or over the whole
scalar.
-/
import RentalRouting.Toml.Datetime
import RentalRouting.Toml.Syntax

namespace RentalRouting.Toml

/-- What a scalar holds.  A number keeps its text without underscores: an integer in its
radix, with its sign when decimal, and a float as written. -/
inductive Scalar where
  | string (s : String)
  | boolean (b : Bool)
  | integer (digits : List Char) (radix : Nat)
  | float (text : List Char)
  | datetime (d : Datetime)
  deriving Repr

/-- The value of a hex digit. -/
def hexDigit? (c : Char) : Option Nat :=
  if c.isDigit then some (c.toNat - 48)
  else if 'a' ≤ c && c ≤ 'f' then some (c.toNat - 87)
  else if 'A' ≤ c && c ≤ 'F' then some (c.toNat - 55)
  else none

/-- The value of hex digits. -/
def hexValue? (cs : List Char) : Option Nat :=
  cs.foldlM (fun n c => (hexDigit? c).map (16 * n + ·)) 0

/-- The letters an escape is said to expect when its letter is not one of them (the tab's
`t`, though allowed, is not named). -/
def escapeExpected : List Expected :=
  [.literal "b", .literal "e", .literal "f", .literal "n", .literal "r", .literal "\\",
    .literal "\"", .literal "x", .literal "u", .literal "U"]

/-- The character of `count` hex digits at the start of `cs`, whose first character is at
`pos`, and the characters after them.  Fewer digits are refused after the last of them, a
number that is no character at the first. -/
def hexEscape (count pos : Nat) (cs : List Char) : Except Fault (Char × List Char) :=
  let ds := (cs.take count).takeWhile fun c => (hexDigit? c).isSome
  if ds.length < count then
    .error (Fault.at (pos + ds.length) "too few unicode value digits"
      [.description "unicode hexadecimal value"])
  else
    match hexValue? ds with
    | some n =>
      if n.isValidChar then .ok (Char.ofNat n, cs.drop count)
      else .error (Fault.at pos "invalid value" [.description "unicode hexadecimal value"])
    | none => .error (Fault.at pos "invalid value" [.description "unicode hexadecimal value"])

/-- The character an escape letter stands for. -/
def simpleEscape? : Char → Option Char
  | 'b' => some '\x08'
  | 't' => some '\t'
  | 'n' => some '\n'
  | 'f' => some '\x0c'
  | 'r' => some '\r'
  | 'e' => some '\x1b'
  | '"' => some '"'
  | '\\' => some '\\'
  | _ => none

/-- The escape after a backslash, its letter at `pos`: the character it stands for and the
characters after it. -/
def escapeAt (pos : Nat) : List Char → Except Fault (Char × List Char)
  | [] => .error (Fault.at pos "missing escaped value" escapeExpected)
  | 'x' :: rest => hexEscape 2 (pos + 1) rest
  | 'u' :: rest => hexEscape 4 (pos + 1) rest
  | 'U' :: rest => hexEscape 8 (pos + 1) rest
  | c :: rest =>
    match simpleEscape? c with
    | some d => .ok (d, rest)
    | none => .error (Fault.at pos "missing escaped value" escapeExpected)

/-- A character that stands for itself in a basic string. -/
def isBasicChar (c : Char) : Bool :=
  c = '\t' || (0x20 ≤ c.toNat && c.toNat ≤ 0x7E && c != '"' && c != '\\') || 0x80 ≤ c.toNat

/-- A character that stands for itself in a literal string. -/
def isLiteralChar (c : Char) : Bool :=
  c = '\t' || (0x20 ≤ c.toNat && c.toNat ≤ 0x7E && c != '\'') || 0x80 ≤ c.toNat

/-- A space or a tab. -/
def isBlankChar (c : Char) : Bool := c = ' ' || c = '\t'

/-- After a backslash, the blanks up to a line ending, if a line ending comes next. -/
def foldsLine (cs : List Char) : Bool :=
  match cs.dropWhile isBlankChar with
  | '\n' :: _ => true
  | '\r' :: '\n' :: _ => true
  | _ => false

/-- The fault of a carriage return at `pos` in a multi-line string with no line feed after
it. -/
def loneReturn (pos : Nat) : Fault :=
  Fault.at (pos + 1) "carriage return must be followed by newline" [.literal "\n"]

/-- The content of a basic string (`multi` for the multi-line form), its first character
at `pos`; a character that may not stand in it is refused as `description` says, expecting
`expected`.  `fuel` bounds the steps. -/
def basicContent (multi : Bool) (description : String) (expected : List Expected) :
    Nat → Nat → List Char → Except Fault (List Char)
  | 0, _, _ => .ok []
  | _, _, [] => .ok []
  | fuel + 1, pos, c :: cs =>
    if c = '\\' then
      if multi && foldsLine cs then
        let kept := cs.dropWhile fun d => isBlankChar d || d = '\n' || d = '\r'
        basicContent multi description expected fuel (pos + 1 + (cs.length - kept.length)) kept
      else do
        let (d, rest) ← escapeAt (pos + 1) cs
        let out ← basicContent multi description expected fuel (pos + 1 + (cs.length - rest.length)) rest
        pure (d :: out)
    else if isBasicChar c || (multi && (c = '"' || c = '\n')) then do
      pure (c :: (← basicContent multi description expected fuel (pos + 1) cs))
    else if multi && c = '\r' then
      if cs.head? = some '\n' then do
        pure ('\n' :: (← basicContent multi description expected fuel (pos + 2) cs.tail))
      else .error (loneReturn pos)
    else .error (Fault.at pos description expected)

/-- The content of a literal string (`multi` for the multi-line form), its first character
at `pos`; a character that may not stand in it is refused as `description` says, expecting
`expected`. -/
def literalContent (multi : Bool) (description : String) (expected : List Expected) (pos : Nat) :
    List Char → Except Fault (List Char)
  | [] => .ok []
  | c :: cs =>
    if isLiteralChar c || (multi && (c = '\'' || c = '\n')) then
      (c :: ·) <$> literalContent multi description expected (pos + 1) cs
    else if multi && c = '\r' then
      if cs.head? = some '\n' then literalContent multi description expected (pos + 1) cs
      else .error (loneReturn pos)
    else .error (Fault.at pos description expected)

/-- Drop a line ending at the start, with how many characters it had. -/
def dropFirstNewline : List Char → List Char × Nat
  | '\n' :: rest => (rest, 1)
  | '\r' :: '\n' :: rest => (rest, 2)
  | cs => (cs, 0)

/-- The text of a string token that starts at `start`. -/
def readString (start : Nat) (form : StringForm) (text : List Char) : Except Fault String := do
  let stop := start + text.length
  match form with
  | .basic =>
    let body := text.drop 1
    if body.isEmpty || body.getLast? != some '"' then
      throw (Fault.at stop "invalid basic string" [.literal "\""])
    let content := body.dropLast
    String.ofList <$> basicContent false "invalid basic string"
      [.description "non-double-quote visible characters", .literal "\\"] (content.length + 1)
      (start + 1) content
  | .literal =>
    let body := text.drop 1
    if body.isEmpty || body.getLast? != some '\'' then
      throw (Fault.at stop "invalid literal string" [.literal "'"])
    String.ofList <$> literalContent false "invalid literal string"
      [.description "non-single-quote visible characters"] (start + 1) body.dropLast
  | .multiBasic =>
    let body := text.drop 3
    if body.length < 3 || body.drop (body.length - 3) != ['"', '"', '"'] then
      throw (Fault.at stop "invalid multi-line basic string" [.literal "\"\"\""])
    let (content, skipped) := dropFirstNewline (body.take (body.length - 3))
    String.ofList <$> basicContent true "invalid multi-line basic string"
      [.literal "\\", .description "characters"] (content.length + 1) (start + 3 + skipped) content
  | .multiLiteral =>
    let body := text.drop 3
    if body.length < 3 || body.drop (body.length - 3) != ['\'', '\'', '\''] then
      throw (Fault.at stop "invalid multi-line literal string" [.literal "'''"])
    let (content, skipped) := dropFirstNewline (body.take (body.length - 3))
    String.ofList <$> literalContent true "invalid multi-line literal string"
      [.description "non-single-quote characters"] (start + 3 + skipped) content

/-- A character of a bare key. -/
def isBareKeyChar (c : Char) : Bool :=
  (c.isAlphanum && c.toNat < 0x80) || c = '-' || c = '_'

/-- What a bare key may hold. -/
def bareKeyExpected : List Expected :=
  [.description "letters", .description "numbers", .literal "-", .literal "_"]

/-- The first character of a bare key that may not stand in one, with its position. -/
def badKeyChar (pos : Nat) : List Char → Option Nat
  | [] => none
  | c :: cs => if isBareKeyChar c then badKeyChar (pos + 1) cs else some pos

/-- The name a key part gives. -/
def KeyPart.read (p : KeyPart) : Except Fault String :=
  match p.form with
  | none =>
    if p.text.isEmpty then .error (Fault.at p.start "unquoted keys cannot be empty" bareKeyExpected)
    else match badKeyChar p.start p.text with
      | some q => .error (Fault.at q "invalid unquoted key" bareKeyExpected)
      | none => .ok (String.ofList p.text)
  | some .basic => readString p.start .basic p.text
  | some .literal => readString p.start .literal p.text
  | some .multiBasic => .error ⟨p.start, p.stop, "keys cannot be multi-line basic strings",
      some [.description "basic string", .description "literal string"]⟩
  | some .multiLiteral => .error ⟨p.start, p.stop, "keys cannot be multi-line literal strings",
      some [.description "basic string", .description "literal string"]⟩

/-- The closing quotes a scalar may end with when its opening ones were left out, the longer
before the shorter. -/
def closingQuotes : List (List Char) := [['\'', '\'', '\''], ['"', '"', '"'], ['\''], ['"']]

/-- The fault of a scalar that should have been a quoted string: its opening quotes are
missing if it ends with closing ones, else it is not quoted at all. -/
def unquoted (start : Nat) (cs : List Char) : Fault :=
  match closingQuotes.find? (·.isSuffixOf cs) with
  | some q => Fault.at start "missing opening quote" [.literal (String.ofList q)]
  | none =>
    ⟨start, start + cs.length, "string values must be quoted", some [.description "literal string"]⟩

/-- A character that may stand beside an underscore in a number: a decimal digit in a
float, any hex digit in an integer. -/
def digitBeside (float : Bool) (c : Char) : Bool :=
  if float then c.isDigit else (hexDigit? c).isSome

/-- The fault of a misplaced underscore at `pos`. -/
def underscoreFault (pos : Nat) : Fault :=
  ⟨pos, pos + 1, "`_` may only go between digits", some []⟩

/-- Check the underscores of the parts a number's text splits into at them; `pos` is the
position of the part, `first` tells whether it is the first part, and `stop` is the
position after the text.  An underscore must be followed by a digit (so not by another
underscore) and, unless it is the first character, follow one. -/
def checkParts (float : Bool) (stop : Nat) : Nat → Bool → List (List Char) → Except Fault Unit
  | _, _, [] => .ok ()
  | pos, first, part :: more => do
    if !first && !(part.head?.map (digitBeside float)).getD false then
      throw (underscoreFault (pos - 1))
    let partStop := pos + part.length
    if 1 < part.length && partStop < stop && !digitBeside float (part.getLastD '0') then
      throw (underscoreFault partStop)
    checkParts float stop (partStop + 1) false more

/-- Check the underscores of a number's text at `pos`, and drop them. -/
def withoutUnderscores (float : Bool) (pos : Nat) (cs : List Char) : Except Fault (List Char) := do
  if !cs.contains '_' then return cs
  let stop := pos + cs.length
  if cs.head? = some '_' then throw (underscoreFault pos)
  if 1 < cs.length && cs.getLast? = some '_' then throw (underscoreFault (stop - 1))
  checkParts float stop pos true (cs.splitOn '_')
  return cs.filter (· != '_')

/-- Check the digits (and underscores) at the start of a number's text at `pos`: at least
one digit, and no leading zero unless `zeros` allows it; the characters after them and
their position. -/
def decimalRun (pos : Nat) (cs : List Char) (zeros : Bool) (description : String) :
    Except Fault (List Char × Nat) :=
  let run := cs.takeWhile fun c => c.isDigit || c = '_'
  let digits := run.countP Char.isDigit
  if digits = 0 then .error (Fault.at pos description [.description "digits"])
  else if 1 < digits && cs.head? = some '0' && !zeros then
    .error ⟨pos, pos + 1, "unexpected leading zero", some []⟩
  else .ok (cs.drop run.length, pos + run.length)

/-- Check the text of a float at `pos` (after its sign): a mantissa, then a fraction, an
exponent or both, and nothing after; `stop` is the position after the scalar. -/
def checkFloat (pos stop : Nat) (cs : List Char) : Except Fault Unit := do
  let (rest, p) ← decimalRun pos cs false "invalid mantissa"
  let (rest, p) ← match rest with
    | '.' :: more => decimalRun (p + 1) more true "invalid fraction"
    | _ => pure (rest, p)
  let (rest, p) ← match rest with
    | e :: more =>
      if e = 'e' || e = 'E' then
        match more with
        | s :: more' =>
          if s = '+' || s = '-' then decimalRun (p + 2) more' true "invalid exponent"
          else decimalRun (p + 1) more true "invalid exponent"
        | [] => decimalRun (p + 1) more true "invalid exponent"
      else pure (rest, p)
    | [] => pure (rest, p)
  if !rest.isEmpty then throw ⟨p, stop, "invalid float", some []⟩

/-- The names of the radixes. -/
def radixName : Nat → String
  | 16 => "hexadecimal"
  | 8 => "octal"
  | 2 => "binary"
  | _ => "decimal"

/-- A digit of a radix. -/
def isRadixDigit (radix : Nat) (c : Char) : Bool :=
  match hexDigit? c with
  | some d => d < radix
  | none => false

/-- An integer in a radix, its digits at `pos`. -/
def radixInteger (pos : Nat) (radix : Nat) (cs : List Char) : Except Fault Scalar := do
  let rec firstBad : Nat → List Char → Option Nat
    | _, [] => none
    | p, c :: rest => if isRadixDigit radix c || c = '_' then firstBad (p + 1) rest else some p
  match cs with
  | c :: _ =>
    if c = '+' || c = '-' then throw ⟨pos, pos + 1, "unexpected sign", some []⟩
  | [] => pure ()
  match firstBad pos cs with
  | some p => throw (Fault.bare p ("invalid " ++ radixName radix ++ " number"))
  | none => pure ()
  return .integer (← withoutUnderscores false pos cs) radix

/-- A decimal integer: `all` is the whole scalar at `start`, and `cs` its digits at `pos`
after any sign. -/
def decimalInteger (start pos : Nat) (all cs : List Char) : Except Fault Scalar := do
  let (rest, p) ← decimalRun pos cs false "invalid integer"
  if !rest.isEmpty then throw (Fault.at p "invalid integer" [.description "digits"])
  return .integer (← withoutUnderscores false start all) 10

/-- A float: `all` is the whole scalar at `start`, and `cs` its text at `pos` after any
sign. -/
def floatNumber (start pos : Nat) (all cs : List Char) : Except Fault Scalar := do
  checkFloat pos (start + all.length) cs
  return .float (← withoutUnderscores true start all)

/-- A scalar that begins with digits (or an underscore): `all` is the whole scalar at
`start`, and `cs` its text at `pos` after any sign. -/
def numberOrDatetime (start pos : Nat) (all cs : List Char) : Except Fault Scalar :=
  let rest := cs.dropWhile Char.isDigit
  match rest with
  | [] => decimalInteger start pos all cs
  | c :: _ =>
    if c = '-' || c = ':' then
      match parseDatetime (String.ofList all) with
      | .ok d => .ok (.datetime d)
      | .error e => .error ⟨start, start + all.length, e.text, none⟩
    else if rest.contains ' ' then .error (unquoted start all)
    else if rest.contains '.' || rest.contains 'e' || rest.contains 'E' then
      floatNumber start pos all cs
    else if c = '_' then do
      if cs.head? = some '0' then throw ⟨pos, pos + 1, "unexpected leading zero", some []⟩
      return .integer (← withoutUnderscores false start all) 10
    else .error (unquoted start all)

/-- The radix a letter after a leading zero names, with the letter in lower case. -/
def radixLetter? : Char → Option (Nat × Char)
  | 'x' | 'X' => some (16, 'x')
  | 'o' | 'O' => some (8, 'o')
  | 'b' | 'B' => some (2, 'b')
  | 'd' | 'D' => some (10, 'd')
  | _ => none

/-- A scalar that begins with a zero: `all` is the whole scalar at `start`, `cs` its text at
`pos` after any sign, and `signed` tells whether it had one.  A radix prefix is refused
after a sign, and the decimal one always, as it says nothing. -/
def afterZero (start pos : Nat) (all cs : List Char) (signed : Bool) : Except Fault Scalar :=
  match cs with
  | ['0'] => .ok (.integer all 10)
  | _ :: r :: rest =>
    match radixLetter? r with
    | some (radix, letter) =>
      if signed then .error ⟨start, start + 1, "integers with a radix cannot be signed", some []⟩
      else if radix = 10 then .error ⟨pos, pos + 2, "redundant integer number prefix", some []⟩
      else if r != letter then
        .error ⟨pos, pos + 2, "radix must be lowercase", some [.literal (String.ofList ['0', letter])]⟩
      else radixInteger (pos + 2) radix rest
    | none => numberOrDatetime start pos all cs
  | _ => .error (unquoted start all)

/-- A word scalar, which must be the word `word` exactly. -/
def wordScalar (start : Nat) (all : List Char) (word : String) (description : String)
    (value : Scalar) : Except Fault Scalar :=
  if all = word.toList then .ok value
  else if all.contains ' ' then .error (unquoted start all)
  else .error ⟨start, start + all.length, description, some [.literal word]⟩

/-- A scalar after its sign or signs: `all` is the whole scalar at `start`, `cs` the text at
`pos` after the signs read so far. -/
def afterSign (start : Nat) (all : List Char) : Nat → List Char → Except Fault Scalar
  | _, [] => .error (unquoted start all)
  | pos, c :: rest =>
    if c = '+' || c = '-' then .error ⟨pos, pos + 1, "redundant numeric sign", some []⟩
    else if c = '_' || ('1' ≤ c && c ≤ '9') then numberOrDatetime start pos all (c :: rest)
    else if c = '0' then afterZero start pos all (c :: rest) true
    else if c = '.' then floatNumber start start all all
    else if c = 'i' || c = 'I' then
      if c :: rest = "inf".toList then .ok (.float all)
      else .error ⟨pos, start + all.length, "invalid float", some [.literal "inf"]⟩
    else if c = 'n' || c = 'N' then
      if c :: rest = "nan".toList then .ok (.float all)
      else .error ⟨pos, start + all.length, "invalid float", some [.literal "nan"]⟩
    else .error (unquoted start all)

/-- A scalar that is not a string token, at `start`. -/
def readBare (start : Nat) (all : List Char) : Except Fault Scalar :=
  match all with
  | [] => .error (unquoted start all)
  | c :: rest =>
    if c = '+' || c = '-' then afterSign start all (start + 1) rest
    else if c = '_' || ('1' ≤ c && c ≤ '9') then numberOrDatetime start start all all
    else if c = '0' then afterZero start start all all false
    else if c = '.' then floatNumber start start all all
    else if c = 't' || c = 'T' then wordScalar start all "true" "invalid boolean" (.boolean true)
    else if c = 'f' || c = 'F' then wordScalar start all "false" "invalid boolean" (.boolean false)
    else if c = 'i' || c = 'I' then wordScalar start all "inf" "invalid float" (.float "inf".toList)
    else if c = 'n' || c = 'N' then wordScalar start all "nan" "invalid float" (.float "nan".toList)
    else .error (unquoted start all)

/-- A scalar as written, read. -/
def readScalar (start : Nat) (text : List Char) : Option StringForm → Except Fault Scalar
  | some form => Scalar.string <$> readString start form text
  | none => readBare start text

end RentalRouting.Toml
