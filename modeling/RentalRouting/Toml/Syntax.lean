/-
RentalRouting/Toml/Syntax.lean

The shape of a TOML document, checked before anything in it is read.  A document is a
sequence of statements, each on a line of its own: a key-value pair `key = value` or a table
header `[key]` or `[[key]]`, with blanks and a comment allowed around and after it.  A key is
one or more parts joined by dots; a value is a scalar (a string token, or atoms and dots
with single blanks between them, such as `1979-05-27 07:32:00.5`), an array `[v, ...]` or an
inline table `{k = v, ...}`.  Arrays and inline tables may run over several lines, hold
comments, and end with a comma.

Only the order of the tokens is checked here, and the characters of comments and line
endings.  What the parts of keys and the scalars say is read later, so a key that is
missing is kept as an empty bare key and a value that is missing as an empty scalar (an
empty literal string before the brace that closes an inline table), to be refused then.
The first token out of place is the fault, and what it says depends on what was awaited
there.  Arrays and inline tables may be nested at most eighty deep.
-/
import RentalRouting.Toml.Token
import RentalRouting.Toml.Fault

namespace RentalRouting.Toml

/-- A part of a key as written: where it starts, its text, and how it is quoted (`none` for
a bare key). -/
structure KeyPart where
  start : Nat
  text : List Char
  form : Option StringForm
  deriving Repr

/-- The position just after a key part. -/
def KeyPart.stop (p : KeyPart) : Nat := p.start + p.text.length

/-- A value as written. -/
inductive Written where
  /-- A scalar: where it starts, its text, and how it is quoted (`none` when it is not a
  string token). -/
  | scalar (start : Nat) (text : List Char) (form : Option StringForm)
  | array (items : List Written)
  | table (pairs : List (List KeyPart × Written))
  deriving Repr

/-- A statement of a document. -/
inductive Statement where
  | pair (key : List KeyPart) (value : Written)
  /-- A table header; `array` tells `[[key]]` from `[key]`. -/
  | header (array : Bool) (key : List KeyPart)
  deriving Repr

/-- Reading tokens: the tokens left, or the first fault. -/
abbrev Reading := StateT (List Token) (Except Fault)

/-- A character allowed in a comment after its `#`: a tab, a visible ASCII character or a
space, or any character beyond ASCII. -/
def isCommentChar (c : Char) : Bool :=
  c = '\t' || (0x20 ≤ c.toNat && c.toNat ≤ 0x7E) || 0x80 ≤ c.toNat

/-- The first character of a comment that may not stand in it, with its position. -/
def badCommentChar (start : Nat) : List Char → Option Nat
  | [] => none
  | c :: cs => if isCommentChar c then badCommentChar (start + 1) cs else some start

/-- Check a comment or a line ending: a comment holds only comment characters, and a
carriage return is followed by a line feed. -/
def checkTrivia (t : Token) : Except Fault Unit :=
  match t.kind with
  | .comment =>
    match badCommentChar (t.start + 1) t.text.tail with
    | some p => .error (Fault.at p "invalid comment character" [.description "printable characters"])
    | none => .ok ()
  | .newline =>
    if t.text = ['\r'] then
      .error (Fault.at t.stop "carriage return must be followed by newline" [.literal "\n"])
    else .ok ()
  | _ => .ok ()

/-- Skip a blank. -/
def skipBlank : Reading Unit :=
  modify fun ts => match ts with
    | t :: rest => if t.kind = .blank then rest else t :: rest
    | [] => []

/-- The token as a key part, when it can be one. -/
def Token.keyPart? (t : Token) : Option KeyPart :=
  match t.kind with
  | .atom => some ⟨t.start, t.text, none⟩
  | .string f => some ⟨t.start, t.text, some f⟩
  | _ => none

/-- The key part where one must stand: the token there, or an empty bare key before it;
`eof` is the position of the end of the document. -/
def partHere (eof : Nat) : Reading KeyPart := do
  match ← get with
  | t :: rest =>
    match t.keyPart? with
    | some p => set rest; pure p
    | none => pure ⟨t.start, [], none⟩
  | [] => pure ⟨eof, [], none⟩

/-- The parts of a key after its first, each after a dot. -/
def dottedParts (eof : Nat) : Nat → Reading (List KeyPart)
  | 0 => pure []
  | fuel + 1 => do
    let saved ← get
    skipBlank
    match ← get with
    | t :: rest =>
      if t.kind = .dot then
        set rest
        skipBlank
        let p ← partHere eof
        return p :: (← dottedParts eof fuel)
      else
        set saved
        pure []
    | [] =>
      set saved
      pure []

/-- The text of a scalar after its first atom or dot: more atoms and dots, and single blanks
followed by an atom. -/
def scalarRest : List Token → List Char × List Token
  | t :: rest =>
    if t.kind = .atom || t.kind = .dot then
      let (more, r) := scalarRest rest
      (t.text ++ more, r)
    else if t.kind = .blank then
      match rest with
      | u :: rest' =>
        if u.kind = .atom then
          let (more, r) := scalarRest rest'
          (t.text ++ u.text ++ more, r)
        else ([], t :: rest)
      | [] => ([], [t])
    else ([], t :: rest)
  | [] => ([], [])

/-- The place of the next token, or the end of the document. -/
def nextStart (eof : Nat) : Reading Nat := do
  match ← get with
  | t :: _ => pure t.start
  | [] => pure eof

/-- Where a document ends: `text` is the position after its last character, and `tokens`
the position after its last token that is not a blank, a comment or a line ending, where an
array or an inline table left open is reported. -/
structure Ends where
  text : Nat
  tokens : Nat

/-- How deep arrays and inline tables may be nested. -/
def maxDepth : Nat := 80

/-- The key parts of a key, from its first part on. -/
def keyParts (eof fuel : Nat) : Reading (List KeyPart) := do
  let first ← partHere eof
  let more ← dottedParts eof fuel
  pure (first :: more)

/-- What an inline table waits for: a key, the `=` after the key read, the value of that
key, or the comma after a pair. -/
inductive Awaiting where
  | key
  | equals (key : List KeyPart)
  | value (key : List KeyPart)
  | comma

/-- What a fault says was expected where the inline table waits for something. -/
def Awaiting.expected : Awaiting → List Expected
  | .key => [.description "key"]
  | .equals _ => [.literal "="]
  | .value _ => [.description "value"]
  | .comma => [.literal ","]

/-- A scalar that stands for a value left out before the closing brace of an inline table:
an empty literal string, refused when it is read. -/
def missingValue (pos : Nat) : Written := .scalar pos [] (some .literal)

mutual

/-- A value inside `depth` open arrays and inline tables; `fuel` bounds the depth of the
reading. -/
def value (ends : Ends) (depth : Nat) : Nat → Reading Written
  | 0 => do pure (.scalar (← nextStart ends.text) [] none)
  | fuel + 1 => do
    match ← get with
    | [] => pure (.scalar ends.text [] none)
    | t :: rest =>
      match t.kind with
      | .string f =>
        set rest
        pure (.scalar t.start t.text (some f))
      | .atom | .dot =>
        let (more, r) := scalarRest rest
        set r
        pure (.scalar t.start (t.text ++ more) none)
      | .openBracket =>
        if maxDepth ≤ depth then throw (Fault.bare t.start "cannot recurse further; max recursion depth met")
        set rest
        items ends (depth + 1) fuel [] true
      | .openBrace =>
        if maxDepth ≤ depth then throw (Fault.bare t.start "cannot recurse further; max recursion depth met")
        set rest
        pairs ends (depth + 1) fuel [] .key
      | .closeBracket => throw (Fault.at t.start "missing array opening" [.literal "["])
      | .closeBrace => throw (Fault.at t.start "missing inline table opening" [.literal "\x7b"])
      | .equals => throw (Fault.at t.start "extra assignment between key and value" [])
      | _ => pure (.scalar t.start [] none)

/-- The items of an array after its opening bracket, with those read so far; `expecting`
tells whether an item may come next. -/
def items (ends : Ends) (depth : Nat) : Nat → List Written → Bool → Reading Written
  | 0, _, _ => throw (Fault.at ends.tokens "unclosed array" [.literal "]"])
  | fuel + 1, acc, expecting => do
    match ← get with
    | [] => throw (Fault.at ends.tokens "unclosed array" [.literal "]"])
    | t :: rest =>
      match t.kind with
      | .blank =>
        set rest
        items ends depth fuel acc expecting
      | .newline | .comment =>
        checkTrivia t
        set rest
        items ends depth fuel acc expecting
      | .closeBracket =>
        set rest
        pure (.array acc.reverse)
      | .comma =>
        if expecting then throw (Fault.at t.start "extra comma in array" [.description "value"])
        else
          set rest
          items ends depth fuel acc true
      | .equals =>
        throw (Fault.at t.start "unexpected `=` in array" [.description "value", .literal "]"])
      | _ =>
        if expecting then
          let v ← value ends depth fuel
          items ends depth fuel (v :: acc) false
        else throw (Fault.at t.start "missing comma between array elements" [.literal ","])

/-- The pairs of an inline table after its opening brace, with those read so far, and what
it waits for. -/
def pairs (ends : Ends) (depth : Nat) :
    Nat → List (List KeyPart × Written) → Awaiting → Reading Written
  | 0, _, _ => throw (Fault.at ends.tokens "unclosed inline table" [.literal "\x7d"])
  | fuel + 1, acc, awaiting => do
    match ← get with
    | [] => throw (Fault.at ends.tokens "unclosed inline table" [.literal "\x7d"])
    | t :: rest =>
      match t.kind with
      | .blank =>
        set rest
        pairs ends depth fuel acc awaiting
      | .newline | .comment =>
        checkTrivia t
        set rest
        pairs ends depth fuel acc awaiting
      | .comma =>
        match awaiting with
        | .comma =>
          set rest
          pairs ends depth fuel acc .key
        | _ => throw (Fault.at t.start "extra comma in inline table" awaiting.expected)
      | .equals =>
        match awaiting with
        | .key =>
          set rest
          pairs ends depth fuel acc (.value [⟨t.start, [], none⟩])
        | .equals key =>
          set rest
          pairs ends depth fuel acc (.value key)
        | _ => throw (Fault.at t.start "extra assignment between key-value pairs" awaiting.expected)
      | .openBrace | .openBracket =>
        match awaiting with
        | .value key =>
          let v ← value ends depth fuel
          pairs ends depth fuel ((key, v) :: acc) .comma
        | .equals _ =>
          throw (Fault.at t.start "missing assignment between key-value pairs" awaiting.expected)
        | _ => throw (Fault.at t.start "missing key for inline table element" awaiting.expected)
      | .closeBracket => throw (Fault.at t.start "invalid inline table element" awaiting.expected)
      | .closeBrace =>
        set rest
        match awaiting with
        | .equals key | .value key => pure (.table ((key, missingValue t.start) :: acc).reverse)
        | _ => pure (.table acc.reverse)
      | _ =>
        match awaiting with
        | .key =>
          let key ← keyParts ends.text fuel
          pairs ends depth fuel acc (.equals key)
        | .value key =>
          let v ← value ends depth fuel
          pairs ends depth fuel ((key, v) :: acc) .comma
        | .equals _ =>
          throw (Fault.at t.start "missing assignment between key-value pairs" awaiting.expected)
        | .comma => throw (Fault.at t.start "missing comma between key-value pairs" awaiting.expected)

end

/-- The end of a statement's line: a blank, a comment, and a line ending or the end of the
document. -/
def lineEnd : Reading Unit := do
  skipBlank
  match ← get with
  | [] => pure ()
  | t :: rest =>
    match t.kind with
    | .newline =>
      checkTrivia t
      set rest
    | .comment =>
      checkTrivia t
      set rest
      match ← get with
      | u :: rest' =>
        if u.kind = .newline then
          checkTrivia u
          set rest'
      | [] => pure ()
    | _ => throw (Fault.at t.start "unexpected key or value" [.literal "\n", .literal "#"])

/-- Pass over the rest of a line that cannot be read, up to and with its line ending; its
comment is still checked. -/
def skipLine : Nat → Reading Unit
  | 0 => pure ()
  | fuel + 1 => do
    match ← get with
    | [] => pure ()
    | t :: rest =>
      set rest
      match t.kind with
      | .newline => checkTrivia t
      | .comment =>
        checkTrivia t
        skipLine fuel
      | _ => skipLine fuel

/-- Whether a key part stands for a part left out: an empty bare key. -/
def KeyPart.missing (p : KeyPart) : Bool := p.text.isEmpty && p.form.isNone

/-- A table header after its first bracket: whether it is an array of tables, and its key.
A header whose key ends in a part left out and that is not closed says nothing more here: the
rest of its line is passed over, and the empty part is refused when the key is read. -/
def header (eof fuel : Nat) : Reading (Bool × List KeyPart) := do
  let array ← match ← get with
    | t :: rest => if t.kind = .openBracket then do set rest; pure true else pure false
    | [] => pure false
  skipBlank
  let key ← keyParts eof fuel
  let lastPart := key.getLastD ⟨eof, [], none⟩
  skipBlank
  let closed ← match ← get with
    | t :: rest =>
      if t.kind = .closeBracket then
        if array then
          match rest with
          | u :: rest' =>
            if u.kind = .closeBracket then do set rest'; pure true
            else throw (Fault.at t.stop "unclosed array table" [.literal "]"])
          | [] => throw (Fault.at t.stop "unclosed array table" [.literal "]"])
        else do set rest; pure true
      else pure false
    | [] => pure false
  if closed then lineEnd
  else if lastPart.missing then skipLine fuel
  else if array then throw (Fault.at lastPart.stop "unclosed array table" [.literal "]]"])
  else throw (Fault.at lastPart.stop "unclosed table" [.literal "]"])
  pure (array, key)

/-- The statements of a document, with those read so far. -/
def statements (ends : Ends) : Nat → List Statement → Reading (List Statement)
  | 0, acc => pure acc.reverse
  | fuel + 1, acc => do
    match ← get with
    | [] => pure acc.reverse
    | t :: rest =>
      match t.kind with
      | .blank =>
        set rest
        statements ends fuel acc
      | .newline | .comment =>
        checkTrivia t
        set rest
        statements ends fuel acc
      | .openBracket =>
        set rest
        let (array, key) ← header ends.text fuel
        statements ends fuel (.header array key :: acc)
      | .closeBracket => throw (Fault.at t.start "missing table open" [.literal "["])
      | .atom | .string _ | .equals | .dot =>
        let key ← keyParts ends.text fuel
        skipBlank
        match ← get with
        | u :: rest' =>
          if u.kind = .equals then
            set rest'
            skipBlank
            let v ← value ends 0 fuel
            lineEnd
            statements ends fuel (.pair key v :: acc)
          else throw (Fault.at u.start "missing value for key" [.literal "="])
        | [] => throw (Fault.at ends.text "missing value for key" [.literal "="])
      | _ => throw (Fault.at t.start "invalid key-value pair" [.description "key"])

/-- Whether a token carries something of the document: it is not a blank, a comment or a
line ending. -/
def Token.significant (t : Token) : Bool :=
  !(t.kind = .blank || t.kind = .comment || t.kind = .newline)

/-- The statements of a document's tokens, the document ending at `eof`. -/
def parseStatements (eof : Nat) (tokens : List Token) : Except Fault (List Statement) :=
  let last := tokens.foldl (fun p t => if t.significant then t.stop else p) 0
  (statements ⟨eof, last⟩ (4 * tokens.length + 8) []).run' tokens

end RentalRouting.Toml
