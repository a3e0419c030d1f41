/-
RentalRouting/Toml/Token.lean

The tokens of a TOML document.  The text is cut into punctuation (`.`, `=`, `,`, brackets
and braces), runs of spaces and tabs, comments (`#` up to the line ending), line endings
(`\n`, `\r\n`, or a lone `\r`), strings in their four quotings, and atoms: the runs of any
other characters, which hold bare keys, numbers, booleans, dates and times.

The cutting never fails and loses nothing: the texts of the tokens, in order, are the
document.  A string token runs to its closing quote, or stops before the line feed (for a
one-line string) or at the end of the text when it has none; whether it is well formed is
decided when it is read.  A multi-line string takes up to two more quotes after its closing
three, which belong to its content.  A byte order mark at the start is skipped.
-/
namespace RentalRouting.Toml

/-- How a string is quoted. -/
inductive StringForm where
  /-- `"..."`, with escapes. -/
  | basic
  /-- `'...'`, as written. -/
  | literal
  /-- `"""..."""`, with escapes, over several lines. -/
  | multiBasic
  /-- `'''...'''`, as written, over several lines. -/
  | multiLiteral
  deriving DecidableEq, Repr

/-- The kinds of tokens. -/
inductive TokenKind where
  | dot
  | equals
  | comma
  | openBracket
  | closeBracket
  | openBrace
  | closeBrace
  | blank
  | comment
  | newline
  | string (form : StringForm)
  | atom
  deriving DecidableEq, Repr

/-- A token: its kind, the position of its first character, and its text. -/
structure Token where
  kind : TokenKind
  start : Nat
  text : List Char
  deriving Repr

/-- The position just after the token. -/
def Token.stop (t : Token) : Nat := t.start + t.text.length

/-- A space or a tab. -/
def isSpace (c : Char) : Bool := c = ' ' || c = '\t'

/-- A character that ends an atom. -/
def endsAtom (c : Char) : Bool :=
  c = '.' || c = '=' || c = ',' || c = '[' || c = ']' || c = '{' || c = '}' || isSpace c ||
    c = '#' || c = '\r' || c = '\n'

/-- Split off the longest prefix whose characters satisfy `p`. -/
def spanWhile (p : Char → Bool) (cs : List Char) : List Char × List Char :=
  (cs.takeWhile p, cs.dropWhile p)

/-- The body of a basic string after its opening quote: up to and with the closing quote,
or up to a line feed or the end.  A backslash keeps a backslash or a quote after it in the
body. -/
def basicBody : List Char → List Char × List Char
  | [] => ([], [])
  | '"' :: rest => (['"'], rest)
  | '\n' :: rest => ([], '\n' :: rest)
  | '\\' :: '\\' :: rest => let (t, r) := basicBody rest; ('\\' :: '\\' :: t, r)
  | '\\' :: '"' :: rest => let (t, r) := basicBody rest; ('\\' :: '"' :: t, r)
  | c :: rest => let (t, r) := basicBody rest; (c :: t, r)

/-- Up to two more copies of a quote after the closing three. -/
def extraQuotes (q : Char) : List Char → List Char × List Char
  | a :: b :: rest => if a = q then (if b = q then ([a, b], rest) else ([a], b :: rest)) else ([], a :: b :: rest)
  | [a] => if a = q then ([a], []) else ([], [a])
  | [] => ([], [])

/-- The body of a multi-line basic string after its opening quotes: up to and with the
closing three quotes and up to two more, or up to the end.  A backslash keeps the
character after it in the body. -/
def multiBasicBody : List Char → List Char × List Char
  | [] => ([], [])
  | '"' :: '"' :: '"' :: rest =>
    let (e, r) := extraQuotes '"' rest
    (['"', '"', '"'] ++ e, r)
  | '\\' :: c :: rest => let (t, r) := multiBasicBody rest; ('\\' :: c :: t, r)
  | c :: rest => let (t, r) := multiBasicBody rest; (c :: t, r)

/-- The body of a literal string after its opening quote: up to and with the closing
quote, or up to a line feed or the end. -/
def literalBody : List Char → List Char × List Char
  | [] => ([], [])
  | '\'' :: rest => (['\''], rest)
  | '\n' :: rest => ([], '\n' :: rest)
  | c :: rest => let (t, r) := literalBody rest; (c :: t, r)

/-- The body of a multi-line literal string after its opening quotes: up to and with the
closing three quotes and up to two more, or up to the end. -/
def multiLiteralBody : List Char → List Char × List Char
  | [] => ([], [])
  | '\'' :: '\'' :: '\'' :: rest =>
    let (e, r) := extraQuotes '\'' rest
    (['\'', '\'', '\''] ++ e, r)
  | c :: rest => let (t, r) := multiLiteralBody rest; (c :: t, r)

/-- The first token of a nonempty text: its kind and its text. -/
def firstToken : List Char → TokenKind × List Char × List Char
  | [] => (.atom, [], [])
  | '.' :: rest => (.dot, ['.'], rest)
  | '=' :: rest => (.equals, ['='], rest)
  | ',' :: rest => (.comma, [','], rest)
  | '[' :: rest => (.openBracket, ['['], rest)
  | ']' :: rest => (.closeBracket, [']'], rest)
  | '{' :: rest => (.openBrace, ['{'], rest)
  | '}' :: rest => (.closeBrace, ['}'], rest)
  | '\n' :: rest => (.newline, ['\n'], rest)
  | '\r' :: '\n' :: rest => (.newline, ['\r', '\n'], rest)
  | '\r' :: rest => (.newline, ['\r'], rest)
  | '#' :: rest =>
    let (t, r) := spanWhile (fun c => c != '\r' && c != '\n') rest
    (.comment, '#' :: t, r)
  | '"' :: '"' :: '"' :: rest =>
    let (t, r) := multiBasicBody rest
    (.string .multiBasic, ['"', '"', '"'] ++ t, r)
  | '"' :: rest =>
    let (t, r) := basicBody rest
    (.string .basic, '"' :: t, r)
  | '\'' :: '\'' :: '\'' :: rest =>
    let (t, r) := multiLiteralBody rest
    (.string .multiLiteral, ['\'', '\'', '\''] ++ t, r)
  | '\'' :: rest =>
    let (t, r) := literalBody rest
    (.string .literal, '\'' :: t, r)
  | c :: rest =>
    if isSpace c then
      let (t, r) := spanWhile isSpace rest
      (.blank, c :: t, r)
    else
      let (t, r) := spanWhile (fun d => !endsAtom d) rest
      (.atom, c :: t, r)

/-- The tokens of a text whose first character is at `start`; `fuel` bounds the number of
tokens and is at least the length of the text. -/
def tokensFrom : Nat → Nat → List Char → List Token
  | 0, _, _ => []
  | _, _, [] => []
  | fuel + 1, start, c :: cs =>
    let (kind, text, rest) := firstToken (c :: cs)
    ⟨kind, start, text⟩ :: tokensFrom fuel (start + text.length) rest

/-- The tokens of a document, after its byte order mark if it has one. -/
def tokenize (cs : List Char) : List Token :=
  match cs with
  | '\uFEFF' :: rest => tokensFrom (rest.length + 1) 1 rest
  | _ => tokensFrom (cs.length + 1) 0 cs

end RentalRouting.Toml
