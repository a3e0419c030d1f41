/-
RentalRouting/Json/Reader.lean

Reading JSON text one byte at a time.  The text is its UTF-8 bytes and a reader's position
is the number of bytes read; an error points at a line and a column, where the column
counts the bytes read on that line.  An error found by looking at the next byte without
reading it points one byte further.  Messages of the typed readers built on this one
(`Json/Fields`) may be raised without a position, and the struct or sequence reader around
them places them where reading stopped.

This module holds the syntax: blanks, literals, strings with their escapes, numbers, whole
values (`readValue`, objects sorted by key, a later duplicate key winning) and skipped values
(`skipValue`).  A number keeps a natural or negative 64-bit word when it is written as one;
otherwise it becomes the double `significand * 10 ^ exponent`, where the significand stops
growing at the first digit that would overflow a 64-bit word, the later digits only moving
the exponent, and the double is the significand's nearest double multiplied or divided by
the nearest double of the power of ten.  At most 127 arrays and objects nest.
-/
import RentalRouting.Json.Value

namespace RentalRouting.Json

/-- The syntax errors of JSON text. -/
inductive SyntaxError where
  | eofWhileList
  | eofWhileObject
  | eofWhileString
  | eofWhileValue
  | expectedColon
  | expectedListCommaOrEnd
  | expectedObjectCommaOrEnd
  | expectedIdent
  | expectedValue
  | invalidEscape
  | invalidNumber
  | numberOutOfRange
  | controlCharacter
  | keyMustBeString
  | loneSurrogate
  | trailingComma
  | trailingCharacters
  | endOfHexEscape
  | recursionLimit
  deriving DecidableEq, Repr

/-- The text of a syntax error. -/
def SyntaxError.message : SyntaxError → String
  | .eofWhileList => "EOF while parsing a list"
  | .eofWhileObject => "EOF while parsing an object"
  | .eofWhileString => "EOF while parsing a string"
  | .eofWhileValue => "EOF while parsing a value"
  | .expectedColon => "expected `:`"
  | .expectedListCommaOrEnd => "expected `,` or `]`"
  | .expectedObjectCommaOrEnd => "expected `,` or `\x7d`"
  | .expectedIdent => "expected ident"
  | .expectedValue => "expected value"
  | .invalidEscape => "invalid escape"
  | .invalidNumber => "invalid number"
  | .numberOutOfRange => "number out of range"
  | .controlCharacter => "control character (\\u0000-\\u001F) found while parsing a string"
  | .keyMustBeString => "key must be a string"
  | .loneSurrogate => "lone leading surrogate in hex escape"
  | .trailingComma => "trailing comma"
  | .trailingCharacters => "trailing characters"
  | .endOfHexEscape => "unexpected end of hex escape"
  | .recursionLimit => "recursion limit exceeded"

/-- A reading error: its message and the byte offset its position is computed from, `none`
while it still waits for a position. -/
structure ReadError where
  message : String
  offset : Option Nat
  deriving Repr

/-- The line (from one) and column of a byte offset: the column is the number of bytes
between the last newline before the offset and the offset. -/
def lineColumn (text : ByteArray) (offset : Nat) : Nat × Nat :=
  let before := (text.extract 0 offset).toList
  let lines := before.count 10
  let column := (before.reverse.takeWhile (· ≠ 10)).length
  (lines + 1, column)

/-- The text of a reading error in this text. -/
def ReadError.render (text : ByteArray) (e : ReadError) : String :=
  match e.offset with
  | none => e.message
  | some offset =>
    let (line, column) := lineColumn text offset
    e.message ++ " at line " ++ toString line ++ " column " ++ toString column

/-- Where a reader stands: bytes read, and how many more arrays and objects may open. -/
structure Cursor where
  pos : Nat
  depth : Nat
  deriving Repr

/-- A reader of JSON text: it sees the text, moves the cursor, and may fail; a failure keeps
the cursor where it happened. -/
abbrev Reader := ReaderT ByteArray (ExceptT ReadError (StateM Cursor))

/-- Run a reader from the start of a text. -/
def Reader.run' {α : Type} (r : Reader α) (text : ByteArray) : Except ReadError α × Cursor :=
  ((ReaderT.run r text).run).run ⟨0, 128⟩

/-! ### Primitives -/

/-- The byte at the cursor, if any. -/
def peek : Reader (Option UInt8) := do
  let text ← read
  let c ← get
  return text[c.pos]?

/-- Step over one byte. -/
def eat : Reader Unit := modify fun c => { c with pos := c.pos + 1 }

/-- Read one byte, if any. -/
def next : Reader (Option UInt8) := do
  let b ← peek
  if b.isSome then eat
  return b

/-- Fail with a message at the bytes read so far. -/
def failHere {α : Type} (message : String) : Reader α := do
  let c ← get
  throw ⟨message, some c.pos⟩

/-- Fail with a message at the byte after the cursor (capped at the end of the text). -/
def failAhead {α : Type} (message : String) : Reader α := do
  let text ← read
  let c ← get
  throw ⟨message, some (min text.size (c.pos + 1))⟩

/-- Fail with a message that waits for a position. -/
def failLater {α : Type} (message : String) : Reader α := throw ⟨message, none⟩

/-- Give a waiting error the position where reading stopped. -/
def place (e : ReadError) : Reader ReadError := do
  let c ← get
  return if e.offset.isNone then { e with offset := some c.pos } else e

/-- Run a reader and give its waiting error a position. -/
def placed {α : Type} (r : Reader α) : Reader α :=
  tryCatch r fun e => do throw (← place e)

/-- A blank between tokens: space, newline, tab or carriage return. -/
def isSpace (b : UInt8) : Bool := b == 32 || b == 10 || b == 9 || b == 13

/-- The first offset from `pos` on that holds no blank. -/
def skipSpaces (text : ByteArray) (pos : Nat) : Nat :=
  let rec go : Nat → Nat → Nat
    | 0, p => p
    | fuel + 1, p => match text[p]? with
      | some b => if isSpace b then go fuel (p + 1) else p
      | none => p
  go (text.size + 1) pos

/-- Step over blanks and look at the next byte. -/
def peekToken : Reader (Option UInt8) := do
  let text ← read
  modify fun c => { c with pos := skipSpaces text c.pos }
  peek

/-- The byte is an ASCII digit. -/
def isDigit (b : UInt8) : Bool := 48 ≤ b && b ≤ 57

/-- Read the rest of a literal word, byte for byte. -/
def expectWord : List UInt8 → Reader Unit
  | [] => pure ()
  | b :: rest => do
    match ← next with
    | none => failHere SyntaxError.eofWhileValue.message
    | some got => if got == b then expectWord rest else failHere SyntaxError.expectedIdent.message

/-- Enter an array or object: one level less may open; at the limit, fail. -/
def enter : Reader Unit := do
  let c ← get
  if c.depth ≤ 1 then failAhead SyntaxError.recursionLimit.message
  else set { c with depth := c.depth - 1 }

/-- Leave an array or object. -/
def leave : Reader Unit := modify fun c => { c with depth := c.depth + 1 }

/-! ### Strings -/

/-- The value of a hex digit. -/
def hexValue (b : UInt8) : Option Nat :=
  if 48 ≤ b && b ≤ 57 then some (b.toNat - 48)
  else if 65 ≤ b && b ≤ 70 then some (b.toNat - 55)
  else if 97 ≤ b && b ≤ 102 then some (b.toNat - 87)
  else none

/-- Read the four hex digits of a `\u` escape. -/
def readHex4 : Reader Nat := do
  let text ← read
  let c ← get
  if text.size < c.pos + 4 then
    set { c with pos := text.size }
    failHere SyntaxError.eofWhileString.message
  else
    set { c with pos := c.pos + 4 }
    let digits := [text[c.pos]?, text[c.pos + 1]?, text[c.pos + 2]?, text[c.pos + 3]?]
    match digits.mapM (fun b => b.bind hexValue) with
    | some [a, b, d, e] => pure (((a * 16 + b) * 16 + d) * 16 + e)
    | _ => failHere SyntaxError.invalidEscape.message

/-- The UTF-8 bytes of a code point. -/
def utf8Bytes (n : Nat) : List UInt8 := (String.singleton (Char.ofNat n)).toUTF8.toList

/-- Read a `\u` escape (after the `u`), with a second escape for a surrogate pair. -/
def readUnicodeEscape : Reader (List UInt8) := do
  let n ← readHex4
  if 0xDC00 ≤ n ∧ n ≤ 0xDFFF then failHere SyntaxError.loneSurrogate.message
  else if n < 0xD800 ∨ 0xDBFF < n then pure (utf8Bytes n)
  else
    match ← peek with
    | none => failHere SyntaxError.eofWhileString.message
    | some b =>
      eat
      if b != 92 then failHere SyntaxError.endOfHexEscape.message
      else
        match ← peek with
        | none => failHere SyntaxError.eofWhileString.message
        | some b =>
          eat
          if b != 117 then failHere SyntaxError.endOfHexEscape.message
          else
            let n2 ← readHex4
            if n2 < 0xDC00 ∨ 0xDFFF < n2 then failHere SyntaxError.loneSurrogate.message
            else pure (utf8Bytes (((n - 0xD800) * 1024 + (n2 - 0xDC00)) + 0x10000))

/-- Read an escape after its backslash. -/
def readEscape : Reader (List UInt8) := do
  match ← next with
  | none => failHere SyntaxError.eofWhileString.message
  | some b =>
    if b == 34 then pure [34]
    else if b == 92 then pure [92]
    else if b == 47 then pure [47]
    else if b == 98 then pure [8]
    else if b == 102 then pure [12]
    else if b == 110 then pure [10]
    else if b == 114 then pure [13]
    else if b == 116 then pure [9]
    else if b == 117 then readUnicodeEscape
    else failHere SyntaxError.invalidEscape.message

/-- The byte ends a plain run inside a string: a quote, a backslash or a control byte. -/
def isStringStop (b : UInt8) : Bool := b == 34 || b == 92 || b < 32

/-- The first offset from `pos` on that holds a quote, a backslash or a control byte. -/
def skipPlain (text : ByteArray) (pos : Nat) : Nat :=
  let rec go : Nat → Nat → Nat
    | 0, p => p
    | fuel + 1, p => match text[p]? with
      | some b => if isStringStop b then p else go fuel (p + 1)
      | none => p
  go (text.size + 1) pos

/-- Read the rest of a string after its opening quote. -/
def readStringBody : Reader String := do
  let text ← read
  let rec go : Nat → List UInt8 → Reader (List UInt8)
    | 0, acc => pure acc
    | fuel + 1, acc => do
      let c ← get
      let stop := skipPlain text c.pos
      let acc := acc ++ (text.extract c.pos stop).toList
      set { c with pos := stop }
      match text[stop]? with
      | none => failHere SyntaxError.eofWhileString.message
      | some b =>
        if b == 34 then
          eat
          pure acc
        else if b == 92 then
          eat
          let bytes ← readEscape
          go fuel (acc ++ bytes)
        else
          eat
          failHere SyntaxError.controlCharacter.message
  let bytes ← go (text.size + 1) []
  return (String.fromUTF8? (ByteArray.mk bytes.toArray)).getD ""

/-! ### Numbers -/

/-- The largest 64-bit word. -/
def wordMax : Nat := Nat.pow 2 64 - 1

/-- Appending the digit would pass the bound. -/
def overflows (acc digit bound : Nat) : Bool :=
  bound / 10 ≤ acc && (bound / 10 < acc || bound % 10 < digit)

/-- The double `significand * 10 ^ exponent`, computed as the nearest double of the
significand times or over the nearest double of the power of ten; a product that reaches
infinity is out of range. -/
def scaleByTen (positive : Bool) (significand : Nat) (exponent : Int) : Reader Float := do
  let start := Double.ofNat significand
  let rec go : Nat → Float → Int → Reader Float
    | 0, f, _ => pure f
    | fuel + 1, f, e =>
      if e.natAbs ≤ 308 then
        if 0 ≤ e then
          let g := f * Double.tenPow e.natAbs
          if g.isInf then failHere SyntaxError.numberOutOfRange.message else pure g
        else pure (f / Double.tenPow e.natAbs)
      else if f == 0 then pure f
      else if 0 ≤ e then failHere SyntaxError.numberOutOfRange.message
      else go fuel (f / Double.tenPow 308) (e + 308)
  let f ← go 8 start exponent
  return if positive then f else -f

/-- Step over digits. -/
def skipDigits : Reader Unit := do
  let text ← read
  let rec go : Nat → Nat → Nat
    | 0, p => p
    | fuel + 1, p => match text[p]? with
      | some b => if isDigit b then go fuel (p + 1) else p
      | none => p
  modify fun c => { c with pos := go (text.size + 1) c.pos }

/-- After an exponent that overflowed: out of range unless the value is zero or tiny. -/
def exponentOverflow (positive zeroSignificand positiveExponent : Bool) : Reader Float := do
  if !zeroSignificand && positiveExponent then failHere SyntaxError.numberOutOfRange.message
  else
    skipDigits
    return if positive then 0 else -0

/-- Read an exponent part (at its `e`) and finish the double. -/
def readExponent (positive : Bool) (significand : Nat) (start : Int) : Reader Float := do
  eat
  let positiveExponent ← do
    match ← peek with
    | some 43 => eat; pure true
    | some 45 => eat; pure false
    | _ => pure true
  match ← next with
  | none => failHere SyntaxError.eofWhileValue.message
  | some b =>
    if !isDigit b then failHere SyntaxError.invalidNumber.message
    else
      let text ← read
      let rec go : Nat → Nat → Reader (Option Nat)
        | 0, e => pure (some e)
        | fuel + 1, e => do
          match text[(← get).pos]? with
          | some d =>
            if isDigit d then
              eat
              if overflows e (d.toNat - 48) 2147483647 then pure none
              else go fuel (e * 10 + (d.toNat - 48))
            else pure (some e)
          | none => pure (some e)
      match ← go (text.size + 1) (b.toNat - 48) with
      | none => exponentOverflow positive (significand == 0) positiveExponent
      | some e =>
        let final : Int := if positiveExponent then start + e else start - e
        scaleByTen positive significand final

/-- Read a fraction part (at its point) and finish the double. -/
def readFraction (positive : Bool) (significand : Nat) (before : Int) : Reader Float := do
  eat
  let text ← read
  -- digits that fit the word grow the significand; later ones are dropped
  let rec go : Nat → Nat → Nat → Bool → Reader (Nat × Nat × Bool)
    | 0, s, count, dropped => pure (s, count, dropped)
    | fuel + 1, s, count, dropped => do
      match text[(← get).pos]? with
      | some d =>
        if isDigit d then
          if overflows s (d.toNat - 48) wordMax then pure (s, count, true)
          else
            eat
            go fuel (s * 10 + (d.toNat - 48)) (count + 1) dropped
        else pure (s, count, dropped)
      | none => pure (s, count, dropped)
  let (s, count, dropped) ← go (text.size + 1) significand 0 false
  if dropped then
    skipDigits
    let exponent := before - count
    match ← peek with
    | some 101 | some 69 => readExponent positive s exponent
    | _ => scaleByTen positive s exponent
  else if count = 0 then
    match ← peek with
    | some _ => failAhead SyntaxError.invalidNumber.message
    | none => failAhead SyntaxError.eofWhileValue.message
  else
    let exponent := before - count
    match ← peek with
    | some 101 | some 69 => readExponent positive s exponent
    | _ => scaleByTen positive s exponent

/-- A whole number too long for a word: the later digits move the exponent. -/
def readLongWhole (positive : Bool) (significand : Nat) : Reader Float := do
  let start := (← get).pos
  skipDigits
  let count := (← get).pos - start
  match ← peek with
  | some 46 => readFraction positive significand count
  | some 101 | some 69 => readExponent positive significand count
  | _ => scaleByTen positive significand count

/-- A number given its sign and whole-part significand, at what follows the whole part. -/
def finishNumber (positive : Bool) (significand : Nat) : Reader Number := do
  match ← peek with
  | some 46 => return .float (← readFraction positive significand 0)
  | some 101 | some 69 => return .float (← readExponent positive significand 0)
  | _ =>
    if positive then return .nat significand
    else if significand = 0 then return .float (-0)
    else if significand ≤ Nat.pow 2 63 then return .neg (-(significand : Int))
    else return .float (-(Double.ofNat significand))

/-- Read a number after its optional minus sign. -/
def readNumberBody (positive : Bool) : Reader Number := do
  match ← next with
  | none => failHere SyntaxError.eofWhileValue.message
  | some b =>
    if b == 48 then
      match ← peek with
      | some d => if isDigit d then failAhead SyntaxError.invalidNumber.message
                  else finishNumber positive 0
      | none => finishNumber positive 0
    else if isDigit b then
      let text ← read
      let rec go : Nat → Nat → Reader Number
        | 0, s => finishNumber positive s
        | fuel + 1, s => do
          match text[(← get).pos]? with
          | some d =>
            if isDigit d then
              if overflows s (d.toNat - 48) wordMax then
                return .float (← readLongWhole positive s)
              else
                eat
                go fuel (s * 10 + (d.toNat - 48))
            else finishNumber positive s
          | none => finishNumber positive s
      go (text.size + 1) (b.toNat - 48)
    else failHere SyntaxError.invalidNumber.message

/-- Read a number at its first byte (a minus sign or a digit). -/
def readNumber : Reader Number := do
  match ← peek with
  | some 45 => eat; readNumberBody false
  | _ => readNumberBody true

/-! ### Whole values -/

/-- Before an array item: `true` when one follows, after its comma if not the first. -/
def itemFollows (first : Bool) : Reader Bool := do
  match ← peekToken with
  | none => failAhead SyntaxError.eofWhileList.message
  | some 93 => pure false
  | some 44 =>
    if first then pure true
    else
      eat
      match ← peekToken with
      | some 93 => failAhead SyntaxError.trailingComma.message
      | some _ => pure true
      | none => failAhead SyntaxError.eofWhileValue.message
  | some _ => if first then pure true else failAhead SyntaxError.expectedListCommaOrEnd.message

/-- Before an object key: the key, or `none` at the closing brace. -/
def nextKey (first : Bool) : Reader (Option String) := do
  let b ← do
    match ← peekToken with
    | some 125 => return none
    | some 44 =>
      if first then pure (some 44)
      else
        eat
        peekToken
    | some b => if first then pure (some b) else failAhead SyntaxError.expectedObjectCommaOrEnd.message
    | none => failAhead SyntaxError.eofWhileObject.message
  match b with
  | some 34 =>
    eat
    return some (← readStringBody)
  | some 125 => failAhead SyntaxError.trailingComma.message
  | some _ => failAhead SyntaxError.keyMustBeString.message
  | none => failAhead SyntaxError.eofWhileValue.message

/-- The colon between a key and its value. -/
def colon : Reader Unit := do
  match ← peekToken with
  | some 58 => eat
  | some _ => failAhead SyntaxError.expectedColon.message
  | none => failAhead SyntaxError.eofWhileObject.message

/-- The end of an array. -/
def closeArray : Reader Unit := do
  match ← peekToken with
  | some 93 => eat
  | some 44 =>
    eat
    match ← peekToken with
    | some 93 => failAhead SyntaxError.trailingComma.message
    | _ => failAhead SyntaxError.trailingCharacters.message
  | some _ => failAhead SyntaxError.trailingCharacters.message
  | none => failAhead SyntaxError.eofWhileList.message

/-- The end of an object. -/
def closeObject : Reader Unit := do
  match ← peekToken with
  | some 125 => eat
  | some 44 => failAhead SyntaxError.trailingComma.message
  | some _ => failAhead SyntaxError.trailingCharacters.message
  | none => failAhead SyntaxError.eofWhileObject.message

/-- Run the body of an array or object, then its closing reader even when the body
failed; the body's error wins over the closing one. -/
def framed {α : Type} (body : Reader α) (close : Reader Unit) : Reader α := do
  let result ← tryCatch (do let a ← body; pure (Except.ok a)) fun e => pure (Except.error e)
  let closed ← tryCatch (do close; pure none) fun e => pure (some e)
  match result, closed with
  | .ok a, none => pure a
  | .error e, _ => throw e
  | .ok _, some e => throw e

/-- Read array items with `item` until the closing bracket. -/
def readItems {α : Type} (item : Reader α) : Reader (List α) := do
  let text ← read
  let rec go : Nat → Bool → List α → Reader (List α)
    | 0, _, acc => pure acc.reverse
    | fuel + 1, first, acc => do
      if ← itemFollows first then go fuel false ((← item) :: acc)
      else pure acc.reverse
  go (text.size + 1) true []

/-- Read object fields with `value` until the closing brace, keeping them sorted by key,
a later duplicate winning. -/
def readFields (value : Reader Json) : Reader (List (String × Json)) := do
  let text ← read
  let rec go : Nat → Bool → List (String × Json) → Reader (List (String × Json))
    | 0, _, acc => pure acc
    | fuel + 1, first, acc => do
      match ← nextKey first with
      | none => pure acc
      | some key =>
        colon
        let v ← value
        go fuel false (insertField key v acc)
  go (text.size + 1) true []

/-- Read a whole value, with `levels` more arrays or objects allowed to open inside. -/
def readValueAt : Nat → Reader Json
  | 0 => failAhead SyntaxError.recursionLimit.message
  | levels + 1 => do
    match ← peekToken with
    | none => failAhead SyntaxError.eofWhileValue.message
    | some 110 => eat; expectWord [117, 108, 108]; pure .null
    | some 116 => eat; expectWord [114, 117, 101]; pure (.bool true)
    | some 102 => eat; expectWord [97, 108, 115, 101]; pure (.bool false)
    | some 34 => eat; pure (.string (← readStringBody))
    | some 91 =>
      if levels = 0 then failAhead SyntaxError.recursionLimit.message
      else
        eat
        pure (.array (← framed (readItems (readValueAt levels)) closeArray))
    | some 123 =>
      if levels = 0 then failAhead SyntaxError.recursionLimit.message
      else
        eat
        pure (.object (← framed (readFields (readValueAt levels)) closeObject))
    | some b =>
      if b == 45 || isDigit b then pure (.number (← readNumber))
      else failAhead SyntaxError.expectedValue.message

/-- Read a whole value at the cursor, nesting as deep as the cursor still allows. -/
def readValue : Reader Json := do
  readValueAt (← get).depth

/-! ### Skipped values -/

/-- Step over the rest of a string after its opening quote, checking only its escapes. -/
def skipStringBody : Reader Unit := do
  let text ← read
  let rec go : Nat → Reader Unit
    | 0 => pure ()
    | fuel + 1 => do
      let c ← get
      let stop := skipPlain text c.pos
      set { c with pos := stop }
      match text[stop]? with
      | none => failHere SyntaxError.eofWhileString.message
      | some b =>
        if b == 34 then eat
        else if b == 92 then
          eat
          match ← next with
          | none => failHere SyntaxError.eofWhileString.message
          | some e =>
            if e == 117 then
              let _ ← readHex4
              go fuel
            else if e == 34 || e == 92 || e == 47 || e == 98 || e == 102 || e == 110 ||
                e == 114 || e == 116 then go fuel
            else failHere SyntaxError.invalidEscape.message
        else failHere SyntaxError.controlCharacter.message
  go (text.size + 1)

/-- Step over a number, checking its grammar but not its range. -/
def skipNumber : Reader Unit := do
  match ← peek with
  | some 45 => eat
  | _ => pure ()
  let first ← next
  match first with
  | some 48 =>
    match ← peek with
    | some d => if isDigit d then failAhead SyntaxError.invalidNumber.message else pure ()
    | none => pure ()
  | some b => if isDigit b then skipDigits else failHere SyntaxError.invalidNumber.message
  | none => failHere SyntaxError.invalidNumber.message
  let exponentPart : Reader Unit := do
    eat
    match ← peek with
    | some 43 | some 45 => eat
    | _ => pure ()
    match ← next with
    | some d => if isDigit d then skipDigits else failHere SyntaxError.invalidNumber.message
    | none => failHere SyntaxError.invalidNumber.message
  match ← peek with
  | some 46 =>
    eat
    let start := (← get).pos
    skipDigits
    if (← get).pos = start then failAhead SyntaxError.invalidNumber.message
    else
      match ← peek with
      | some 101 | some 69 => exponentPart
      | _ => pure ()
  | some 101 | some 69 => exponentPart
  | _ => pure ()

/-- Step over one value without building it, with an explicit stack of open arrays
(`true`) and objects (`false`); no nesting limit applies. -/
def skipValue : Reader Unit := do
  let text ← read
  -- `expectKey`: an object just opened or a comma was read, so a key comes first
  let rec go : Nat → List Bool → Reader Unit
    | 0, _ => pure ()
    | fuel + 1, stack => do
      match ← peekToken with
      | none => failAhead SyntaxError.eofWhileValue.message
      | some b =>
        let opened ← do
          if b == 110 then eat; expectWord [117, 108, 108]; pure none
          else if b == 116 then eat; expectWord [114, 117, 101]; pure none
          else if b == 102 then eat; expectWord [97, 108, 115, 101]; pure none
          else if b == 45 || isDigit b then skipNumber; pure none
          else if b == 34 then eat; skipStringBody; pure none
          else if b == 91 then eat; pure (some true)
          else if b == 123 then eat; pure (some false)
          else failAhead SyntaxError.expectedValue.message
        -- after a value: close frames until a comma or an empty frame's first item
        let rec close : Nat → Bool → List Bool → Reader (Option (List Bool))
          | 0, _, _ => pure none
          | f + 1, acceptComma, frames => do
            match frames with
            | [] => pure none
            | frame :: outer =>
              match ← peekToken with
              | some 44 =>
                if acceptComma then eat; pure (some frames)
                else pure (some frames)
              | some 93 =>
                if frame then eat; close f true outer
                else if acceptComma then failAhead SyntaxError.expectedObjectCommaOrEnd.message
                else pure (some frames)
              | some 125 =>
                if !frame then eat; close f true outer
                else if acceptComma then failAhead SyntaxError.expectedListCommaOrEnd.message
                else pure (some frames)
              | some _ =>
                if acceptComma then
                  failAhead (if frame then SyntaxError.expectedListCommaOrEnd.message
                    else SyntaxError.expectedObjectCommaOrEnd.message)
                else pure (some frames)
              | none =>
                failAhead (if frame then SyntaxError.eofWhileList.message
                  else SyntaxError.eofWhileObject.message)
        let frames ← match opened with
          | some frame => close (text.size + 1) false (frame :: stack)
          | none => close (text.size + 1) true stack
        match frames with
        | none => pure ()
        | some [] => pure ()
        | some (frame :: outer) =>
          if !frame then
            match ← peekToken with
            | some 34 => eat; skipStringBody
            | some _ => failAhead SyntaxError.keyMustBeString.message
            | none => failAhead SyntaxError.eofWhileObject.message
            match ← peekToken with
            | some 58 => eat
            | some _ => failAhead SyntaxError.expectedColon.message
            | none => failAhead SyntaxError.eofWhileObject.message
          go fuel (frame :: outer)
  go (text.size + 1) []

/-- Read a whole text as one value followed only by blanks. -/
def parseText (text : ByteArray) : Except ReadError Json :=
  let reader : Reader Json := do
    let v ← readValue
    match ← peekToken with
    | some _ => failAhead SyntaxError.trailingCharacters.message
    | none => pure v
  (reader.run' text).1

end RentalRouting.Json
