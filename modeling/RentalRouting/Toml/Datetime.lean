/-
RentalRouting/Toml/Datetime.lean

Dates and times of TOML: an offset date-time `1979-05-27T07:32:00Z`, a local date-time, a
local date `1979-05-27` or a local time `07:32:00`.  The seconds may be left out
(`07:32`); a fraction of a second needs them and keeps at most nine digits; the date and
time are parted by `T`, `t` or a space; the offset is `Z`, `z` or a signed `HH:MM`, and
only a date-time with both parts may have one.

Reading cuts the text into runs of digits and the punctuation between them, and says what
it was reading and what it expected when the text does not fit: a part of the wrong
length, a field out of range (the day checked against the month and the leap years), a
date followed by anything but the mark of a time, a time of a date-time followed by
anything but an offset, or a character where none belongs.  A date-time is written back with `T` between its parts,
two digits for each field but the four of the year, the fraction without trailing zeros
(`.0` when all its digits are zeros), and an offset of zero minutes as `+00:00`.
-/
namespace RentalRouting.Toml

/-- A calendar date. -/
structure Date where
  year : Nat
  month : Nat
  day : Nat
  deriving DecidableEq, Repr

/-- A time of day; the seconds and the fraction are kept as given. -/
structure Time where
  hour : Nat
  minute : Nat
  second : Option Nat
  nanosecond : Option Nat
  deriving DecidableEq, Repr

/-- The offset of a date-time from universal time. -/
inductive Offset where
  | utc
  | minutes (m : Int)
  deriving DecidableEq, Repr

/-- A date, a time, or both, with an optional offset. -/
structure Datetime where
  date : Option Date
  time : Option Time
  offset : Option Offset
  deriving DecidableEq, Repr

/-- The pieces a date-time text is cut into. -/
inductive Piece where
  | digits (ds : List Char)
  | dash
  | colon
  | dot
  | tee
  | space
  | zulu
  | plus
  /-- Anything else, with the rest of the text. -/
  | unknown
  deriving DecidableEq, Repr

/-- The pieces of a text, `run` holding the digits met last, in reverse. -/
def piecesFrom (run : List Char) : List Char → List Piece
  | [] => if run.isEmpty then [] else [.digits run.reverse]
  | c :: cs =>
    if c.isDigit then piecesFrom (c :: run) cs
    else
      let done := if run.isEmpty then [] else [Piece.digits run.reverse]
      done ++ match c with
        | '-' => .dash :: piecesFrom [] cs
        | ':' => .colon :: piecesFrom [] cs
        | '.' => .dot :: piecesFrom [] cs
        | 'T' | 't' => .tee :: piecesFrom [] cs
        | ' ' => .space :: piecesFrom [] cs
        | 'Z' | 'z' => .zulu :: piecesFrom [] cs
        | '+' => .plus :: piecesFrom [] cs
        | _ => [.unknown]

/-- The pieces of a text. -/
def pieces (cs : List Char) : List Piece := piecesFrom [] cs

/-- Why a text is not a date-time: what was being read, and what was expected. -/
structure DatetimeFault where
  what : Option String
  expected : Option String
  deriving DecidableEq, Repr

/-- The text of a date-time fault. -/
def DatetimeFault.text (f : DatetimeFault) : String :=
  (match f.what with | some w => "invalid " ++ w | none => "invalid datetime") ++
    (match f.expected with | some e => ", expected " ++ e | none => "")

/-- Reading date-time pieces. -/
abbrev DatetimeReading := StateT (List Piece) (Except DatetimeFault)

/-- A run of digits, or the fault. -/
def takeDigits (fault : DatetimeFault) : DatetimeReading (List Char) := do
  match ← get with
  | .digits ds :: rest => set rest; pure ds
  | _ => throw fault

/-- A given piece, or the fault. -/
def takePiece (p : Piece) (fault : DatetimeFault) : DatetimeReading Unit := do
  match ← get with
  | q :: rest => if q = p then set rest else throw fault
  | [] => throw fault

/-- Take a piece if it is the next one, answering whether it was. -/
def takeIf (p : Piece) : DatetimeReading Bool := do
  match ← get with
  | q :: rest => if q = p then do set rest; pure true else pure false
  | [] => pure false

/-- The value of decimal digits. -/
def digitsValue (ds : List Char) : Nat := ds.foldl (fun n c => 10 * n + (c.toNat - 48)) 0

/-- The nanoseconds of the digits of a fraction: its first nine digits. -/
def fractionNanos (ds : List Char) : Nat :=
  let nine := ds.take 9
  digitsValue nine * Nat.pow 10 (9 - nine.length)

/-- The year has a 29th of February. -/
def isLeapYear (y : Nat) : Bool := y % 4 = 0 && (y % 100 != 0 || y % 400 = 0)

/-- The number of days of a month, and the expectation that names it. -/
def monthDays (year month : Nat) : Nat × String :=
  match month with
  | 2 => if isLeapYear year then (29, "day between 01 and 29") else (28, "day between 01 and 28")
  | 4 | 6 | 9 | 11 => (30, "day between 01 and 30")
  | _ => (31, "day between 01 and 31")

/-- A fault while reading a part. -/
def faultIn (what expected : String) : DatetimeFault := ⟨some what, some expected⟩

/-- The rest of a date after the digits of its year and the dash. -/
def readDate (year : List Char) : DatetimeReading Date := do
  let month ← takeDigits (faultIn "date" "month")
  takePiece .dash (faultIn "date" "`-` (MM-DD)")
  let day ← takeDigits (faultIn "date" "day")
  if year.length != 4 then throw (faultIn "date" "a four-digit year (YYYY)")
  if month.length != 2 then throw (faultIn "date" "a two-digit month (MM)")
  if day.length != 2 then throw (faultIn "date" "a two-digit day (DD)")
  let d : Date := ⟨digitsValue year, digitsValue month, digitsValue day⟩
  if d.month < 1 || 12 < d.month then throw (faultIn "date" "month between 01 and 12")
  let (most, expected) := monthDays d.year d.month
  if d.day < 1 || most < d.day then throw (faultIn "date" expected)
  pure d

/-- A time of day. -/
def readTime : DatetimeReading Time := do
  let hour ← takeDigits (faultIn "time" "hour")
  takePiece .colon (faultIn "time" "`:` (HH:MM)")
  let minute ← takeDigits (faultIn "time" "minute")
  let second ← if ← takeIf .colon then some <$> takeDigits (faultIn "time" "second") else pure none
  let fraction ← if second.isSome && (← takeIf .dot) then
      some <$> takeDigits (faultIn "time" "nanosecond")
    else pure none
  if hour.length != 2 then throw (faultIn "time" "a two-digit hour (HH)")
  if minute.length != 2 then throw (faultIn "time" "a two-digit minute (MM)")
  if (second.map List.length).getD 2 != 2 then throw (faultIn "time" "a two-digit second (SS)")
  let t : Time := ⟨digitsValue hour, digitsValue minute, second.map digitsValue,
    fraction.map fractionNanos⟩
  if 23 < t.hour then throw (faultIn "time" "hour between 00 and 23")
  if 59 < t.minute then throw (faultIn "time" "minute between 00 and 59")
  if 60 < t.second.getD 0 then throw (faultIn "time" "second between 00 and 60")
  pure t

/-- The hours and minutes of an offset after its sign. -/
def readOffset (negative : Bool) : DatetimeReading Offset := do
  let hours ← takeDigits (faultIn "offset" "hour")
  takePiece .colon (faultIn "offset" "`:` (HH:MM)")
  let minutes ← takeDigits (faultIn "offset" "minute")
  if hours.length != 2 then throw (faultIn "offset" "a two-digit hour (HH)")
  if minutes.length != 2 then throw (faultIn "offset" "a two-digit minute (MM)")
  if 23 < digitsValue hours then throw (faultIn "offset" "hours between 00 and 23")
  if 59 < digitsValue minutes then throw (faultIn "offset" "minutes between 00 and 59")
  let total : Int := digitsValue hours * 60 + digitsValue minutes
  pure (.minutes (if negative then -total else total))

/-- The offset of a date-time, if anything follows its time. -/
def readOffset? : DatetimeReading (Option Offset) := do
  match ← get with
  | [] => pure none
  | .zulu :: rest => set rest; pure (some .utc)
  | .plus :: rest => set rest; some <$> readOffset false
  | .dash :: rest => set rest; some <$> readOffset true
  | _ => throw (faultIn "offset" "`Z`, +OFFSET, -OFFSET")

/-- A date-time from its pieces. -/
def readDatetime : DatetimeReading Datetime := do
  let ps ← get
  let first ← takeDigits ⟨none, some "year or hour"⟩
  let date ← match ← get with
    | .dash :: rest => do
      set rest
      some <$> readDate first
    | .colon :: _ => do
      set ps
      pure none
    | _ => throw ⟨none, some "`-` (YYYY-MM) or `:` (HH:MM)"⟩
  let time ← match date with
    | none => some <$> readTime
    | some _ =>
      match ← get with
      | [] => pure none
      | .tee :: rest | .space :: rest => do set rest; some <$> readTime
      | _ => throw (faultIn "date-time" "`T` between date and time")
  let offset ← if date.isSome && time.isSome then readOffset? else pure none
  if !(← get).isEmpty then throw ⟨none, none⟩
  pure ⟨date, time, offset⟩

/-- Read a date-time. -/
def parseDatetime (s : String) : Except DatetimeFault Datetime :=
  readDatetime.run' (pieces s.toList)

/-- A number written with at least `width` digits. -/
def padded (width n : Nat) : String :=
  let ds := Nat.toDigits 10 n
  String.ofList (List.replicate (width - ds.length) '0' ++ ds)

/-- The text of a date. -/
def Date.text (d : Date) : String :=
  padded 4 d.year ++ "-" ++ padded 2 d.month ++ "-" ++ padded 2 d.day

/-- The digits of a fraction of a second: nine, less the trailing zeros, and one zero when
all are zeros. -/
def fractionText (nanos : Nat) : String :=
  let ds := ((padded 9 nanos).toList.reverse.dropWhile (· = '0')).reverse
  if ds.isEmpty then "0" else String.ofList ds

/-- The text of a time. -/
def Time.text (t : Time) : String :=
  padded 2 t.hour ++ ":" ++ padded 2 t.minute ++
    (match t.second with | some s => ":" ++ padded 2 s | none => "") ++
    (match t.nanosecond with | some n => "." ++ fractionText n | none => "")

/-- The text of an offset. -/
def Offset.text : Offset → String
  | .utc => "Z"
  | .minutes m =>
    (if m < 0 then "-" else "+") ++ padded 2 (m.natAbs / 60) ++ ":" ++ padded 2 (m.natAbs % 60)

/-- The text of a date-time. -/
def Datetime.text (d : Datetime) : String :=
  (d.date.map Date.text).getD "" ++
    (match d.time with
      | some t => (if d.date.isSome then "T" else "") ++ t.text
      | none => "") ++
    (d.offset.map Offset.text).getD ""

end RentalRouting.Toml
