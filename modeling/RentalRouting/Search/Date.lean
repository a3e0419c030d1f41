/-
RentalRouting/Search/Date.lean

Calendar dates of the proleptic Gregorian calendar, written `YYYY-MM-DD`.  Reading a date
takes a year of up to four digits (or any number after a sign), a month and a day of up
to two digits each, separated by `-`, with blanks (the Unicode white space) allowed before
each number, before each `-` and at the end; a year beyond 32 bits, a month outside 1 to
12, a day outside 1 to 31, or a day the month does not have is out of range.
A year from 0 to 9999 is written with four digits and any other with its sign.
-/
import RentalRouting.Text.Blank
namespace RentalRouting

/-- A calendar date. -/
structure Date where
  year : Int
  month : Nat
  day : Nat
  deriving DecidableEq, Repr, Inhabited

namespace Date

/-- The year has a 29th of February. -/
def isLeap (y : Int) : Bool := (y % 4 = 0 && y % 100 ≠ 0) || y % 400 = 0

/-- The number of days of a month. -/
def monthLength (y : Int) (m : Nat) : Nat :=
  match m with
  | 2 => if isLeap y then 29 else 28
  | 4 | 6 | 9 | 11 => 30
  | _ => 31

/-- Why a text is not a date. -/
inductive ParseError where
  | outOfRange
  | invalid
  | tooShort
  | tooLong
  deriving DecidableEq, Repr

/-- The text of a date reading error. -/
def ParseError.message : ParseError → String
  | .outOfRange => "input is out of range"
  | .invalid => "input contains invalid characters"
  | .tooShort => "premature end of input"
  | .tooLong => "trailing input"

/-- Read `1` to `width` digits. -/
def digits (cs : List Char) (width : Nat) : Except ParseError (Nat × List Char) :=
  let ds := (cs.takeWhile Char.isDigit).take width
  if ds.isEmpty then
    if cs.isEmpty then .error .tooShort else .error .invalid
  else
    .ok (ds.foldl (fun n c => 10 * n + (c.toNat - 48)) 0, cs.drop ds.length)

/-- Read a number of `1` to `width` digits after optional blanks. -/
def number (cs : List Char) (width : Nat) : Except ParseError (Nat × List Char) :=
  digits (cs.dropWhile Text.isBlank) width

/-- Read a literal character after optional blanks. -/
def literal (c : Char) (cs : List Char) : Except ParseError (List Char) :=
  match cs.dropWhile Text.isBlank with
  | [] => .error .tooShort
  | d :: rest => if d = c then .ok rest else .error .invalid

/-- Read the year after optional blanks.  A sign must be followed at once by digits, as
many as there are, and the value must fit in 32 bits; without a sign at most four digits
are read. -/
def readYear (cs : List Char) : Except ParseError (Int × List Char) :=
  match cs.dropWhile Text.isBlank with
  | '-' :: rest => do
    let (n, r) ← digits rest rest.length
    if 2147483648 < n then throw .outOfRange
    return (-(n : Int), r)
  | '+' :: rest => do
    let (n, r) ← digits rest rest.length
    if 2147483647 < n then throw .outOfRange
    return ((n : Int), r)
  | cs => do let (n, r) ← digits cs 4; return ((n : Int), r)

/-- Read a date `YYYY-MM-DD`; blanks may stand before each part and at the end. -/
def parse (s : String) : Except ParseError Date := do
  let (y, rest) ← readYear s.toList
  let rest ← literal '-' rest
  let (m, rest) ← number rest 2
  if m < 1 ∨ 12 < m then throw .outOfRange
  let rest ← literal '-' rest
  let (d, rest) ← number rest 2
  if d < 1 ∨ 31 < d then throw .outOfRange
  if ¬ (rest.dropWhile Text.isBlank).isEmpty then throw .tooLong
  if y < -262143 ∨ 262142 < y ∨ monthLength y m < d then throw .outOfRange
  return ⟨y, m, d⟩

/-- A number written with at least `width` digits. -/
def padded (n width : Nat) : String :=
  let digits := Nat.toDigits 10 n
  String.ofList (List.replicate (width - digits.length) '0' ++ digits)

/-- The text `YYYY-MM-DD` of a date. -/
def text (d : Date) : String :=
  let y := if 0 ≤ d.year ∧ d.year ≤ 9999 then padded d.year.toNat 4
    else (if d.year < 0 then "-" else "+") ++ padded d.year.natAbs 4
  y ++ "-" ++ padded d.month 2 ++ "-" ++ padded d.day 2

end Date

end RentalRouting
