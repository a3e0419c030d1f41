/-
RentalRouting/Numeric/Read.lean

Reading a decimal literal as the nearest double: an optional sign, digits with an optional
point (at least one digit before or after it), and an optional exponent of `e` or `E`, an
optional sign and at least one digit; nothing else may follow.  A value too large for a
double reads as infinity and one too small as zero, with the literal's sign.  The words
for infinity and not-a-number are not literals, but a number may also be written as one of
them: `inf`, `infinity` or `nan` in any case, after an optional sign.
-/
import RentalRouting.Numeric.Binary

namespace RentalRouting

namespace Decimal

/-- Split off the leading ASCII digits. -/
def spanDigits (cs : List Char) : List Char × List Char := cs.span Char.isDigit

/-- The value of a string of ASCII digits. -/
def digitsValue (ds : List Char) : Nat := ds.foldl (fun n c => 10 * n + (c.toNat - 48)) 0

/-- Split off an optional sign: `-` is negative, `+` or none positive. -/
def splitSign : List Char → Bool × List Char
  | '-' :: rest => (true, rest)
  | '+' :: rest => (false, rest)
  | cs => (false, cs)

/-- A literal's parts: sign, significand digits, and the power of ten they are scaled by. -/
def parts? (s : String) : Option (Bool × Nat × Int) :=
  let (negative, cs) := splitSign s.toList
  let (whole, rest) := spanDigits cs
  let (fraction, rest) := match rest with
    | '.' :: after => spanDigits after
    | _ => ([], rest)
  if whole.isEmpty ∧ fraction.isEmpty then none
  else
    let shift : Int := -(fraction.length : Int)
    let significand := digitsValue (whole ++ fraction)
    match rest with
    | [] => some (negative, significand, shift)
    | c :: after =>
      if c = 'e' ∨ c = 'E' then
        let (expNegative, expDigits) := splitSign after
        let (digits, tail) := spanDigits expDigits
        if digits.isEmpty ∨ ¬ tail.isEmpty then none
        else
          let e : Int := digitsValue digits
          some (negative, significand, shift + (if expNegative then -e else e))
      else none

/-- The double nearest to `±significand * 10 ^ exponent`; far outside the range of doubles
the answer is infinity or zero without computing the power. -/
def toDouble (negative : Bool) (significand : Nat) (exponent : Int) : Float :=
  let count : Int := (Nat.toDigits 10 significand).length
  if significand = 0 ∨ count + exponent < -330 then Double.round negative 0 1
  else if 310 < count + exponent then Double.encodeUnits negative Double.overflowUnits
  else if 0 ≤ exponent then Double.round negative (significand * Nat.pow 10 exponent.toNat) 1
  else Double.round negative significand (Nat.pow 10 (-exponent).toNat)

end Decimal

/-- Read a decimal literal as the nearest double. -/
def readDecimal? (s : String) : Option Float :=
  (Decimal.parts? s).map fun (negative, significand, exponent) =>
    Decimal.toDouble negative significand exponent

/-- Read a decimal literal, or a word for infinity or not-a-number, as a double. -/
def readNumberWord? (s : String) : Option Float :=
  let (negative, body) := Decimal.splitSign s.toList
  let word := String.ofList (body.map Char.toLower)
  if word = "inf" || word = "infinity" then some (Double.encodeUnits negative Double.overflowUnits)
  else if word = "nan" then some (0.0 / 0.0)
  else readDecimal? s

end RentalRouting
