/-
RentalRouting/Numeric/Text.lean

Doubles written as text.  A `FloatStyle` records the decisions of one written form: which
decimal exponents are written positionally, whether a whole value keeps `.0`, and the words
for not-a-number and infinity.  Two styles are used: `FloatStyle.plain`, the form of numbers
inside messages (always positional, no `.0`), and `FloatStyle.json`, the form of numbers in
JSON output (positional from `1e-5` up to below `1e16`, scientific outside, with a signed
exponent).  `fixedText`
writes a fixed number of places of the exact value.
-/
import RentalRouting.Numeric.Decimal

namespace RentalRouting

/-- The digits of a natural number in base ten. -/
def decimalDigits (n : Nat) : String := String.ofList (Nat.toDigits 10 n)

/-- `n` copies of the digit zero. -/
def zeros (n : Nat) : String := String.ofList (List.replicate n '0')

/-- How a double is written as text. -/
structure FloatStyle where
  /-- With `10 ^ (e - 1) ≤ |v| < 10 ^ e`, the value is positional when `lo ≤ e ≤ hi` for
  `some (lo, hi)`, and always when `none`. -/
  positionalRange : Option (Int × Int)
  /-- A whole value written positionally ends in `.0`. -/
  wholePointZero : Bool
  /-- The word for not-a-number. -/
  notANumber : String
  /-- The word for positive infinity; a minus sign goes before it for negative infinity. -/
  infinity : String

namespace FloatStyle

/-- Numbers in messages: every value positional, a whole value without a point. -/
def plain : FloatStyle := ⟨none, false, "NaN", "inf"⟩

/-- Numbers in JSON: positional from `1e-5` up to below `1e16`, a whole value with `.0`,
scientific outside. -/
def json : FloatStyle := ⟨some (-4, 16), true, "NaN", "inf"⟩

/-- Positional text of `digits * 10 ^ exponent`. -/
def positional (style : FloatStyle) (d : Decimal) : String :=
  let text := decimalDigits d.digits
  let count : Int := text.length
  if 0 ≤ d.exponent then
    text ++ zeros d.exponent.toNat ++ (if style.wholePointZero then ".0" else "")
  else
    let whole := count + d.exponent
    if 0 < whole then
      String.ofList (text.toList.take whole.toNat) ++ "." ++
        String.ofList (text.toList.drop whole.toNat)
    else
      "0." ++ zeros (-whole).toNat ++ text

/-- Scientific text of `digits * 10 ^ exponent`: one digit, the rest after a point, and the
exponent of the leading digit, always with its sign. -/
def scientific (d : Decimal) : String :=
  let text := decimalDigits d.digits
  let power : Int := (text.length : Int) + d.exponent - 1
  let mantissa := match text.toList with
    | [c] => String.singleton c
    | c :: rest => String.singleton c ++ "." ++ String.ofList rest
    | [] => "0"
  mantissa ++ "e" ++ (if 0 ≤ power then "+" else "") ++ toString power

/-- The text of a finite nonnegative magnitude. -/
def magnitude (style : FloatStyle) (units : Nat) : String :=
  if units = 0 then positional style ⟨0, 0⟩
  else
    let d := Decimal.shortest units
    let e : Int := ((decimalDigits d.digits).length : Int) + d.exponent
    match style.positionalRange with
    | none => positional style d
    | some (lo, hi) => if lo ≤ e ∧ e ≤ hi then positional style d else scientific d

/-- The text of a double in this style. -/
def render (style : FloatStyle) (x : Float) : String :=
  match Double.ofFloat x with
  | .nan => style.notANumber
  | .infinite negative => (if negative then "-" else "") ++ style.infinity
  | .finite negative units => (if negative then "-" else "") ++ style.magnitude units

end FloatStyle

/-- The exact value of a double rounded to `places` decimal places, a tie going to the even
digit; the sign of a negative value stays even when it rounds to zero. -/
def fixedText (x : Float) (places : Nat) : String :=
  match Double.ofFloat x with
  | .nan => "NaN"
  | .infinite negative => if negative then "-inf" else "inf"
  | .finite negative units =>
    let scaled := Decimal.fixed units places
    let whole := scaled / Nat.pow 10 places
    let part := scaled % Nat.pow 10 places
    let partText := decimalDigits part
    let tail := if places = 0 then "" else "." ++ zeros (places - partText.length) ++ partText
    (if negative then "-" else "") ++ decimalDigits whole ++ tail

end RentalRouting
