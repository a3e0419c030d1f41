/-
RentalRouting/Numeric/Binary.lean

Doubles as exact numbers.  Every finite double is an integer multiple of the least
subnormal `2 ^ -1074`, so a finite double is a sign and a natural number of such units.
`Double.ofFloat` reads the bit fields of a `Float` that way, and `Double.round` goes the
other way: it rounds a nonnegative ratio to the nearest double, a tie going to the even
significand, and a magnitude of `2 ^ 1024` or more becomes an infinity.
-/
namespace RentalRouting

/-- A double seen as a number: not a number, a signed infinity, or a signed finite
magnitude counted in units of `2 ^ -1074`. -/
inductive Double where
  | nan
  | infinite (negative : Bool)
  | finite (negative : Bool) (units : Nat)
  deriving DecidableEq, Repr, Inhabited

namespace Double

/-- The number of units in one: a finite double's value is `units / unitsPerOne`. -/
def unitsPerOne : Nat := Nat.pow 2 1074

/-- Magnitudes from here on are infinite: `2 ^ 1024` in units. -/
def overflowUnits : Nat := Nat.pow 2 2098

/-- Read the sign, the biased exponent and the fraction field of a double. -/
def ofFloat (x : Float) : Double :=
  let bits := x.toBits.toNat
  let negative := decide (Nat.pow 2 63 ≤ bits)
  let biased := bits / Nat.pow 2 52 % Nat.pow 2 11
  let fraction := bits % Nat.pow 2 52
  if biased = 2047 then
    if fraction = 0 then .infinite negative else .nan
  else if biased = 0 then .finite negative fraction
  else .finite negative ((Nat.pow 2 52 + fraction) * Nat.pow 2 (biased - 1))

/-- The nearest natural number to `num / den`, a tie going to the even one
(`den` is positive). -/
def roundHalfEven (num den : Nat) : Nat :=
  let q := num / den
  let r := num % den
  if 2 * r < den then q
  else if den < 2 * r then q + 1
  else if q % 2 = 0 then q else q + 1

/-- The representable magnitude nearest to `num / den` units.  Below `2 ^ 53` units every
whole number of units is a double; above, only the multiples of `2 ^ (bits - 53)`, where
`bits` is the bit length of the whole part. -/
def nearestUnits (num den : Nat) : Nat :=
  let whole := num / den
  if whole < Nat.pow 2 53 then roundHalfEven num den
  else
    let shift := whole.log2 + 1 - 53
    roundHalfEven num (den * Nat.pow 2 shift) * Nat.pow 2 shift

/-- The double with this sign and this representable magnitude; from `overflowUnits` on it
is the infinity of that sign. -/
def encodeUnits (negative : Bool) (units : Nat) : Float :=
  let sign : Nat := if negative then Nat.pow 2 63 else 0
  if overflowUnits ≤ units then Float.ofBits (UInt64.ofNat (sign + 2047 * Nat.pow 2 52))
  else if units < Nat.pow 2 52 then Float.ofBits (UInt64.ofNat (sign + units))
  else
    let shift := units.log2 - 52
    let significand := units / Nat.pow 2 shift
    Float.ofBits (UInt64.ofNat (sign + (shift + 1) * Nat.pow 2 52 + (significand - Nat.pow 2 52)))

/-- The double nearest to `num / den` (`den` positive), negated when `negative`. -/
def round (negative : Bool) (num den : Nat) : Float :=
  encodeUnits negative (nearestUnits (num * unitsPerOne) den)

/-- The double nearest to a natural number. -/
def ofNat (n : Nat) : Float := round false n 1

/-- The double nearest to an integer. -/
def ofInt (n : Int) : Float := round (decide (n < 0)) n.natAbs 1

/-- The double nearest to `10 ^ k`. -/
def tenPow (k : Nat) : Float := round false (Nat.pow 10 k) 1

/-- The double nearest to `digits * 10 ^ exponent`. -/
def ofDecimal (digits : Nat) (exponent : Int) : Float :=
  if 0 ≤ exponent then round false (digits * Nat.pow 10 exponent.toNat) 1
  else round false digits (Nat.pow 10 (-exponent).toNat)

/-- A finite double is an integer when its magnitude is a multiple of `unitsPerOne`. -/
def isIntegral : Double → Bool
  | .finite _ units => units % unitsPerOne = 0
  | _ => false

/-- The integer nearest to a finite double, a half going away from zero. -/
def roundHalfAway (negative : Bool) (units : Nat) : Int :=
  let whole := (2 * units + unitsPerOne) / (2 * unitsPerOne)
  if negative then -(whole : Int) else whole

/-- The bound of signed 64-bit words, `2 ^ 63`. -/
def wordLimit : Int := Int.ofNat (Nat.pow 2 63)

/-- The integer nearest to a double, a half going away from zero, saturated to the range
of signed 64-bit words; not-a-number goes to zero. -/
def roundToWord (x : Float) : Int :=
  match ofFloat x with
  | .nan => 0
  | .infinite negative => if negative then -wordLimit else wordLimit - 1
  | .finite negative units =>
    let n := roundHalfAway negative units
    if n < -wordLimit then -wordLimit else if wordLimit - 1 < n then wordLimit - 1 else n

end Double

end RentalRouting
