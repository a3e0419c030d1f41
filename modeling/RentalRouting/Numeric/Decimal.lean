/-
RentalRouting/Numeric/Decimal.lean

Decimal digits of a finite double.  `Decimal.shortest` gives the fewest significant digits
whose decimal value reads back as the double: a decimal reads back when it lies in the
double's rounding interval, whose ends belong to it exactly when the significand is even.
For each number of digits the two grid points around the value are tried; the first number
of digits with a hit wins, of two hits the nearer, and an exact tie goes to the even digit
string.  `Decimal.fixed` rounds the exact value to a number of places, a tie going to the
even last digit.
-/
import RentalRouting.Numeric.Binary

namespace RentalRouting

/-- A decimal number `digits * 10 ^ exponent`. -/
structure Decimal where
  digits : Nat
  exponent : Int
  deriving DecidableEq, Repr, Inhabited

namespace Decimal

/-- `10 ^ e * unitsPerOne ≤ units`: the power of ten is at most the magnitude. -/
def tenPowAtMost (e : Int) (units : Nat) : Bool :=
  if 0 ≤ e then Nat.pow 10 e.toNat * Double.unitsPerOne ≤ units
  else Double.unitsPerOne ≤ units * Nat.pow 10 (-e).toNat

/-- The decimal exponent of a positive magnitude: the `e` with
`10 ^ e ≤ units / unitsPerOne < 10 ^ (e + 1)`.  The estimate from the bit length is off
by at most one either way, and both corrections are applied. -/
def exponentOf (units : Nat) : Int :=
  let bits : Int := (units.log2 : Int) - 1074
  let guess : Int := (bits * 78913) / 262144
  let down := if tenPowAtMost guess units then guess else guess - 1
  let down := if tenPowAtMost down units then down else down - 1
  let up := if tenPowAtMost (down + 1) units then down + 1 else down
  if tenPowAtMost (up + 1) units then up + 1 else up

/-- The number of decimal digits of a positive natural number (one for zero). -/
def digitCount (n : Nat) : Nat := (Nat.toDigits 10 n).length

/-- The rounding interval of the double of `units` (positive), doubled so that its ends
are whole numbers of units: `(low, high)`, and whether the ends belong to it. -/
def interval (units : Nat) : Nat × Nat × Bool :=
  if units < Nat.pow 2 53 then (2 * units - 1, 2 * units + 1, units % 2 = 0)
  else
    let shift := units.log2 - 52
    let step := Nat.pow 2 shift
    let significand := units / step
    let below := if significand = Nat.pow 2 52 then step / 2 else step
    (2 * units - below, 2 * units + step, significand % 2 = 0)

/-- The grid point `d * 10 ^ k` lies in the doubled interval `(low, high)`, compared after
scaling both sides to whole numbers. -/
def onGrid (k : Int) (low high : Nat) (closed : Bool) (d : Nat) : Bool :=
  let unit := 2 * Double.unitsPerOne * Nat.pow 10 k.toNat
  let scale := Nat.pow 10 (-k).toNat
  let point := d * unit
  if closed then low * scale ≤ point ∧ point ≤ high * scale
  else low * scale < point ∧ point < high * scale

/-- Of the grid points with spacing `10 ^ k` around the double of `units`, the one that
reads back, the nearer if both do, a tie going to the even one. -/
def pickOnGrid (units : Nat) (k : Int) : Option Nat :=
  let (low, high, closed) := interval units
  let unit := 2 * Double.unitsPerOne * Nat.pow 10 k.toNat
  let scale := Nat.pow 10 (-k).toNat
  let value := 2 * units * scale
  let below := value / unit
  let above := below + 1
  let belowOk := onGrid k low high closed below
  let aboveOk := onGrid k low high closed above
  if belowOk ∧ aboveOk then
    let gapBelow := value - below * unit
    let gapAbove := above * unit - value
    if gapBelow < gapAbove then some below
    else if gapAbove < gapBelow then some above
    else if below % 2 = 0 then some below else some above
  else if belowOk then some below
  else if aboveOk then some above
  else none

/-- Try one to `count` significant digits, fewest first. -/
def searchDigits (units : Nat) (top : Int) : Nat → Nat → Option Decimal
  | 0, _ => none
  | fuel + 1, n =>
    let k := top + 1 - n
    match pickOnGrid units k with
    | some d => some ⟨d, k⟩
    | none => searchDigits units top fuel (n + 1)

/-- Strip trailing zero digits into the exponent. -/
def normalize (d : Decimal) : Decimal :=
  let rec go : Nat → Nat → Int → Decimal
    | 0, digits, exponent => ⟨digits, exponent⟩
    | fuel + 1, digits, exponent =>
      if digits ≠ 0 ∧ digits % 10 = 0 then go fuel (digits / 10) (exponent + 1)
      else ⟨digits, exponent⟩
  go 20 d.digits d.exponent

/-- The shortest decimal that reads back as the double of `units` (positive).  Seventeen
significant digits always suffice. -/
def shortest (units : Nat) : Decimal :=
  let top := exponentOf units
  match searchDigits units top 17 1 with
  | some d => normalize d
  | none => normalize ⟨Double.roundHalfEven (units * Nat.pow 10 (16 - top).toNat)
      (Double.unitsPerOne * Nat.pow 10 (top - 16).toNat), top - 16⟩

/-- The exact value of `units` rounded to `places` decimal places, as a whole number of
`10 ^ -places`, a tie going to the even one. -/
def fixed (units places : Nat) : Nat :=
  Double.roundHalfEven (units * Nat.pow 10 places) Double.unitsPerOne

end Decimal

end RentalRouting
