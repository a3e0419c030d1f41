/-
RentalRouting/Proofs/FloatDivision.lean

Dividing by a larger number never gives a larger quotient, in binary64:

    0 ≤ a → 0 < c → c ≤ b → b finite → a / b ≤ a / c          (`Float.div_le_div_left`)

proved from the logical model of floats.  The model divides two finite numbers by
truncating the exact quotient to a mantissa with a round bit and a sticky bit, and rounds
that to nearest, ties to even.  The proof reads each truncation as a statement about the
exact value it stands for (`ExtendedMantissa.Truncates`): shifting right keeps the
statement, the rank of a truncation (mantissa, then round bit, then sticky bit) grows with
the exact value, and rounding to nearest grows with the rank.  Two exact values rounded at
the same exponent are therefore rounded in order; at different exponents the smaller value
rounds to at most the power of two between them and the larger one to at least it.
-/
import Mathlib
import RentalRouting.Proofs.FloatOrder

namespace Float.Model.UnpackedFloat

namespace ExtendedMantissa

/-! ### Truncations of exact values -/

/-- Where a truncation stands among those of its mantissa: the mantissa first, then the
round bit, then the sticky bit. -/
def rank (em : ExtendedMantissa) : Nat :=
  4 * em.mantissa + 2 * em.roundBit.toNat + em.stickyBit.toNat

/-- `em` is what truncating `y`, counted in units of its last place, leaves: the whole units,
whether the rest reaches half a unit, and whether the rest is neither nothing nor half. -/
structure Truncates (y : ℚ) (em : ExtendedMantissa) : Prop where
  lower : (em.mantissa : ℚ) ≤ y
  upper : y < em.mantissa + 1
  roundBit : em.roundBit = true ↔ (em.mantissa : ℚ) + 1 / 2 ≤ y
  stickyBit : em.stickyBit = true ↔ y ≠ em.mantissa ∧ y ≠ (em.mantissa : ℚ) + 1 / 2

variable {y y' : ℚ} {em em' : ExtendedMantissa}

/-- The round bit or the sticky bit is set exactly when something was cut off. -/
theorem Truncates.roundBit_or_stickyBit (h : Truncates y em) :
    (em.roundBit || em.stickyBit) = true ↔ y ≠ em.mantissa := by
  rw [Bool.or_eq_true, h.roundBit, h.stickyBit]
  constructor
  · rintro (hr | ⟨hne, -⟩)
    · intro heq
      linarith
    · exact hne
  · intro hne
    by_cases hr : (em.mantissa : ℚ) + 1 / 2 ≤ y
    · exact .inl hr
    · exact .inr ⟨hne, fun heq => hr heq.ge⟩

/-- Shifting a truncation right by one halves the value it stands for. -/
theorem Truncates.shiftRightOne (h : Truncates y em) : Truncates (y / 2) em.shiftRightOne := by
  have hcut := h.roundBit_or_stickyBit
  obtain ⟨m, r, s⟩ := em
  obtain ⟨hlo, hhi, -, -⟩ := h
  simp only at hlo hhi hcut
  have hsplit : (m : ℚ) = 2 * (m / 2 : ℕ) + (m % 2 : ℕ) := by
    exact_mod_cast (Nat.div_add_mod m 2).symm
  simp only [ExtendedMantissa.shiftRightOne]
  -- the dropped bit is the new round bit; everything below it makes the new sticky bit
  rcases Nat.mod_two_eq_zero_or_one m with hbit | hbit
  · rw [hbit, Nat.cast_zero, add_zero] at hsplit
    refine ⟨by linarith, by linarith, ?_, ?_⟩
    · simp only [hbit, bne_self_eq_false, Bool.false_eq_true, false_iff, not_le]
      linarith
    · rw [hcut, hsplit]
      constructor
      · intro hne
        refine ⟨fun heq => hne (by linarith), fun heq => ?_⟩
        linarith
      · rintro ⟨hne, -⟩ heq
        exact hne (by linarith)
  · rw [hbit, Nat.cast_one] at hsplit
    refine ⟨by linarith, by linarith, ?_, ?_⟩
    · simp only [hbit]
      constructor
      · intro
        linarith
      · intro
        decide
    · rw [hcut, hsplit]
      constructor
      · intro hne
        refine ⟨fun heq => ?_, fun heq => hne (by linarith)⟩
        linarith
      · rintro ⟨-, hne⟩ heq
        exact hne (by linarith)

/-- Shifting a truncation right by `n` divides the value it stands for by `2 ^ n`. -/
theorem Truncates.shiftRight (h : Truncates y em) (n : Nat) :
    Truncates (y / 2 ^ n) (em >>> n) := by
  induction n with
  | zero => simpa [HShiftRight.hShiftRight, Nat.repeat] using h
  | succ n ih =>
    have hstep := ih.shiftRightOne
    rwa [div_div, ← pow_succ] at hstep

/-- A larger value truncates to a rank at least as large. -/
theorem Truncates.rank_le (h : Truncates y em) (h' : Truncates y' em') (hle : y ≤ y') :
    em.rank ≤ em'.rank := by
  have hm : em.mantissa ≤ em'.mantissa := by
    have : (em.mantissa : ℚ) < em'.mantissa + 1 := by linarith [h.lower, h'.upper]
    exact_mod_cast Nat.lt_succ_iff.1 (by exact_mod_cast this)
  unfold rank
  rcases hm.lt_or_eq with hlt | heq
  · -- a smaller mantissa ranks below whatever its bits are
    cases em.roundBit <;> cases em.stickyBit <;> cases em'.roundBit <;> cases em'.stickyBit <;>
      simp <;> omega
  · -- the same mantissa: the bits say where in the unit each value lies
    have hr := h.roundBit
    have hs := h.stickyBit
    have hr' := h'.roundBit
    have hs' := h'.stickyBit
    rw [← heq] at hr' hs'
    have hround : em.roundBit = true → em'.roundBit = true := fun hb =>
      hr'.2 ((hr.1 hb).trans hle)
    have hsticky : em.stickyBit = true → em.roundBit = em'.roundBit → em'.stickyBit = true := by
      intro hb hsame
      obtain ⟨hne, hhalf⟩ := hs.1 hb
      refine hs'.2 ⟨fun hy' => hne ?_, fun hy' => hhalf ?_⟩
      · linarith [h.lower]
      · -- `y'` is exactly half, so `y` reached half as well
        have hy : (em.mantissa : ℚ) + 1 / 2 ≤ y := hr.1 (hsame ▸ hr'.2 hy'.ge)
        linarith
    rw [← heq]
    revert hround hsticky
    cases em.roundBit <;> cases em.stickyBit <;> cases em'.roundBit <;> cases em'.stickyBit <;>
      simp
    all_goals omega

/-- Rounding to nearest, ties to even, grows with the rank. -/
theorem roundedMantissa_le_of_rank_le (h : em.rank ≤ em'.rank) :
    em.roundedMantissa ≤ em'.roundedMantissa := by
  obtain ⟨m, r, s⟩ := em
  obtain ⟨m', r', s'⟩ := em'
  unfold rank at h
  cases r <;> cases s <;> cases r' <;> cases s' <;>
    simp only [roundedMantissa, accuracy, Accuracy.roundToNearestEven, Bool.toNat_true,
      Bool.toNat_false] at h ⊢ <;> omega

/-- The round bit of a remainder `r` over a divisor `d` says whether twice the remainder
reaches the divisor. -/
theorem roundBit_ofFraction (q : Nat) {r d : Nat} (hd : 0 < d) :
    (ofMantissaAndAccuracy q (accuracyOfFraction r d)).roundBit = true ↔ d ≤ 2 * r := by
  unfold accuracyOfFraction
  split
  · next hr => simp [ofMantissaAndAccuracy, hr, hd.ne']
  · rcases hcmp : compare (2 * r) d with _ | _ | _ <;>
      simp only [ofMantissaAndAccuracy, Bool.false_eq_true, false_iff, true_iff, not_le]
    · exact Nat.compare_eq_lt.1 hcmp
    · exact (Nat.compare_eq_eq.1 hcmp).ge
    · exact (Nat.compare_eq_gt.1 hcmp).le

/-- The sticky bit of a remainder `r` over a divisor `d` says whether the remainder is
neither nothing nor half the divisor. -/
theorem stickyBit_ofFraction (q r d : Nat) :
    (ofMantissaAndAccuracy q (accuracyOfFraction r d)).stickyBit = true ↔ r ≠ 0 ∧ 2 * r ≠ d := by
  unfold accuracyOfFraction
  split
  · next hr => simp [ofMantissaAndAccuracy, hr]
  · next hr =>
    rcases hcmp : compare (2 * r) d with _ | _ | _ <;>
      simp only [ofMantissaAndAccuracy, Bool.false_eq_true, false_iff, true_iff, not_not, hr,
        ne_eq, not_false_eq_true, true_and]
    · exact (Nat.compare_eq_lt.1 hcmp).ne
    · exact Nat.compare_eq_eq.1 hcmp
    · exact (Nat.compare_eq_gt.1 hcmp).ne'

/-- A quotient of natural numbers truncates to the whole quotient, with the round and sticky
bits read off how twice the remainder compares with the divisor. -/
theorem truncates_div (n d : Nat) (hd : 0 < d) :
    Truncates ((n : ℚ) / d) (ofMantissaAndAccuracy (n / d) (accuracyOfFraction (n % d) d)) := by
  have hdq : (0 : ℚ) < d := by exact_mod_cast hd
  -- the exact quotient is the whole quotient and the remainder over the divisor
  have hsplit : (n : ℚ) / d = (n / d : ℕ) + (n % d : ℕ) / d := by
    have hn : (n : ℚ) = d * (n / d : ℕ) + (n % d : ℕ) := by
      exact_mod_cast (Nat.div_add_mod n d).symm
    rw [hn, add_div, mul_div_cancel_left₀ _ hdq.ne']
  have hfrac : (0 : ℚ) ≤ (n % d : ℕ) / d := div_nonneg (Nat.cast_nonneg _) hdq.le
  have hfrac_lt : ((n % d : ℕ) : ℚ) / d < 1 := (div_lt_one hdq).2 (by exact_mod_cast Nat.mod_lt n hd)
  have hhalf : (1 : ℚ) / 2 ≤ (n % d : ℕ) / d ↔ d ≤ 2 * (n % d) := by
    rw [le_div_iff₀ hdq]
    constructor <;> intro h
    · have : (d : ℚ) ≤ 2 * (n % d : ℕ) := by linarith
      exact_mod_cast this
    · have : (d : ℚ) ≤ 2 * (n % d : ℕ) := by exact_mod_cast h
      linarith
  have hzero : ((n % d : ℕ) : ℚ) / d = 0 ↔ n % d = 0 := by
    rw [div_eq_zero_iff]
    simp [hdq.ne']
  have hmid : ((n % d : ℕ) : ℚ) / d = 1 / 2 ↔ 2 * (n % d) = d := by
    rw [div_eq_iff hdq.ne']
    constructor <;> intro h
    · have : (2 * (n % d : ℕ) : ℚ) = d := by linarith
      exact_mod_cast this
    · have : (2 * (n % d : ℕ) : ℚ) = d := by exact_mod_cast h
      linarith
  rw [hsplit]
  refine ⟨?_, ?_, ?_, ?_⟩ <;> rw [ofMantissaAndAccuracy_mantissa]
  · linarith
  · linarith
  · rw [add_le_add_iff_left, hhalf]
    exact roundBit_ofFraction _ hd
  · rw [ne_eq, add_eq_left, ne_eq, add_right_inj, hzero, hmid]
    exact stickyBit_ofFraction _ _ _

end ExtendedMantissa

open ExtendedMantissa

/-! ### Rounding in order -/

/-- What rounding leaves of a rounded positive mantissa at an exponent: zero, the mantissa,
or, where rounding carried it to `2 ^ 53`, half of that one exponent up. -/
def roundedAt (r : Nat) (t : Int) : UnpackedFloat :=
  if h : r = 0 then .zero .positive
  else if r < 2 ^ 53 then .finite .positive r t (Nat.pos_of_ne_zero h)
  else .finite .positive (2 ^ 52) (t + 1) (Nat.two_pow_pos 52)

/-- From an exponent at most the target one, rounding shifts the truncation to the target
exponent and rounds its mantissa there. -/
theorem roundWithAccuracy_eq_roundedAt {m : Nat} {e : Int} (a : Accuracy)
    (he : e ≤ Format.binary64.targetExponent (totalExponent m e)) :
    let t := Format.binary64.targetExponent (totalExponent m e)
    let em := ofMantissaAndAccuracy m a >>> (t - e).toNat
    roundWithAccuracy Format.binary64 .positive m e a = roundedAt em.roundedMantissa t ∧
      Fits em.mantissa t := by
  intro t em
  obtain ⟨hexp, -, hfits⟩ := shiftToTargetExponent_fits a he
  have hfirst : shiftToTargetExponent Format.binary64 m e a = (em, t) :=
    Prod.ext rfl hexp
  replace hfits : Fits em.mantissa t := by
    rw [hfirst] at hfits
    exact hfits
  have hbounds := roundedMantissa_bounds em
  refine ⟨?_, hfits⟩
  rw [roundWithAccuracy_of_shift hfirst hfits.least_le (by have := hfits.lt_two_pow; omega)]
  rfl

theorem roundedAt_le_roundedAt {r r' : Nat} {t : Int} (h : r ≤ r') (h' : r' ≤ 2 ^ 53) :
    (roundedAt r t).le (roundedAt r' t) = true := by
  unfold roundedAt
  split_ifs <;> simp [UnpackedFloat.le, UnpackedFloat.compare, isLE_then_compare,
    Nat.isLE_compare, h] <;> omega

/-- Whatever rounds at an exponent is at most `2 ^ 52` one exponent up. -/
theorem roundedAt_le_carry (r : Nat) (t : Int) :
    (roundedAt r t).le (.finite .positive (2 ^ 52) (t + 1) (Nat.two_pow_pos 52)) = true := by
  unfold roundedAt
  split_ifs <;> simp [UnpackedFloat.le, UnpackedFloat.compare, isLE_then_compare]

/-- A mantissa of 53 bits rounded at a higher exponent is at least `2 ^ 52` there. -/
theorem carry_le_roundedAt {r : Nat} {t t' : Int} (h : 2 ^ 52 ≤ r) (h' : r ≤ 2 ^ 53)
    (ht : t + 1 ≤ t') :
    (UnpackedFloat.finite .positive (2 ^ 52) (t + 1) (Nat.two_pow_pos 52)).le
      (roundedAt r t') = true := by
  unfold roundedAt
  split_ifs <;>
    simp only [UnpackedFloat.le, UnpackedFloat.compare, Option.any_some, isLE_then_compare] <;>
    omega

/-! ### Magnitudes -/

/-- A positive mantissa is at least the power of two of its top bit. -/
theorem two_zpow_log2_le {m : Nat} (hm : 0 < m) (e : Int) :
    (2 : ℚ) ^ ((m.log2 : Int) + e) ≤ m * 2 ^ e := by
  rw [zpow_add₀ two_ne_zero, zpow_natCast]
  exact mul_le_mul_of_nonneg_right (by exact_mod_cast Nat.log2_self_le hm.ne')
    (zpow_nonneg zero_le_two e)

/-- The unit above a mantissa is at most the power of two above its top bit. -/
theorem succ_mul_le_two_zpow (m : Nat) (e : Int) :
    ((m : ℚ) + 1) * 2 ^ e ≤ 2 ^ ((m.log2 : Int) + 1 + e) := by
  rw [zpow_add₀ two_ne_zero, show ((m.log2 : Int) + 1) = ((m.log2 + 1 : Nat) : Int) by push_cast; rfl,
    zpow_natCast]
  exact mul_le_mul_of_nonneg_right (by exact_mod_cast Nat.lt_log2_self)
    (zpow_nonneg zero_le_two e)

/-- A value counted in units of `2 ^ e`, shifted right by `k` places, is counted in units of
`2 ^ (e + k)`. -/
theorem div_two_pow_mul_zpow (y : ℚ) {e t : Int} {k : Nat} (hk : t = e + k) :
    y / 2 ^ k * 2 ^ t = y * 2 ^ e := by
  rw [hk, zpow_add₀ two_ne_zero, zpow_natCast]
  field_simp

/-- Rounding to nearest keeps the order of the exact values: two truncations, each from an
exponent at most its target one, round in the order of the values they stand for. -/
theorem roundWithAccuracy_le {m m' : Nat} {e e' : Int} {a a' : Accuracy} {y y' : ℚ}
    (h : Truncates y (ofMantissaAndAccuracy m a))
    (h' : Truncates y' (ofMantissaAndAccuracy m' a'))
    (he : e ≤ Format.binary64.targetExponent (totalExponent m e))
    (he' : e' ≤ Format.binary64.targetExponent (totalExponent m' e'))
    (hle : y * 2 ^ e ≤ y' * 2 ^ e') :
    (roundWithAccuracy Format.binary64 .positive m e a).le
      (roundWithAccuracy Format.binary64 .positive m' e' a') = true := by
  obtain ⟨hround, hfits⟩ := roundWithAccuracy_eq_roundedAt a he
  obtain ⟨hround', hfits'⟩ := roundWithAccuracy_eq_roundedAt a' he'
  rw [hround, hround']
  have htarget := targetExponent_binary64 m e
  have htarget' := targetExponent_binary64 m' e'
  generalize Format.binary64.targetExponent (totalExponent m e) = t at he htarget hfits ⊢
  generalize Format.binary64.targetExponent (totalExponent m' e') = t' at he' htarget' hfits' ⊢
  have hr := roundedMantissa_bounds (ofMantissaAndAccuracy m a >>> (t - e).toNat)
  have hr' := roundedMantissa_bounds (ofMantissaAndAccuracy m' a' >>> (t' - e').toNat)
  have hr53 := hfits.lt_two_pow
  have hr53' := hfits'.lt_two_pow
  rcases lt_trichotomy t t' with hlt | rfl | hgt
  · -- a lower target: at most `2 ^ 52` one exponent up, which the other reaches
    refine UnpackedFloat.le_trans (roundedAt_le_carry _ _) (carry_le_roundedAt ?_ (by omega)
      (by omega))
    exact Nat.le_trans (hfits'.normal_or_least.resolve_right (by omega)) hr'.1
  · -- the same target: the values in its units are in order, and so are their truncations
    have hy : y / 2 ^ (t - e).toNat ≤ y' / 2 ^ (t - e').toNat := by
      have hsame : y / 2 ^ (t - e).toNat * 2 ^ t ≤ y' / 2 ^ (t - e').toNat * 2 ^ t := by
        rw [div_two_pow_mul_zpow y (e := e) (k := (t - e).toNat) (by omega),
          div_two_pow_mul_zpow y' (e := e') (k := (t - e').toNat) (by omega)]
        exact hle
      exact le_of_mul_le_mul_right hsame (zpow_pos two_pos t)
    exact roundedAt_le_roundedAt (roundedMantissa_le_of_rank_le
      ((h.shiftRight _).rank_le (h'.shiftRight _) hy)) (by omega)
  · -- a higher target for the smaller value cannot be: its top bit is above the other's
    exfalso
    have hm : 0 < m := by
      rcases Nat.eq_zero_or_pos m with rfl | hm
      · simp at htarget
        omega
      · exact hm
    have hlo : (2 : ℚ) ^ (t + 52) ≤ y * 2 ^ e := by
      have hmy := h.lower
      rw [ofMantissaAndAccuracy_mantissa] at hmy
      calc (2 : ℚ) ^ (t + 52) = 2 ^ ((m.log2 : Int) + e) := by congr 1; omega
        _ ≤ m * 2 ^ e := two_zpow_log2_le hm e
        _ ≤ y * 2 ^ e := mul_le_mul_of_nonneg_right hmy (zpow_nonneg zero_le_two e)
    have hhi : y' * 2 ^ e' < 2 ^ (t + 52) := by
      have hmy := h'.upper
      rw [ofMantissaAndAccuracy_mantissa] at hmy
      calc y' * 2 ^ e' < ((m' : ℚ) + 1) * 2 ^ e' :=
            mul_lt_mul_of_pos_right hmy (zpow_pos two_pos e')
        _ ≤ 2 ^ ((m'.log2 : Int) + 1 + e') := succ_mul_le_two_zpow m' e'
        _ ≤ 2 ^ (t + 52) := zpow_le_zpow_right₀ one_le_two (by omega)
    linarith

/-! ### Division -/

/-- Division truncates the exact quotient: the mantissa and accuracy it computes stand for a
value that, at the exponent it computes, is `m₁ · 2 ^ e₁ / (m₂ · 2 ^ e₂)`. -/
theorem divCore_truncates (m₁ : Nat) {m₂ : Nat} (hm₂ : 0 < m₂) (e₁ e₂ : Int) :
    ∃ y, Truncates y (ofMantissaAndAccuracy (divCore Format.binary64 m₁ e₁ m₂ e₂).1
        (divCore Format.binary64 m₁ e₁ m₂ e₂).2.2) ∧
      y * 2 ^ (divCore Format.binary64 m₁ e₁ m₂ e₂).2.1 = m₁ * 2 ^ e₁ / (m₂ * 2 ^ e₂) := by
  simp only [divCore, Nat.shiftLeft_eq]
  generalize ht : min (e₁ - e₂) (Format.binary64.targetExponent
    (totalExponent m₁ e₁ - totalExponent m₂ e₂)) = t
  have hte : t ≤ e₁ - e₂ := ht ▸ min_le_left _ _
  refine ⟨((m₁ * 2 ^ (e₁ - e₂ - t).toNat : ℕ) : ℚ) / m₂, truncates_div _ _ hm₂, ?_⟩
  -- the shift and the exponent together make up the difference of the exponents
  have hsplit : e₁ = e₂ + ((e₁ - e₂ - t).toNat : Int) + t := by omega
  have hm₂q : (m₂ : ℚ) ≠ 0 := by exact_mod_cast hm₂.ne'
  conv_rhs => rw [hsplit]
  rw [zpow_add₀ two_ne_zero, zpow_add₀ two_ne_zero, zpow_natCast]
  push_cast
  field_simp

/-- Division computes its quotient at an exponent at most the one rounding targets: the
exponent either is the least one or leaves at least 53 bits in the quotient. -/
theorem divCore_exponent_le {m₁ m₂ : Nat} (hm₁ : 0 < m₁) (hm₂ : 0 < m₂) (e₁ e₂ : Int) :
    (divCore Format.binary64 m₁ e₁ m₂ e₂).2.1 ≤ Format.binary64.targetExponent
      (totalExponent (divCore Format.binary64 m₁ e₁ m₂ e₂).1
        (divCore Format.binary64 m₁ e₁ m₂ e₂).2.1) := by
  simp only [divCore, Nat.shiftLeft_eq]
  generalize ht : min (e₁ - e₂) (Format.binary64.targetExponent
    (totalExponent m₁ e₁ - totalExponent m₂ e₂)) = t
  have hdiff : Format.binary64.targetExponent (totalExponent m₁ e₁ - totalExponent m₂ e₂) =
      max ((m₁.log2 : Int) + 1 + e₁ - (m₂.log2 + 1 + e₂) - 53) (-1074) := by
    simp only [Format.targetExponent, totalExponent, Format.mantissaBits, Format.minExponent]
    omega
  rw [targetExponent_binary64]
  by_cases hleast : t ≤ -1074
  · omega
  -- off the least exponent the shift is long enough for 53 bits
  have hk : (m₂.log2 + 53 : Nat) ≤ m₁.log2 + (e₁ - e₂ - t).toNat := by omega
  have hq : 2 ^ 52 ≤ m₁ * 2 ^ (e₁ - e₂ - t).toNat / m₂ := by
    rw [Nat.le_div_iff_mul_le hm₂]
    calc 2 ^ 52 * m₂ ≤ 2 ^ 52 * 2 ^ (m₂.log2 + 1) :=
          Nat.mul_le_mul_left _ Nat.lt_log2_self.le
      _ = 2 ^ (m₂.log2 + 53) := by rw [← Nat.pow_add]; congr 1; omega
      _ ≤ 2 ^ (m₁.log2 + (e₁ - e₂ - t).toNat) := Nat.pow_le_pow_right (by decide) hk
      _ = 2 ^ m₁.log2 * 2 ^ (e₁ - e₂ - t).toNat := Nat.pow_add ..
      _ ≤ m₁ * 2 ^ (e₁ - e₂ - t).toNat :=
          Nat.mul_le_mul_right _ (Nat.log2_self_le hm₁.ne')
  have hlog := (Nat.le_log2 (by omega)).2 hq
  omega

/-- Numbers binary64 keeps are ordered by their exponents and then their mantissas as their
exact values are. -/
theorem value_le_of_fits {m m' : Nat} {e e' : Int} (hfits : Fits m e) (hfits' : Fits m' e')
    (hle : e < e' ∨ e = e' ∧ m ≤ m') : (m : ℚ) * 2 ^ e ≤ m' * 2 ^ e' := by
  rcases hle with hlt | ⟨rfl, hm⟩
  · -- a higher exponent carries a full 53-bit mantissa, above all of the lower binade
    have hnormal : 2 ^ 52 ≤ m' := hfits'.normal_or_least.resolve_right (by
      have := hfits.least_le
      omega)
    calc (m : ℚ) * 2 ^ e ≤ 2 ^ 53 * 2 ^ e := by
          refine mul_le_mul_of_nonneg_right ?_ (zpow_nonneg zero_le_two e)
          exact_mod_cast hfits.lt_two_pow.le
      _ = 2 ^ 52 * 2 ^ (e + 1) := by rw [zpow_add_one₀ two_ne_zero]; ring
      _ ≤ 2 ^ 52 * 2 ^ e' := by
          refine mul_le_mul_of_nonneg_left (zpow_le_zpow_right₀ one_le_two (by omega)) ?_
          positivity
      _ ≤ m' * 2 ^ e' := by
          refine mul_le_mul_of_nonneg_right ?_ (zpow_nonneg zero_le_two e')
          exact_mod_cast hnormal
  · exact mul_le_mul_of_nonneg_right (by exact_mod_cast hm) (zpow_nonneg zero_le_two e)

/-- Dividing a positive finite number by the larger of two positive finite numbers binary64
keeps gives the smaller quotient, before packing. -/
theorem div_finite_le {m₁ m₂ m₃ : Nat} {e₁ e₂ e₃ : Int} (h₁ : 0 < m₁) (h₂ : 0 < m₂)
    (h₃ : 0 < m₃) (hfits₂ : Fits m₂ e₂) (hfits₃ : Fits m₃ e₃)
    (hle : e₃ < e₂ ∨ e₃ = e₂ ∧ m₃ ≤ m₂) :
    (div Format.binary64 (.finite .positive m₁ e₁ h₁) (.finite .positive m₂ e₂ h₂)).le
      (div Format.binary64 (.finite .positive m₁ e₁ h₁) (.finite .positive m₃ e₃ h₃)) = true := by
  obtain ⟨y, hy, hyv⟩ := divCore_truncates m₁ h₂ e₁ e₂
  obtain ⟨y', hy', hyv'⟩ := divCore_truncates m₁ h₃ e₁ e₃
  refine roundWithAccuracy_le hy hy' (divCore_exponent_le h₁ h₂ e₁ e₂)
    (divCore_exponent_le h₁ h₃ e₁ e₃) ?_
  -- the exact quotients are in order: same numerator, the larger denominator
  show y * 2 ^ (divCore Format.binary64 m₁ e₁ m₂ e₂).2.1 ≤
    y' * 2 ^ (divCore Format.binary64 m₁ e₁ m₃ e₃).2.1
  rw [hyv, hyv']
  have hden : (0 : ℚ) < m₃ * 2 ^ e₃ := mul_pos (by exact_mod_cast h₃) (zpow_pos two_pos e₃)
  exact div_le_div_of_nonneg_left (mul_nonneg (Nat.cast_nonneg _) (zpow_nonneg zero_le_two e₁))
    hden (value_le_of_fits hfits₃ hfits₂ hle)

/-! ### Packing -/

/-- A zero or a positive finite number in the form binary64 keeps: what rounding leaves of a
positive quotient, before packing. -/
def KeptPositive (u : UnpackedFloat) : Prop :=
  u = .zero .positive ∨ ∃ m e h, u = .finite .positive m e h ∧ Fits m e

theorem keptPositive_roundedAt {mant r : Nat} {t : Int} (hfits : Fits mant t)
    (hlo : mant ≤ r) : KeptPositive (roundedAt r t) := by
  unfold roundedAt
  split_ifs with hzero hlt
  · exact .inl rfl
  · exact .inr ⟨r, t, _, rfl, hlt, hfits.normal_or_least.imp_left (·.trans hlo), hfits.least_le⟩
  · -- the rounding carried to `2 ^ 53`
    have := hfits.least_le
    exact .inr ⟨2 ^ 52, t + 1, _, rfl, by decide, .inl le_rfl, by omega⟩

/-- Two positive finite numbers divide to the rounding of their truncated quotient. -/
theorem div_finite_positive {m₁ m₂ : Nat} {e₁ e₂ : Int} (h₁ : 0 < m₁) (h₂ : 0 < m₂) :
    div Format.binary64 (.finite .positive m₁ e₁ h₁) (.finite .positive m₂ e₂ h₂) =
      roundWithAccuracy Format.binary64 .positive (divCore Format.binary64 m₁ e₁ m₂ e₂).1
        (divCore Format.binary64 m₁ e₁ m₂ e₂).2.1 (divCore Format.binary64 m₁ e₁ m₂ e₂).2.2 :=
  rfl

theorem keptPositive_div_finite {m₁ m₂ : Nat} {e₁ e₂ : Int} (h₁ : 0 < m₁) (h₂ : 0 < m₂) :
    KeptPositive (div Format.binary64 (.finite .positive m₁ e₁ h₁) (.finite .positive m₂ e₂ h₂)) := by
  obtain ⟨hround, hfits⟩ := roundWithAccuracy_eq_roundedAt (divCore Format.binary64 m₁ e₁ m₂ e₂).2.2
    (divCore_exponent_le h₁ h₂ e₁ e₂)
  rw [div_finite_positive, hround]
  exact keptPositive_roundedAt hfits (roundedMantissa_bounds _).1

theorem zero_le_of_keptPositive {u : UnpackedFloat} (hu : KeptPositive u) :
    (zero .positive).le u = true := by
  rcases hu with rfl | ⟨m, e, h, rfl, -⟩ <;> simp [UnpackedFloat.le, UnpackedFloat.compare]

/-- Nothing but NaN is above positive infinity. -/
theorem le_infinity {u : UnpackedFloat} (hu : u.isNaN = false) :
    u.le (.infinity .positive) = true := by
  rcases u with ⟨_ | _⟩ | _ | ⟨_ | _⟩ | ⟨_ | _, m, e, _⟩ <;>
    simp_all [UnpackedFloat.le, UnpackedFloat.compare, isNaN] <;> rfl

/-- Packing keeps the order of zeros and positive finite numbers: those too large become
positive infinity, above all the rest. -/
theorem unpack_pack_le_of_keptPositive {u u' : UnpackedFloat} (hu : KeptPositive u)
    (hu' : KeptPositive u') (hle : u.le u' = true) :
    (unpack Format.binary64 (pack Format.binary64 u)).le
      (unpack Format.binary64 (pack Format.binary64 u')) = true := by
  rcases hu' with rfl | ⟨m', e', h', rfl, hfits'⟩
  · -- only a zero is at most a zero
    rcases hu with rfl | ⟨m, e, h, rfl, -⟩
    · simp [UnpackedFloat.le, UnpackedFloat.compare]
    · simp [UnpackedFloat.le, UnpackedFloat.compare] at hle
  by_cases hover : e' ≤ 971
  · rw [unpack_pack_finite h' hfits' hover]
    rcases hu with rfl | ⟨m, e, h, rfl, hfits⟩
    · simpa using hle
    · have he : e ≤ e' := by
        rcases (finite_positive_le h h').1 hle with hlt | ⟨rfl, -⟩ <;> omega
      rwa [unpack_pack_finite h hfits (by omega)]
  · rw [unpack_pack_finite_of_overflow h' (by omega)]
    refine le_infinity ?_
    rcases hu with rfl | ⟨m, e, h, rfl, hfits⟩
    · simp [isNaN]
    · by_cases hover' : e ≤ 971
      · rw [unpack_pack_finite h hfits hover']
        rfl
      · rw [unpack_pack_finite_of_overflow h (by omega)]
        rfl

/-! ### Dividing by a larger number -/

/-- What is above zero: positive infinity or a positive finite number. -/
theorem zero_lt_iff {a : UnpackedFloat} :
    (zero .positive).lt a = true ↔
      a = .infinity .positive ∨ ∃ m e h, a = .finite .positive m e h := by
  rcases a with ⟨_ | _⟩ | _ | ⟨_ | _⟩ | ⟨_ | _, m, e, hm⟩
  all_goals simp [UnpackedFloat.lt, UnpackedFloat.compare]
  -- a positive finite number is above zero
  exact hm

/-- Dividing a number not below zero by the larger of two positive numbers, the larger one
finite, gives at most the quotient by the smaller one, in binary64. -/
theorem unpack_pack_div_le {a b c : BitVec Format.binary64.numBits}
    (ha : (zero .positive).le (unpack Format.binary64 a) = true)
    (hc : (zero .positive).lt (unpack Format.binary64 c) = true)
    (hcb : (unpack Format.binary64 c).le (unpack Format.binary64 b) = true)
    (hb : (unpack Format.binary64 b).isFinite = true) :
    (unpack Format.binary64 (pack Format.binary64
      (div Format.binary64 (unpack Format.binary64 a) (unpack Format.binary64 b)))).le
    (unpack Format.binary64 (pack Format.binary64
      (div Format.binary64 (unpack Format.binary64 a) (unpack Format.binary64 c)))) = true := by
  have hfitsb : ∀ {s m e h}, unpack Format.binary64 b = .finite s m e h → Fits m e :=
    fun h => (fits_of_unpack h).1
  have hfitsc : ∀ {s m e h}, unpack Format.binary64 c = .finite s m e h → Fits m e :=
    fun h => (fits_of_unpack h).1
  generalize unpack Format.binary64 a = x at ha ⊢
  generalize unpack Format.binary64 b = y at hcb hb hfitsb ⊢
  generalize unpack Format.binary64 c = z at hc hcb hfitsc ⊢
  -- both divisors are positive finite numbers: `z` is positive and at most the finite `y`
  obtain ⟨m₃, e₃, h₃, rfl⟩ : ∃ m e h, z = .finite .positive m e h := by
    rcases zero_lt_iff.1 hc with rfl | hz
    · rcases y with ⟨_ | _⟩ | _ | ⟨_ | _⟩ | ⟨_ | _, m, e, _⟩ <;>
        simp_all [UnpackedFloat.le, UnpackedFloat.compare, isFinite]
    · exact hz
  obtain ⟨m₂, e₂, h₂, rfl⟩ : ∃ m e h, y = .finite .positive m e h := by
    rcases y with ⟨_ | _⟩ | _ | ⟨_ | _⟩ | ⟨_ | _, m, e, _⟩ <;>
      simp_all [UnpackedFloat.le, UnpackedFloat.compare, isFinite]
  have hle := (finite_positive_le h₃ h₂).1 hcb
  rcases zero_le_iff.1 ha with rfl | ⟨s, rfl⟩ | ⟨m₁, e₁, h₁, rfl⟩
  · -- positive infinity over positive finite numbers stays positive infinity
    simp [div, UnpackedFloat.le, UnpackedFloat.compare]
    rfl
  · -- a zero over positive finite numbers stays that zero
    cases s <;> simp [div, UnpackedFloat.le, UnpackedFloat.compare]
  · exact unpack_pack_le_of_keptPositive (keptPositive_div_finite h₁ h₂)
      (keptPositive_div_finite h₁ h₃)
      (div_finite_le h₁ h₂ h₃ (hfitsb rfl) (hfitsc rfl) hle)

/-- Dividing a number not below zero by a positive finite number gives a number not below
zero, in binary64. -/
theorem zero_le_unpack_pack_div {a b : BitVec Format.binary64.numBits}
    (ha : (zero .positive).le (unpack Format.binary64 a) = true)
    (hb : (zero .positive).lt (unpack Format.binary64 b) = true)
    (hfinite : (unpack Format.binary64 b).isFinite = true) :
    (zero .positive).le (unpack Format.binary64 (pack Format.binary64
      (div Format.binary64 (unpack Format.binary64 a) (unpack Format.binary64 b)))) = true := by
  generalize unpack Format.binary64 a = x at ha ⊢
  generalize unpack Format.binary64 b = y at hb hfinite ⊢
  obtain ⟨m₂, e₂, h₂, rfl⟩ : ∃ m e h, y = .finite .positive m e h := by
    rcases zero_lt_iff.1 hb with rfl | hy
    · simp [isFinite] at hfinite
    · exact hy
  rcases zero_le_iff.1 ha with rfl | ⟨s, rfl⟩ | ⟨m₁, e₁, h₁, rfl⟩
  · simp [div, UnpackedFloat.le, UnpackedFloat.compare]
    rfl
  · cases s <;> simp [div, UnpackedFloat.le, UnpackedFloat.compare]
  · -- a positive quotient packs to a zero, a positive finite number or positive infinity
    have hkept := @keptPositive_div_finite m₁ m₂ e₁ e₂ h₁ h₂
    have hle := unpack_pack_le_of_keptPositive (.inl rfl) hkept (zero_le_of_keptPositive hkept)
    rwa [unpack_pack_zero] at hle

end Float.Model.UnpackedFloat

namespace Float

theorem le_of_lt {a b : Float} (h : a < b) : a ≤ b := by
  rw [lt_iff_unpack] at h
  rw [le_iff_unpack]
  simp only [Model.UnpackedFloat.lt, beq_iff_eq] at h
  simp [Model.UnpackedFloat.le, h]

/-- A number not below zero over a positive finite number is not below zero. -/
theorem div_nonneg {a b : Float} (ha : 0 ≤ a) (hb : 0 < b) (hfinite : b.isFinite = true) :
    0 ≤ a / b := by
  rw [le_iff_unpack, toModel_unpack_zero] at ha ⊢
  rw [lt_iff_unpack, toModel_unpack_zero] at hb
  exact Model.UnpackedFloat.zero_le_unpack_pack_div ha hb hfinite

/-- Dividing a number not below zero by a larger finite number never gives a larger
quotient. -/
theorem div_le_div_left {a b c : Float} (ha : 0 ≤ a) (hc : 0 < c) (hcb : c ≤ b)
    (hb : b.isFinite = true) : a / b ≤ a / c := by
  rw [le_iff_unpack, toModel_unpack_zero] at ha
  rw [lt_iff_unpack, toModel_unpack_zero] at hc
  exact le_iff_unpack.2 (Model.UnpackedFloat.unpack_pack_div_le ha hc (le_iff_unpack.1 hcb) hb)

end Float
