/-
RentalRouting/Proofs/FloatOrder.lean

Adding a number that is not below zero never lowers a binary64 number that is not below
zero, NaN and the infinities included:

    0 ≤ a → 0 ≤ b → a ≤ a + b          (`Float.le_add_of_nonneg`)

and the order of floats that are not NaN is transitive (`Float.le_trans`).  Both are proved
from the logical model of floats.  Comparison is the order of a key (`UnpackedFloat.key`):
the kind of number, then exponent and mantissa, reversed for negative numbers.  A positive
finite sum is the exact sum at the smaller exponent, rounded; rounding shifts the mantissa
right to the target exponent and only ever moves the truncated mantissa up, so the rounded
sum is at least every number binary64 keeps below the exact one (`round_of_le`).  Packing
and unpacking keep a number in the form binary64 keeps (`Fits`), and a number too large
packs to an infinity.
-/
import RentalRouting.Proofs.Float

namespace Float.Model.UnpackedFloat

/-- Where binary64 keeps a finite number of this mantissa and exponent: below `2 ^ 53`, with
`53` bits unless the exponent is the least one, and no exponent below it. -/
structure Fits (m : Nat) (e : Int) : Prop where
  lt_two_pow : m < 2 ^ 53
  normal_or_least : 2 ^ 52 ≤ m ∨ e = -1074
  least_le : -1074 ≤ e

/-! ### Rounding -/

theorem shiftRight_mantissa (em : ExtendedMantissa) (k : Nat) :
    (em >>> k).mantissa = em.mantissa / 2 ^ k := by
  induction k with
  | zero => simp [HShiftRight.hShiftRight, Nat.repeat]
  | succ k ih =>
    change (em >>> k).mantissa / 2 = _
    rw [ih, Nat.div_div_eq_div_mul, Nat.pow_succ]

theorem ofMantissaAndAccuracy_mantissa (m : Nat) (a : Accuracy) :
    (ExtendedMantissa.ofMantissaAndAccuracy m a).mantissa = m := by
  cases a with
  | exact => rfl
  | inexact o => cases o <;> rfl

theorem roundedMantissa_bounds (em : ExtendedMantissa) :
    em.mantissa ≤ em.roundedMantissa ∧ em.roundedMantissa ≤ em.mantissa + 1 := by
  obtain ⟨m, _ | _, _ | _⟩ := em <;>
    simp [ExtendedMantissa.roundedMantissa, ExtendedMantissa.accuracy, Accuracy.roundToNearestEven]
  omega

theorem targetExponent_binary64 (m : Nat) (e : Int) :
    Format.binary64.targetExponent (totalExponent m e) = max (m.log2 + e - 52) (-1074) := by
  simp only [Format.targetExponent, totalExponent, Format.mantissaBits, Format.minExponent]
  omega

theorem shiftToTargetExponent_mantissa (m : Nat) (e : Int) (a : Accuracy) :
    (shiftToTargetExponent Format.binary64 m e a).1.mantissa =
      m / 2 ^ (Format.binary64.targetExponent (totalExponent m e) - e).toNat := by
  simp only [shiftToTargetExponent, shiftToExponent, shiftRight_mantissa,
    ofMantissaAndAccuracy_mantissa]

theorem shiftToTargetExponent_exponent (m : Nat) (e : Int) (a : Accuracy) :
    (shiftToTargetExponent Format.binary64 m e a).2 =
      e + (Format.binary64.targetExponent (totalExponent m e) - e).toNat := rfl

/-- A mantissa of at most 53 bits at an exponent no lower than the least stays where it is. -/
theorem shiftToTargetExponent_of_lt {m : Nat} {e : Int} (hm : m < 2 ^ 53) (he : -1074 ≤ e) :
    (shiftToTargetExponent Format.binary64 m e .exact).1.mantissa = m ∧
      (shiftToTargetExponent Format.binary64 m e .exact).2 = e := by
  have hlog : m.log2 ≤ 52 := by
    rcases Nat.eq_zero_or_pos m with rfl | hpos
    · simp
    · exact Nat.lt_succ_iff.1 ((Nat.log2_lt hpos.ne').2 hm)
  have hk : (Format.binary64.targetExponent (totalExponent m e) - e).toNat = 0 := by
    rw [targetExponent_binary64]
    omega
  refine ⟨?_, ?_⟩
  · rw [shiftToTargetExponent_mantissa, hk]
    simp
  · rw [shiftToTargetExponent_exponent, hk]
    simp

/-- A mantissa that rounding carried to `2 ^ 53` halves, one exponent up. -/
theorem shiftToTargetExponent_two_pow {e : Int} (he : -1074 ≤ e) :
    (shiftToTargetExponent Format.binary64 (2 ^ 53) e .exact).1.mantissa = 2 ^ 52 ∧
      (shiftToTargetExponent Format.binary64 (2 ^ 53) e .exact).2 = e + 1 := by
  have hk : (Format.binary64.targetExponent (totalExponent (2 ^ 53) e) - e).toNat = 1 := by
    rw [targetExponent_binary64, Nat.log2_two_pow]
    omega
  refine ⟨?_, ?_⟩
  · rw [shiftToTargetExponent_mantissa, hk]
    norm_num
  · rw [shiftToTargetExponent_exponent, hk]
    simp

/-- After the first shift, rounding gives zero, the rounded mantissa at the shifted exponent,
or, where the rounding carried to `2 ^ 53`, half of that one exponent up. -/
theorem roundWithAccuracy_of_shift {s : Sign} {m : Nat} {e : Int} {a : Accuracy}
    {em : ExtendedMantissa} {t : Int}
    (hfirst : shiftToTargetExponent Format.binary64 m e a = (em, t))
    (ht : -1074 ≤ t) (hr : em.roundedMantissa ≤ 2 ^ 53) :
    roundWithAccuracy Format.binary64 s m e a =
      if h : em.roundedMantissa = 0 then .zero s
      else if em.roundedMantissa < 2 ^ 53 then .finite s em.roundedMantissa t (Nat.pos_of_ne_zero h)
      else .finite s (2 ^ 52) (t + 1) (Nat.two_pow_pos 52) := by
  rw [roundWithAccuracy, hfirst]
  dsimp only
  by_cases hlt : em.roundedMantissa < 2 ^ 53
  · obtain ⟨hm, he⟩ := shiftToTargetExponent_of_lt hlt ht
    generalize shiftToTargetExponent Format.binary64 em.roundedMantissa t .exact = second at hm he
    obtain ⟨em', t'⟩ := second
    dsimp only at hm he ⊢
    subst he
    by_cases hz : em.roundedMantissa = 0
    · simp [hm, hz]
    · simp only [hm, hz, hlt, dite_false, if_true]
  · have heq : em.roundedMantissa = 2 ^ 53 := by omega
    obtain ⟨hm, he⟩ := shiftToTargetExponent_two_pow ht
    rw [← heq] at hm he
    generalize shiftToTargetExponent Format.binary64 em.roundedMantissa t .exact = second at hm he
    obtain ⟨em', t'⟩ := second
    dsimp only at hm he ⊢
    subst he
    simp [hm, heq]

/-- The first shift of a rounding from an exponent at most the target one lands on the
target exponent, with the mantissa truncated to fit. -/
theorem shiftToTargetExponent_fits {m : Nat} {e : Int} (a : Accuracy)
    (he : e ≤ Format.binary64.targetExponent (totalExponent m e)) :
    let t := Format.binary64.targetExponent (totalExponent m e)
    let first := shiftToTargetExponent Format.binary64 m e a
    first.2 = t ∧ first.1.mantissa = m / 2 ^ (t - e).toNat ∧
      Fits first.1.mantissa t := by
  intro t first
  have ht : t = max (m.log2 + e - 52) (-1074) := targetExponent_binary64 m e
  have hq : first.1.mantissa = m / 2 ^ (t - e).toNat := shiftToTargetExponent_mantissa m e a
  have hexp : first.2 = t := (shiftToTargetExponent_exponent m e a).trans (by omega)
  refine ⟨hexp, hq, ⟨?_, ?_, by omega⟩⟩
  · rw [hq, Nat.div_lt_iff_lt_mul (Nat.two_pow_pos _), ← Nat.pow_add]
    exact lt_of_lt_of_le Nat.lt_log2_self (Nat.pow_le_pow_right (by decide) (by omega))
  · -- off the least exponent, the shift leaves exactly the top 53 bits
    by_cases hleast : t = -1074
    · exact .inr hleast
    · left
      have hm : m ≠ 0 := by
        rintro rfl
        simp at ht
        omega
      rw [hq, Nat.le_div_iff_mul_le (Nat.two_pow_pos _), ← Nat.pow_add]
      exact le_trans (Nat.pow_le_pow_right (by decide) (by omega)) (Nat.log2_self_le hm)

/-- Rounding a mantissa from an exponent at most the target one gives zero, or a finite
number binary64 keeps that is at least the truncated mantissa at the target exponent. -/
theorem roundWithAccuracy_fits (s : Sign) {m : Nat} {e : Int}
    (he : e ≤ Format.binary64.targetExponent (totalExponent m e)) :
    let t := Format.binary64.targetExponent (totalExponent m e)
    (m / 2 ^ (t - e).toNat = 0 ∧ roundWithAccuracy Format.binary64 s m e .exact = .zero s) ∨
      ∃ m' e' h, roundWithAccuracy Format.binary64 s m e .exact = .finite s m' e' h ∧
        Fits m' e' ∧ (t < e' ∨ t = e' ∧ m / 2 ^ (t - e).toNat ≤ m') := by
  intro t
  obtain ⟨hexp, hq, hfits⟩ := shiftToTargetExponent_fits .exact he
  generalize hfirst : shiftToTargetExponent Format.binary64 m e .exact = first at hexp hq hfits
  obtain ⟨em, t'⟩ := first
  dsimp only at hexp hq hfits
  subst hexp
  have hbounds := roundedMantissa_bounds em
  rw [roundWithAccuracy_of_shift hfirst hfits.least_le (by have := hfits.lt_two_pow; omega)]
  by_cases hz : em.roundedMantissa = 0
  · refine .inl ⟨?_, by simp [hz]⟩
    show m / 2 ^ (Format.binary64.targetExponent (totalExponent m e) - e).toNat = 0
    omega
  · right
    by_cases hlt : em.roundedMantissa < 2 ^ 53
    · refine ⟨em.roundedMantissa, t, Nat.pos_of_ne_zero hz, by rw [dif_neg hz, if_pos hlt],
        ⟨hlt, ?_, hfits.least_le⟩, .inr ⟨rfl, hq ▸ hbounds.1⟩⟩
      exact hfits.normal_or_least.imp_left fun h => le_trans h hbounds.1
    · -- the rounding carried to `2 ^ 53`
      refine ⟨2 ^ 52, t + 1, Nat.two_pow_pos 52, by rw [dif_neg hz, if_neg hlt],
        ⟨by decide, .inl le_rfl, ?_⟩, .inl (by omega)⟩
      have := hfits.least_le
      omega

/-- Rounding never goes below a number binary64 keeps: if `m₁ · 2 ^ e₁` is at most
`m · 2 ^ e`, then `m · 2 ^ e` rounds to a finite number binary64 keeps whose exponent is
above `e₁`, or equal to it with a mantissa at least `m₁`. -/
theorem round_of_le {s : Sign} {m₁ : Nat} {e₁ : Int} (hfits : Fits m₁ e₁) (hm₁ : 0 < m₁)
    {m : Nat} {e : Int} (he : e ≤ e₁) (hm : m₁ * 2 ^ (e₁ - e).toNat ≤ m) :
    ∃ m' e' h, round Format.binary64 s m e = .finite s m' e' h ∧ Fits m' e' ∧
      (e₁ < e' ∨ e₁ = e' ∧ m₁ ≤ m') := by
  have htarget := targetExponent_binary64 m e
  have hshift : 2 ^ (e₁ - e).toNat ≤ m := le_trans (Nat.le_mul_of_pos_left _ hm₁) hm
  have hm0 : m ≠ 0 := Nat.pos_iff_ne_zero.1 (lt_of_lt_of_le (Nat.two_pow_pos _) hshift)
  -- the target exponent of `m · 2 ^ e` is at least `e₁`
  have ht : e₁ ≤ Format.binary64.targetExponent (totalExponent m e) := by
    rcases hfits.normal_or_least with hnormal | hleast
    · have hlog : 52 + (e₁ - e).toNat ≤ m.log2 := by
        refine (Nat.le_log2 hm0).2 ?_
        calc 2 ^ (52 + (e₁ - e).toNat) = 2 ^ 52 * 2 ^ (e₁ - e).toNat := Nat.pow_add ..
          _ ≤ m₁ * 2 ^ (e₁ - e).toNat := Nat.mul_le_mul_right _ hnormal
          _ ≤ m := hm
      omega
    · omega
  -- so rounding shifts nothing left
  have hround : round Format.binary64 s m e = roundWithAccuracy Format.binary64 s m e .exact := by
    have hk : (e - Format.binary64.targetExponent (totalExponent m e)).toNat = 0 := by omega
    simp [round, decreaseExponent, hk]
  -- and the mantissa truncated at the target exponent is not zero
  have hq : 0 < m / 2 ^ (Format.binary64.targetExponent (totalExponent m e) - e).toNat := by
    refine Nat.div_pos ?_ (Nat.two_pow_pos _)
    by_cases hnormal : (-1074 : Int) ≤ m.log2 + e - 52
    · exact le_trans (Nat.pow_le_pow_right (by decide) (by omega)) (Nat.log2_self_le hm0)
    · rwa [show (Format.binary64.targetExponent (totalExponent m e) - e).toNat = (e₁ - e).toNat by
        have := hfits.least_le
        omega]
  rcases roundWithAccuracy_fits s (le_trans he ht) with
    ⟨hzero, -⟩ | ⟨m', e', hm', heq, hfits', hcmp⟩
  · omega
  refine ⟨m', e', hm', hround.trans heq, hfits', ?_⟩
  rcases hcmp with hlt | ⟨rfl, hle⟩
  · exact .inl (lt_of_le_of_lt ht hlt)
  rcases ht.lt_or_eq with hlt | heq'
  · exact .inl hlt
  -- at the same exponent the truncated mantissa is already at least `m₁`
  refine .inr ⟨heq', le_trans ?_ hle⟩
  rw [← heq']
  exact (Nat.le_div_iff_mul_le (Nat.two_pow_pos _)).2 hm

/-! ### Packing -/

@[simp] theorem unpack_pack_zero (s : Sign) :
    unpack Format.binary64 (pack Format.binary64 (.zero s)) = .zero s := by
  simp [pack, packedZero, unpack]

@[simp] theorem unpack_pack_infinity (s : Sign) :
    unpack Format.binary64 (pack Format.binary64 (.infinity s)) = .infinity s := by
  simp [pack, packedInfinity, unpack]

@[simp] theorem unpack_pack_notANumber :
    unpack Format.binary64 (pack Format.binary64 .notANumber) = .notANumber := by
  simp [pack, packedNaN, unpack]

theorem exponentBias_binary64 : Format.binary64.exponentBias = 1023 := rfl

theorem mantissaBits_binary64 : Format.binary64.mantissaBits = 53 := rfl

/-- A normal number's mantissa: the implicit bit above the stored ones. -/
theorem toNat_one_append (m : BitVec 52) : (1#1 ++ m).toNat = 2 ^ 52 + m.toNat := by
  rw [BitVec.toNat_append, ← Nat.shiftLeft_add_eq_or_of_lt m.isLt]
  simp [Nat.shiftLeft_eq]

/-- A finite number whose exponent is too large for binary64 packs to an infinity. -/
theorem unpack_pack_finite_of_overflow {s : Sign} {m : Nat} {e : Int} (hm : 0 < m)
    (he : 972 ≤ e) :
    unpack Format.binary64 (pack Format.binary64 (.finite s m e hm)) = .infinity s := by
  have hover : 2 ^ 11 ≤ (e + Format.binary64.exponentBias + (52 : Nat)).toNat + 1 := by
    rw [exponentBias_binary64]
    omega
  simp only [pack]
  rw [if_pos hover]
  simp [packedInfinity, unpack]

/-- A finite number in the form binary64 keeps, with an exponent small enough, packs and
unpacks to itself. -/
theorem unpack_pack_finite {s : Sign} {m : Nat} {e : Int} (hm : 0 < m) (hfits : Fits m e)
    (he : e ≤ 971) :
    unpack Format.binary64 (pack Format.binary64 (.finite s m e hm)) = .finite s m e hm := by
  have hover : ¬ 2 ^ 11 ≤ (e + Format.binary64.exponentBias + (52 : Nat)).toNat + 1 := by
    rw [exponentBias_binary64]
    omega
  simp only [pack]
  rw [if_neg hover, mantissaBits_binary64]
  by_cases hnormal : 2 ^ 52 ≤ m
  · -- a normal number: the biased exponent is neither zero nor all ones
    have hlog : m.log2 + 1 = 53 := by
      have := (Nat.le_log2 hm.ne').2 hnormal
      have := (Nat.log2_lt hm.ne').2 hfits.lt_two_pow
      omega
    rw [if_pos hlog]
    have hb : ((e + Format.binary64.exponentBias + (52 : Nat)).toNat : Int) = e + 1075 := by
      rw [exponentBias_binary64]
      have := hfits.least_le
      omega
    generalize (e + Format.binary64.exponentBias + (52 : Nat)).toNat = b at hb
    have hbits : (BitVec.ofNat 11 b).toNat = b := by
      rw [BitVec.toNat_ofNat, Nat.mod_eq_of_lt (by omega)]
    have hne_ones : BitVec.ofNat 11 b ≠ -1#11 := fun h => by
      have := congrArg BitVec.toNat h
      rw [hbits] at this
      simp at this
      omega
    have hne_zero : BitVec.ofNat 11 b ≠ 0#11 := fun h => by
      have := congrArg BitVec.toNat h
      rw [hbits, BitVec.toNat_zero] at this
      have := hfits.least_le
      omega
    have hmant : (1#1 ++ BitVec.ofNat 52 m).toNat = m := by
      rw [toNat_one_append, BitVec.toNat_ofNat]
      have := hfits.lt_two_pow
      omega
    simp only [unpack, unpackExponent_packComponents, unpackMantissa_packComponents,
      unpackSign_packComponents, Sign.ofBitVec_toBitVec, if_neg hne_ones, if_neg hne_zero, hmant,
      hbits]
    congr 1
    rw [exponentBias_binary64]
    omega
  · -- a subnormal number: a zero exponent field, and the mantissa as it is
    have hleast : e = -1074 := hfits.normal_or_least.resolve_left hnormal
    have hlog : m.log2 + 1 ≠ 53 := by
      have := (Nat.log2_lt hm.ne').2 (Nat.lt_of_not_le hnormal)
      omega
    rw [if_neg hlog]
    have hbits : (BitVec.ofNat 52 m).toNat = m := by
      rw [BitVec.toNat_ofNat, Nat.mod_eq_of_lt (by omega)]
    have hne_zero : BitVec.ofNat 52 m ≠ 0#52 := fun h => by
      have := congrArg BitVec.toNat h
      rw [hbits, BitVec.toNat_zero] at this
      omega
    simp only [unpack, unpackExponent_packComponents, unpackMantissa_packComponents,
      unpackSign_packComponents, Sign.ofBitVec_toBitVec, hne_zero, hbits]
    simp [hleast, exponentBias_binary64]

/-- What binary64 bits unpack to as a finite number is in the form binary64 keeps, with an
exponent of at most `971`. -/
theorem fits_of_unpack {b : BitVec Format.binary64.numBits} {s : Sign} {m : Nat} {e : Int}
    {hm : 0 < m} (h : unpack Format.binary64 b = .finite s m e hm) : Fits m e ∧ e ≤ 971 := by
  have hmant := (unpackMantissa b).isLt
  have hexp := (unpackExponent b).isLt
  unfold unpack at h
  dsimp only at h
  split at h
  · split at h <;> cases h
  · next hones =>
    split at h
    · next hzero =>
      -- a subnormal number, at the least exponent
      split at h
      · cases h
      · cases h
        refine ⟨⟨by simp at hmant ⊢; omega, .inr ?_, ?_⟩, ?_⟩ <;>
          simp [exponentBias_binary64, hzero]
    · next hzero =>
      -- a normal number: the exponent field is neither zero nor all ones
      cases h
      have hnz : (unpackExponent b).toNat ≠ 0 := fun h' => hzero (BitVec.eq_of_toNat_eq h')
      have hno : (unpackExponent b).toNat ≠ 2047 := fun h' => hones (BitVec.eq_of_toNat_eq h')
      simp only [toNat_one_append, exponentBias_binary64]
      simp at hmant hexp
      exact ⟨⟨by omega, .inl (by omega), by omega⟩, by omega⟩

/-- Unpacking binary64 bits, packing and unpacking again gives the same number. -/
theorem unpack_pack_unpack (b : BitVec Format.binary64.numBits) :
    unpack Format.binary64 (pack Format.binary64 (unpack Format.binary64 b)) =
      unpack Format.binary64 b := by
  cases h : unpack Format.binary64 b with
  | notANumber => exact unpack_pack_notANumber
  | infinity s => exact unpack_pack_infinity s
  | zero s => exact unpack_pack_zero s
  | finite s m e hm =>
    obtain ⟨hfits, he⟩ := fits_of_unpack h
    exact unpack_pack_finite hm hfits he

/-! ### Order -/

theorem isLE_then_compare (e₁ e₂ : Int) (m₁ m₂ : Nat) :
    ((compare e₁ e₂).then (compare m₁ m₂)).isLE = true ↔ e₁ < e₂ ∨ e₁ = e₂ ∧ m₁ ≤ m₂ := by
  rcases lt_trichotomy e₁ e₂ with h | rfl | h
  · simp [Int.compare_eq_lt.2 h, h]
  · simp [Nat.isLE_compare]
  · simp [Int.compare_eq_gt.2 h, h.not_gt, h.ne']

theorem isGE_then_compare (e₁ e₂ : Int) (m₁ m₂ : Nat) :
    ((compare e₁ e₂).then (compare m₁ m₂)).isGE = true ↔ e₂ < e₁ ∨ e₁ = e₂ ∧ m₂ ≤ m₁ := by
  rcases lt_trichotomy e₁ e₂ with h | rfl | h
  · simp [Int.compare_eq_lt.2 h, h.not_gt, h.ne]
  · simp [Nat.isGE_compare]
  · simp [Int.compare_eq_gt.2 h, h]

/-- Where a number stands on the line: negative infinity, the negative finite numbers (by
exponent and then mantissa, both reversed), the zeros, the positive finite numbers (by
exponent and then mantissa) and positive infinity. -/
def key : UnpackedFloat → ℕ ×ₗ ℤ ×ₗ ℤ
  | .infinity .negative => toLex (0, toLex (0, 0))
  | .finite .negative m e _ => toLex (1, toLex (-e, -(m : ℤ)))
  | .zero _ => toLex (2, toLex (0, 0))
  | .finite .positive m e _ => toLex (3, toLex (e, m))
  | .infinity .positive => toLex (4, toLex (0, 0))
  | .notANumber => toLex (0, toLex (0, 0))

/-- Comparing numbers that are not NaN compares where they stand. -/
theorem le_iff_key {a b : UnpackedFloat} (ha : a.isNaN = false) (hb : b.isNaN = false) :
    a.le b = true ↔ key a ≤ key b := by
  rcases a with ⟨_ | _⟩ | _ | ⟨_ | _⟩ | ⟨_ | _, m₁, e₁, _⟩ <;>
    rcases b with ⟨_ | _⟩ | _ | ⟨_ | _⟩ | ⟨_ | _, m₂, e₂, _⟩ <;>
    simp_all [UnpackedFloat.le, UnpackedFloat.compare, key, Prod.Lex.toLex_le_toLex,
      isLE_then_compare, isGE_then_compare, isNaN] <;> rfl

theorem le_refl {a : UnpackedFloat} (ha : a.isNaN = false) : a.le a = true :=
  (le_iff_key ha ha).2 le_rfl

/-- Nothing compares with NaN. -/
theorem isNaN_of_le {a b : UnpackedFloat} (h : a.le b = true) :
    a.isNaN = false ∧ b.isNaN = false := by
  cases a <;> cases b <;> simp_all [UnpackedFloat.le, UnpackedFloat.compare, isNaN]

theorem le_trans {a b c : UnpackedFloat} (hab : a.le b = true) (hbc : b.le c = true) :
    a.le c = true := by
  obtain ⟨ha, hb⟩ := isNaN_of_le hab
  have hc := (isNaN_of_le hbc).2
  rw [le_iff_key ha hb] at hab
  rw [le_iff_key hb hc] at hbc
  exact (le_iff_key ha hc).2 (hab.trans hbc)

theorem finite_positive_le {m₁ m₂ : Nat} {e₁ e₂ : Int} (h₁ : 0 < m₁) (h₂ : 0 < m₂) :
    (finite .positive m₁ e₁ h₁).le (finite .positive m₂ e₂ h₂) = true ↔
      e₁ < e₂ ∨ e₁ = e₂ ∧ m₁ ≤ m₂ := by
  simp [UnpackedFloat.le, UnpackedFloat.compare, isLE_then_compare]

/-! ### Addition -/

/-- Two positive finite numbers add up to their exact sum at the smaller exponent, rounded. -/
theorem add_finite_positive (spec : Format) {m₁ m₂ : Nat} {e₁ e₂ : Int} (h₁ : 0 < m₁)
    (h₂ : 0 < m₂) :
    add spec (finite .positive m₁ e₁ h₁) (finite .positive m₂ e₂ h₂) =
      round spec .positive (m₁ * 2 ^ (e₁ - min e₁ e₂).toNat + m₂ * 2 ^ (e₂ - min e₁ e₂).toNat)
        (min e₁ e₂) := by
  have hpos : 0 < m₁ * 2 ^ (e₁ - min e₁ e₂).toNat := Nat.mul_pos h₁ (Nat.two_pow_pos _)
  simp only [add, decreaseExponent, Sign.apply, normalize, Nat.shiftLeft_eq]
  rw [Int.compare_eq_gt.2 (by omega)]
  congr 1

/-- A positive finite number binary64 keeps is at most the packed sum of it and another
positive finite number. -/
theorem le_pack_add_finite {m₁ m₂ : Nat} {e₁ e₂ : Int} (h₁ : 0 < m₁) (h₂ : 0 < m₂)
    (hfits : Fits m₁ e₁) :
    (finite .positive m₁ e₁ h₁).le (unpack Format.binary64 (pack Format.binary64
      (add Format.binary64 (finite .positive m₁ e₁ h₁) (finite .positive m₂ e₂ h₂)))) = true := by
  rw [add_finite_positive]
  obtain ⟨m', e', h', hround, hfits', hcmp⟩ :=
    round_of_le (s := .positive) hfits h₁ (min_le_left e₁ e₂) (Nat.le_add_right _ _)
  rw [hround]
  by_cases he' : e' ≤ 971
  · rw [unpack_pack_finite h' hfits' he']
    exact (finite_positive_le h₁ h').2 hcmp
  · -- a sum too large for binary64 is positive infinity
    rw [unpack_pack_finite_of_overflow h' (by omega)]
    rfl

/-- What is neither NaN nor below zero: positive infinity, a zero, or a positive finite
number. -/
theorem zero_le_iff {a : UnpackedFloat} :
    (zero .positive).le a = true ↔ a = .infinity .positive ∨ (∃ s, a = .zero s) ∨
      ∃ m e h, a = .finite .positive m e h := by
  rcases a with ⟨_ | _⟩ | _ | ⟨_ | _⟩ | ⟨_ | _, m, e, _⟩ <;>
    simp_all [UnpackedFloat.le, UnpackedFloat.compare]

/-- Adding a number that is not below zero to one that is not below zero gives at least the
first, in binary64. -/
theorem le_unpack_pack_add {a b : BitVec Format.binary64.numBits}
    (ha : (zero .positive).le (unpack Format.binary64 a) = true)
    (hb : (zero .positive).le (unpack Format.binary64 b) = true) :
    (unpack Format.binary64 a).le (unpack Format.binary64 (pack Format.binary64
      (add Format.binary64 (unpack Format.binary64 a) (unpack Format.binary64 b)))) = true := by
  have hfits : ∀ {s m e h}, unpack Format.binary64 a = .finite s m e h → Fits m e :=
    fun h => (fits_of_unpack h).1
  have hpa := unpack_pack_unpack a
  have hpb := unpack_pack_unpack b
  generalize unpack Format.binary64 a = x at ha hfits hpa ⊢
  generalize unpack Format.binary64 b = y at hb hpb ⊢
  rcases zero_le_iff.1 ha with rfl | ⟨s₁, rfl⟩ | ⟨m₁, e₁, h₁, rfl⟩
  · -- positive infinity plus a number not below zero
    rcases zero_le_iff.1 hb with rfl | ⟨s₂, rfl⟩ | ⟨m₂, e₂, h₂, rfl⟩ <;>
      simp [add, UnpackedFloat.le, UnpackedFloat.compare] <;> rfl
  · -- a zero plus something is that thing, or a zero
    rcases zero_le_iff.1 hb with rfl | ⟨s₂, rfl⟩ | ⟨m₂, e₂, h₂, rfl⟩
    · simp [add, UnpackedFloat.le, UnpackedFloat.compare]
    · simp only [add]
      split <;> simp [UnpackedFloat.le, UnpackedFloat.compare]
    · simp only [add]
      rw [hpb]
      rfl
  · rcases zero_le_iff.1 hb with rfl | ⟨s₂, rfl⟩ | ⟨m₂, e₂, h₂, rfl⟩
    · simp [add, UnpackedFloat.le, UnpackedFloat.compare]
    · simp only [add]
      rw [hpa]
      exact (finite_positive_le h₁ h₁).2 (.inr ⟨rfl, le_rfl⟩)
    · exact le_pack_add_finite h₁ h₂ (hfits rfl)

end Float.Model.UnpackedFloat

namespace Float

theorem toModel_unpack_zero : (0 : Float).toModel.unpack = .zero .positive := rfl

/-- Nothing compares with NaN. -/
theorem isNaN_of_le {a b : Float} (h : a ≤ b) : a.isNaN = false ∧ b.isNaN = false :=
  Model.UnpackedFloat.isNaN_of_le (le_iff_unpack.1 h)

theorem le_refl {a : Float} (ha : a.isNaN = false) : a ≤ a :=
  le_iff_unpack.2 (Model.UnpackedFloat.le_refl ha)

theorem isNaN_of_isFinite {a : Float} (h : a.isFinite = true) : a.isNaN = false := by
  revert h
  show a.toModel.unpack.isFinite = true → a.toModel.unpack.isNaN = false
  cases a.toModel.unpack <;> simp [Model.UnpackedFloat.isFinite, Model.UnpackedFloat.isNaN]

theorem le_trans {a b c : Float} (hab : a ≤ b) (hbc : b ≤ c) : a ≤ c :=
  le_iff_unpack.2 (Model.UnpackedFloat.le_trans (le_iff_unpack.1 hab) (le_iff_unpack.1 hbc))

/-- Adding a number not below zero to one not below zero never lowers it. -/
theorem le_add_of_nonneg {a b : Float} (ha : 0 ≤ a) (hb : 0 ≤ b) : a ≤ a + b :=
  le_iff_unpack.2 (Model.UnpackedFloat.le_unpack_pack_add (le_iff_unpack.1 ha) (le_iff_unpack.1 hb))

theorem add_nonneg {a b : Float} (ha : 0 ≤ a) (hb : 0 ≤ b) : 0 ≤ a + b :=
  le_trans ha (le_add_of_nonneg ha hb)

/-- A sum that adds a number not below zero to one above `a` stays above `a`. -/
theorem le_add_of_le {a b c : Float} (ha : 0 ≤ a) (hab : a ≤ b) (hc : 0 ≤ c) : a ≤ b + c :=
  le_trans hab (le_add_of_nonneg (le_trans ha hab) hc)

/-- Not below zero is neither NaN nor negative; a negative zero is not below zero. -/
theorem zero_le_iff {a : Float} : 0 ≤ a ↔ a.isNaN = false ∧ ¬ a < 0 := by
  constructor
  · intro h
    refine ⟨(isNaN_of_le h).2, fun hlt => ?_⟩
    rw [le_iff_unpack, toModel_unpack_zero] at h
    rw [lt_iff_unpack, toModel_unpack_zero] at hlt
    rcases Model.UnpackedFloat.zero_le_iff.1 h with h' | ⟨s, h'⟩ | ⟨m, e, hm, h'⟩ <;>
      simp [h', Model.UnpackedFloat.lt, Model.UnpackedFloat.compare] at hlt
  · rintro ⟨ha, hlt⟩
    exact le_of_not_lt ha rfl hlt

end Float
