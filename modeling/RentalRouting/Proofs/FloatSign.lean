/-
RentalRouting/Proofs/FloatSign.lean

When two binary64 numbers are one number.  Two numbers that are not NaN and compare both ways
stand at one place of the order key, and each place holds one number but the place of the
zeros, which holds both signs; floats that unpack alike have the same bits.  Hence

    a ≤ b → ¬ a < b → a, b not negative zero → a = b        (`Float.eq_of_le_of_not_lt`)

Negative zero never comes out of a sum that adds a number not below zero to a number not
below zero that is not negative zero: a zero plus a zero is negative only when both are
(`Float.not_isNegZero_add`).
-/
import RentalRouting.Proofs.FloatOrder

namespace Float.Model.UnpackedFloat

/-- Comparing the other way round, what is at most is never below. -/
theorem lt_eq_false_of_le {a b : UnpackedFloat} (h : a.le b = true) : b.lt a = false := by
  have hswap := compare_swap a b
  cases hab : a.compare b with
  | none => simp [UnpackedFloat.le, hab] at h
  | some o =>
    rw [hab] at hswap
    cases o <;> simp_all [UnpackedFloat.le, UnpackedFloat.lt, ← hswap]

/-- Numbers that are not NaN and stand at one place of the order are one number, but for the
sign of a zero. -/
theorem eq_of_key_eq {a b : UnpackedFloat} (ha : a.isNaN = false) (hb : b.isNaN = false)
    (ha0 : a ≠ .zero .negative) (hb0 : b ≠ .zero .negative) (h : key a = key b) : a = b := by
  rcases a with ⟨_ | _⟩ | _ | ⟨_ | _⟩ | ⟨_ | _, m₁, e₁, _⟩ <;>
    rcases b with ⟨_ | _⟩ | _ | ⟨_ | _⟩ | ⟨_ | _, m₂, e₂, _⟩ <;>
    simp_all [key, isNaN]

/-- Adding a number not below zero to one not below zero that is not negative zero gives no
negative zero, in binary64. -/
theorem unpack_pack_add_ne_zero_negative {a b : BitVec Format.binary64.numBits}
    (ha : (zero .positive).le (unpack Format.binary64 a) = true)
    (ha0 : unpack Format.binary64 a ≠ .zero .negative)
    (hb : (zero .positive).le (unpack Format.binary64 b) = true) :
    unpack Format.binary64 (pack Format.binary64
      (add Format.binary64 (unpack Format.binary64 a) (unpack Format.binary64 b))) ≠
        .zero .negative := by
  intro hsum
  have hle := le_unpack_pack_add ha hb
  rw [hsum] at hle
  have hpb := unpack_pack_unpack b
  generalize unpack Format.binary64 b = y at hb hpb hsum
  rcases zero_le_iff.1 ha with hx | ⟨s, hx⟩ | ⟨m, e, hm, hx⟩ <;> rw [hx] at hle hsum
  · simp [UnpackedFloat.le, UnpackedFloat.compare] at hle
  · -- a positive zero: the sum is `b`, or a zero that is negative only if `b` is
    cases s with
    | negative => exact ha0 hx
    | positive =>
      rcases zero_le_iff.1 hb with rfl | ⟨s', rfl⟩ | ⟨m', e', hm', rfl⟩
      · simp [add] at hsum
      · cases s' <;> simp [add] at hsum
      · simp only [add] at hsum
        rw [hpb] at hsum
        cases hsum
  · simp [UnpackedFloat.le, UnpackedFloat.compare] at hle

end Float.Model.UnpackedFloat

namespace Float

/-- The number is negative zero. -/
def IsNegZero (a : Float) : Prop := a.toModel.unpack = .zero .negative

theorem not_isNegZero_zero : ¬ (0 : Float).IsNegZero := by
  simp [IsNegZero, toModel_unpack_zero]

/-- Floats that unpack alike have the same bits. -/
theorem eq_of_toModel_unpack_eq {a b : Float} (h : a.toModel.unpack = b.toModel.unpack) :
    a = b :=
  toBits_inj.1 (UInt64.toBitVec_inj.1
    ((Model.UnpackedFloat.unpack_inj_of_valid a.toModel.valid b.toModel.valid).1 h))

theorem not_lt_of_le {a b : Float} (h : a ≤ b) : ¬ b < a := by
  rw [lt_iff_unpack, Model.UnpackedFloat.lt_eq_false_of_le (le_iff_unpack.1 h)]
  exact Bool.false_ne_true

/-- Numbers ordered both ways, neither of them negative zero, are one number. -/
theorem eq_of_le_of_not_lt {a b : Float} (hab : a ≤ b) (h : ¬ a < b) (ha : ¬ a.IsNegZero)
    (hb : ¬ b.IsNegZero) : a = b := by
  obtain ⟨ha', hb'⟩ := isNaN_of_le hab
  have hba : b ≤ a := le_of_not_lt ha' hb' h
  rw [le_iff_unpack, Model.UnpackedFloat.le_iff_key ha' hb'] at hab
  rw [le_iff_unpack, Model.UnpackedFloat.le_iff_key hb' ha'] at hba
  exact eq_of_toModel_unpack_eq
    (Model.UnpackedFloat.eq_of_key_eq ha' hb' ha hb (le_antisymm hab hba))

/-- Adding a number not below zero to one not below zero that is not negative zero gives no
negative zero. -/
theorem not_isNegZero_add {a b : Float} (ha : 0 ≤ a) (ha0 : ¬ a.IsNegZero) (hb : 0 ≤ b) :
    ¬ (a + b).IsNegZero :=
  Model.UnpackedFloat.unpack_pack_add_ne_zero_negative (le_iff_unpack.1 ha) ha0
    (le_iff_unpack.1 hb)

end Float
