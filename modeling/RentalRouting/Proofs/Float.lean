/-
RentalRouting/Proofs/Float.lean

Two facts about binary64 arithmetic that the rental rules rest on, proved from the logical
model of floats: numbers that are not NaN are ordered one way or the other, so a failed
`<` is a `≤` the other way (`Float.le_of_not_lt`); and adding a finite number to one that
is not NaN never gives NaN (`Float.isNaN_add`).  Both go through the unpacked model, where
comparison is a case analysis on the kinds of numbers and addition rounds a finite sum to
a zero or a finite number, which packs to something other than NaN.
-/
import Mathlib

namespace Float.Model.UnpackedFloat

/-! ### Comparison -/

/-- Comparing the other way round swaps the answer. -/
theorem compare_swap (a b : UnpackedFloat) : (a.compare b).map Ordering.swap = b.compare a := by
  rcases a with ⟨_ | _⟩ | _ | ⟨_ | _⟩ | ⟨_ | _, m₁, e₁, _⟩ <;>
    rcases b with ⟨_ | _⟩ | _ | ⟨_ | _⟩ | ⟨_ | _, m₂, e₂, _⟩ <;>
    simp [UnpackedFloat.compare, Ordering.swap_then, Nat.compare_swap, Int.compare_swap] <;> rfl

/-- Only NaN is incomparable. -/
theorem compare_isSome {a b : UnpackedFloat} (ha : a.isNaN = false) (hb : b.isNaN = false) :
    (a.compare b).isSome = true := by
  rcases a with ⟨_ | _⟩ | _ | ⟨_ | _⟩ | ⟨_ | _, m₁, e₁, _⟩ <;>
    rcases b with ⟨_ | _⟩ | _ | ⟨_ | _⟩ | ⟨_ | _, m₂, e₂, _⟩ <;>
    simp_all [UnpackedFloat.compare, isNaN]

theorem le_of_not_lt {a b : UnpackedFloat} (ha : a.isNaN = false) (hb : b.isNaN = false)
    (h : a.lt b = false) : b.le a = true := by
  obtain ⟨o, ho⟩ := Option.isSome_iff_exists.1 (compare_isSome ha hb)
  have hba : b.compare a = some o.swap := by rw [← compare_swap, ho]; rfl
  simp only [UnpackedFloat.lt, ho] at h
  simp only [UnpackedFloat.le, hba]
  cases o <;> simp_all

/-! ### Addition -/

theorem roundWithAccuracy_isNaN (spec : Format) (s : Sign) (m : Nat) (e : Int) (a : Accuracy) :
    (roundWithAccuracy spec s m e a).isNaN = false := by
  simp only [roundWithAccuracy]
  split <;> rfl

theorem normalize_isNaN (spec : Format) (m e : Int) (s : Sign) :
    (normalize spec m e s).isNaN = false := by
  unfold normalize round
  split
  · exact roundWithAccuracy_isNaN ..
  · rfl
  · exact roundWithAccuracy_isNaN ..

/-- A finite number added to one that is not NaN: infinity stays, and a finite sum rounds
to a zero or a finite number. -/
theorem add_isNaN {spec : Format} {a b : UnpackedFloat} (ha : a.isNaN = false)
    (hb : b.isFinite = true) : (add spec a b).isNaN = false := by
  cases a with
  | notANumber => simp [isNaN] at ha
  | infinity s₁ => cases b <;> simp_all [add, isFinite, isNaN]
  | zero s₁ =>
    -- a zero plus a zero is a zero of some sign, and plus anything else that thing
    cases b with
    | zero s₂ => simp only [add]; split <;> rfl
    | finite => rfl
    | _ => simp [isFinite] at hb
  | finite s₁ m₁ e₁ _ =>
    -- two finite numbers add up to their rounded sum
    cases b with
    | zero => rfl
    | finite => exact normalize_isNaN ..
    | _ => simp [isFinite] at hb

/-! ### Packing -/

/-- Bits whose exponent is not all ones unpack to a number. -/
theorem unpack_isNaN_of_exponent_ne {spec : Format} {b : BitVec spec.numBits}
    (h : unpackExponent b ≠ -1#_) : (unpack spec b).isNaN = false := by
  simp only [unpack, h, if_false]
  split
  · split <;> rfl
  · rfl

theorem unpack_packedInfinity_isNaN (spec : Format) (s : Sign) :
    (unpack spec (packedInfinity spec s)).isNaN = false := by
  simp [unpack, packedInfinity, isNaN]

/-- Packing a number into binary64 and unpacking it again gives a number. -/
theorem unpack_pack_isNaN {x : UnpackedFloat} (hx : x.isNaN = false) :
    (unpack Format.binary64 (pack Format.binary64 x)).isNaN = false := by
  cases x with
  | notANumber => simp [isNaN] at hx
  | infinity s => exact unpack_packedInfinity_isNaN _ s
  | zero s =>
    apply unpack_isNaN_of_exponent_ne
    simp only [pack, packedZero, unpackExponent_packComponents]
    decide
  | finite s m e hm =>
    simp only [pack]
    split
    · exact unpack_packedInfinity_isNaN _ s
    · next hover =>
      split
      · -- a normal number: its biased exponent stays below all ones
        apply unpack_isNaN_of_exponent_ne
        simp only [unpackExponent_packComponents]
        intro heq
        have := congrArg BitVec.toNat heq
        simp at this hover
        omega
      · apply unpack_isNaN_of_exponent_ne
        simp only [unpackExponent_packComponents]
        decide

end Float.Model.UnpackedFloat

namespace Float

theorem lt_iff_unpack {a b : Float} : a < b ↔ a.toModel.unpack.lt b.toModel.unpack = true := by
  show a.lt b = true ↔ _
  simp [Float.lt]
  rfl

theorem le_iff_unpack {a b : Float} : a ≤ b ↔ a.toModel.unpack.le b.toModel.unpack = true := by
  show a.le b = true ↔ _
  simp [Float.le]
  rfl

/-- Two numbers neither of which is NaN are ordered one way or the other. -/
theorem le_of_not_lt {a b : Float} (ha : a.isNaN = false) (hb : b.isNaN = false)
    (h : ¬ a < b) : b ≤ a := by
  rw [lt_iff_unpack, Bool.not_eq_true] at h
  exact le_iff_unpack.2 (Model.UnpackedFloat.le_of_not_lt ha hb h)

/-- Adding a finite number to one that is not NaN gives a number that is not NaN. -/
theorem isNaN_add {a b : Float} (ha : a.isNaN = false) (hb : b.isFinite = true) :
    (a + b).isNaN = false :=
  Model.UnpackedFloat.unpack_pack_isNaN (Model.UnpackedFloat.add_isNaN ha hb)

end Float
