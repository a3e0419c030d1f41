/-
RentalRouting/Proofs/StreetBound.lean

The least time a street can take, against the time a step across it adds.  The bound divides
the street's length by the fastest speed among its modes; a step divides it by the speed of
the state's own mode, which the street permits, and then moves the clock by that time
rounded to whole seconds, half a second going away from zero.

Main statements: with every speed of the request positive and finite, the fastest speed is
at least the speed of any permitted mode (`fastest_spec`), and a step moves the clock by the
rounded time of its own mode (`time_of_traverse`).  Float division by a larger finite speed
gives no more time (`Float.div_le_div_left`) and rounding is monotone on times that are not
negative (`Double.roundToWord_le_roundToWord`), so the bound is at most the step's time
before rounding, and the bound rounded is at most the step
(`street_bound_before_rounding`).  The bound itself can still exceed the step: 10.4 meters
walked at one meter a second have a bound of 10.4 seconds and move the clock by 10
(`short_walk_falls_below_bound`).
-/
import Mathlib
import RentalRouting.Proofs.FloatDivision
import RentalRouting.Proofs.Progress

namespace RentalRouting

open Editor

/-- Every speed the request gives is positive and finite. -/
def Request.SpeedsPositive (r : Request) : Prop :=
  ∀ mode speed, r.speed mode = some speed → 0 < speed ∧ speed.isFinite = true

namespace StreetEdge

variable {e : StreetEdge} {r : Request} {s s' : State}

/-- Folding positive finite speeds by taking each one that is larger than the best so far
keeps a positive finite speed at least the start and at least every speed folded in. -/
theorem foldl_faster {xs : List Float} {a : Float} (ha : 0 < a ∧ a.isFinite = true)
    (hxs : ∀ x ∈ xs, 0 < x ∧ x.isFinite = true) :
    ∃ top, xs.foldl (fun acc b => match acc with
        | none => some b
        | some a => some (if b > a then b else a)) (some a) = some top ∧
      (0 < top ∧ top.isFinite = true) ∧ a ≤ top ∧ ∀ x ∈ xs, x ≤ top := by
  induction xs generalizing a with
  | nil =>
    exact ⟨a, rfl, ha, Float.le_refl (Float.isNaN_of_isFinite ha.2), by simp⟩
  | cons b xs ih =>
    have hb := hxs b (by simp)
    have hbnan := Float.isNaN_of_isFinite hb.2
    have hanan := Float.isNaN_of_isFinite ha.2
    -- one step keeps the larger of the best so far and the next speed
    have hstep : (a ≤ if b > a then b else a) ∧ (b ≤ if b > a then b else a) ∧
        (0 < (if b > a then b else a) ∧ (if b > a then b else a).isFinite = true) := by
      by_cases hlt : b > a
      · simp only [hlt, if_true]
        exact ⟨Float.le_of_lt hlt, Float.le_refl hbnan, hb⟩
      · simp only [hlt, if_false]
        exact ⟨Float.le_refl hanan, Float.le_of_not_lt hanan hbnan hlt, ha⟩
    obtain ⟨top, hfold, htop, hle, hall⟩ :=
      ih hstep.2.2 fun x hx => hxs x (List.mem_cons_of_mem b hx)
    refine ⟨top, hfold, htop, Float.le_trans hstep.1 hle, ?_⟩
    intro x hx
    rcases List.mem_cons.1 hx with rfl | hx
    · exact Float.le_trans hstep.2.1 hle
    · exact hall x hx

/-- The fastest speed of a street is positive and finite, and at least the speed of each mode
the street permits. -/
theorem fastest_spec (hr : r.SpeedsPositive) {mode : TravelMode} {speed : Float}
    (hmode : e.permission.contains mode = true) (hspeed : r.speed mode = some speed) :
    ∃ top, e.fastest r = some top ∧ (0 < top ∧ top.isFinite = true) ∧ speed ≤ top := by
  have hpos : ∀ x ∈ e.permission.toList.filterMap r.speed, 0 < x ∧ x.isFinite = true := by
    intro x hx
    obtain ⟨m, -, hm⟩ := List.mem_filterMap.1 hx
    exact hr m x hm
  have hmem : speed ∈ e.permission.toList.filterMap r.speed :=
    List.mem_filterMap.2 ⟨mode, (ModeSet.mem_toList _ _).2 hmode, hspeed⟩
  -- the fold starts at the first speed; every later one is compared with the best so far
  obtain ⟨first, rest, hlist⟩ := List.exists_cons_of_ne_nil (List.ne_nil_of_mem hmem)
  rw [hlist] at hpos hmem
  obtain ⟨top, hfold, htop, hfirst, hrest⟩ :=
    foldl_faster (hpos first (by simp)) fun x hx => hpos x (List.mem_cons_of_mem first hx)
  refine ⟨top, ?_, htop, ?_⟩
  · show List.foldl _ none (e.permission.toList.filterMap r.speed) = some top
    rw [hlist]
    exact hfold
  · rcases List.mem_cons.1 hmem with rfl | hmem
    · exact hfirst
    · exact hrest speed hmem

/-- A step across a street moves the clock by the whole seconds of the length over the speed
of the state's mode, forward in a depart-at search and backward in an arrive-by one. -/
theorem time_of_traverse (h : e.traverse s = some s') :
    ∃ mode speed, s.mode = some mode ∧ e.permission.contains mode = true ∧
      s.request.speed mode = some speed ∧ acceptsTime (e.length / speed) = true ∧
      s'.time = if s.isArriveBy then s.time - Int64.ofInt (Double.roundToWord (e.length / speed))
        else s.time + Int64.ofInt (Double.roundToWord (e.length / speed)) := by
  obtain ⟨mode, speed, hm, hc, hsp, htime, -, -, -, rfl⟩ := StreetEdge.traverse_eq_some.1 h
  refine ⟨mode, speed, hm, hc, hsp, htime, ?_⟩
  split_ifs <;> simp_all [Editor.apply, State.isArriveBy]

end StreetEdge

namespace Double

open Float.Model UnpackedFloat

/-- Zero rounds to zero, whatever its sign. -/
theorem roundHalfAway_zero (negative : Bool) : roundHalfAway negative 0 = 0 := by
  unfold roundHalfAway
  have hzero : (2 * 0 + unitsPerOne) / (2 * unitsPerOne) = 0 := by
    generalize unitsPerOne = u
    rcases Nat.eq_zero_or_pos u with rfl | hu
    · rfl
    · exact Nat.div_eq_of_lt (by omega)
  rw [hzero]
  split <;> rfl

/-- Numbers binary64 keeps count their units of `2 ^ -1074` in the order of their exponents
and then their mantissas. -/
theorem units_le_of_fits {m m' : Nat} {e e' : Int} (hfits : Fits m e) (hfits' : Fits m' e')
    (hle : e < e' ∨ e = e' ∧ m ≤ m') :
    m * 2 ^ (e + 1074).toNat ≤ m' * 2 ^ (e' + 1074).toNat := by
  have hpow : ∀ {k : Int}, -1074 ≤ k →
      ((2 ^ (k + 1074).toNat : Nat) : ℚ) = 2 ^ k * 2 ^ (1074 : Int) := by
    intro k hk
    rw [Nat.cast_pow, Nat.cast_two, ← zpow_natCast, Int.toNat_of_nonneg (by omega),
      zpow_add₀ two_ne_zero]
  have hvalue := mul_le_mul_of_nonneg_right (value_le_of_fits hfits hfits' hle)
    (zpow_nonneg zero_le_two (1074 : Int))
  have hcast : ((m * 2 ^ (e + 1074).toNat : Nat) : ℚ) ≤ ((m' * 2 ^ (e' + 1074).toNat : Nat) : ℚ) := by
    rw [Nat.cast_mul, Nat.cast_mul, hpow hfits.least_le, hpow hfits'.least_le, ← mul_assoc,
      ← mul_assoc]
    exact hvalue
  exact_mod_cast hcast

/-- Whole seconds grow with the time they round, for times not below zero. -/
theorem roundToWord_le_roundToWord {x y : Float} (hx : 0 ≤ x) (hxy : x ≤ y) :
    roundToWord x ≤ roundToWord y := by
  have hy := Float.le_trans hx hxy
  rw [Float.le_iff_unpack, Float.toModel_unpack_zero] at hx hy
  rw [Float.le_iff_unpack] at hxy
  have hfitsx : ∀ {s m e h}, x.toModel.unpack = .finite s m e h → Fits m e :=
    fun h => (fits_of_unpack h).1
  have hfitsy : ∀ {s m e h}, y.toModel.unpack = .finite s m e h → Fits m e :=
    fun h => (fits_of_unpack h).1
  have hlimit : wordLimit = 9223372036854775808 := rfl
  have hpositive : (Sign.positive == Sign.negative) = false := rfl
  -- clamping to the words keeps the order and stays below the largest word
  have hclamp : ∀ n n' : Int, n ≤ n' →
      (if n < -wordLimit then -wordLimit else if wordLimit - 1 < n then wordLimit - 1 else n) ≤
        (if n' < -wordLimit then -wordLimit else if wordLimit - 1 < n' then wordLimit - 1 else n') := by
    intro n n' h
    split_ifs <;> omega
  have htop : ∀ n : Int,
      (if n < -wordLimit then -wordLimit else if wordLimit - 1 < n then wordLimit - 1 else n) ≤
        wordLimit - 1 := by
    intro n
    split_ifs <;> omega
  unfold roundToWord
  rw [ofFloat_eq_ofUnpacked, ofFloat_eq_ofUnpacked]
  generalize x.toModel.unpack = u at hx hxy hfitsx
  generalize y.toModel.unpack = v at hy hxy hfitsy
  rcases UnpackedFloat.zero_le_iff.1 hx with rfl | ⟨s, rfl⟩ | ⟨m, e, hm, rfl⟩ <;>
    rcases UnpackedFloat.zero_le_iff.1 hy with rfl | ⟨s', rfl⟩ | ⟨m', e', hm', rfl⟩ <;>
    simp only [ofUnpacked, hpositive, Bool.false_eq_true, if_false, roundHalfAway_zero]
  -- positive infinity is only at most itself
  · exact le_rfl
  · simp [UnpackedFloat.le, UnpackedFloat.compare] at hxy
  · simp [UnpackedFloat.le, UnpackedFloat.compare] at hxy
  -- a zero rounds to no seconds
  · exact htop 0
  · exact le_rfl
  · exact hclamp 0 _ (roundHalfAway_nonneg (.inl rfl))
  -- a positive finite time rounds to the whole seconds of its units
  · exact htop _
  · simp [UnpackedFloat.le, UnpackedFloat.compare] at hxy
  · refine hclamp _ _ ?_
    have hunits := units_le_of_fits (hfitsx rfl) (hfitsy rfl) ((finite_positive_le hm hm').1 hxy)
    unfold roundHalfAway
    exact Int.ofNat_le.2 (Nat.div_le_div_right (by omega))

end Double

/-- The bound and a step across a street divide the same length: the step by the speed of the
state's mode, which the street permits, and the bound by the fastest speed of the street's
modes, which is at least that one, so the bound is at most the step's unrounded time.  The
clock moves by that time rounded to whole seconds, which is at least the bound rounded the
same way. -/
theorem street_bound_before_rounding (e : StreetEdge) (s s' : State)
    (hr : s.request.SpeedsPositive) (hlength : 0 ≤ e.length) (h : e.traverse s = some s') :
    ∃ mode speed, s.mode = some mode ∧ e.permission.contains mode = true ∧
      s.request.speed mode = some speed ∧
      e.timeLowerBound s.request ≤ e.length / speed ∧
      |(s'.time - s.time).toInt| = Double.roundToWord (e.length / speed) ∧
      Double.roundToWord (e.timeLowerBound s.request) ≤ |(s'.time - s.time).toInt| := by
  obtain ⟨mode, speed, hm, hc, hsp, haccept, htime⟩ := StreetEdge.time_of_traverse h
  obtain ⟨top, htop, ⟨htop_pos, htop_finite⟩, hle⟩ := StreetEdge.fastest_spec hr hc hsp
  have hbound : e.timeLowerBound s.request = e.length / top := by
    simp [StreetEdge.timeLowerBound, htop]
  -- dividing by the fastest speed gives at most the time at the mode's own speed
  have hbelow : e.timeLowerBound s.request ≤ e.length / speed := by
    rw [hbound]
    exact Float.div_le_div_left hlength (hr mode speed hsp).1 hle htop_finite
  have hsteps : |(s'.time - s.time).toInt| = Double.roundToWord (e.length / speed) := by
    have hround := Double.roundToWord_nonneg (Editor.zero_le_of_acceptsTime haccept)
    have hword := Double.toInt_ofInt_roundToWord (e.length / speed)
    have hmem := Double.roundToWord_mem (e.length / speed)
    have hlimit : Double.wordLimit = 2 ^ 63 := rfl
    generalize Double.roundToWord (e.length / speed) = n at hround hword hmem htime
    -- the two words differ by the step's seconds, whether or not the clock wrapped around
    split_ifs at htime <;> rw [htime]
    · rw [show s.time - Int64.ofInt n - s.time = -Int64.ofInt n by grind, Int64.toInt_neg, hword,
        Int.bmod_eq_of_le (by omega) (by omega), abs_neg, abs_of_nonneg hround]
    · rw [show s.time + Int64.ofInt n - s.time = Int64.ofInt n by grind, hword,
        abs_of_nonneg hround]
  refine ⟨mode, speed, hm, hc, hsp, hbelow, hsteps, ?_⟩
  rw [hsteps]
  refine Double.roundToWord_le_roundToWord ?_ hbelow
  rw [hbound]
  exact Float.div_nonneg hlength htop_pos htop_finite

/-- A request that walks at one meter a second. -/
def shortWalkRequest : Request := { walkSpeed := 1, modes := { walk := true } }

/-- A street of 10.4 meters open to walking. -/
def shortWalkStreet : StreetEdge := ⟨1, 1, 2, 10.4, { walk := true }⟩

/-- Walking the street from the start of a search, with every speed positive and finite. -/
theorem shortWalk_bound_before_rounding :
    shortWalkRequest.SpeedsPositive ∧ 0 ≤ shortWalkStreet.length ∧
    ∃ s', shortWalkStreet.traverse (State.origin 1 0 shortWalkRequest) = some s' ∧
      ∃ mode speed, (State.origin 1 0 shortWalkRequest).mode = some mode ∧
        shortWalkStreet.permission.contains mode = true ∧
        shortWalkRequest.speed mode = some speed ∧
        shortWalkStreet.timeLowerBound shortWalkRequest ≤ shortWalkStreet.length / speed ∧
        |(s'.time - (State.origin 1 0 shortWalkRequest).time).toInt| =
          Double.roundToWord (shortWalkStreet.length / speed) ∧
        Double.roundToWord (shortWalkStreet.timeLowerBound shortWalkRequest) ≤
          |(s'.time - (State.origin 1 0 shortWalkRequest).time).toInt| := by
  have hr : shortWalkRequest.SpeedsPositive := by
    intro mode speed h
    cases mode <;> simp only [Request.speed, Option.some.injEq, reduceCtorEq] at h <;> subst h <;>
      decide +kernel
  have hlength : 0 ≤ shortWalkStreet.length := by decide +kernel
  obtain ⟨s', hs'⟩ : ∃ s', shortWalkStreet.traverse (State.origin 1 0 shortWalkRequest) = some s' :=
    Option.isSome_iff_exists.1 (by decide +kernel)
  exact ⟨hr, hlength, s', hs', street_bound_before_rounding _ _ _ hr hlength hs'⟩

/-- The walk's bound is 10.4 seconds, but the step moves the clock by 10. -/
theorem short_walk_falls_below_bound :
    (shortWalkStreet.traverse (State.origin 1 0 shortWalkRequest)).map State.time = some 10 ∧
      (10 : Float) < shortWalkStreet.timeLowerBound shortWalkRequest :=
  ⟨by decide +kernel, by decide +kernel⟩

end RentalRouting
