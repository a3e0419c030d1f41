/-
RentalRouting/Proofs/Cost.lean

What an edge costs a state: the whole seconds it moves the clock by and the weights it adds
in turn, read off the edge, the request and the mode the state is in
(`PathEdge.cost_of_traverse`).  The clock is a 64-bit word: a step adds its seconds, or
takes them away in an arrive-by search, modulo `2 ^ 64`.

The seconds of a step that goes through are not below zero (`PathEdge.seconds_nonneg`):
each is the rounding of a time the editor took, and the whole seconds of a time not below
zero are not below zero, for a negative zero and an infinity too (`Double.roundToWord_nonneg`);
that needs the reading of a double's bits to agree with the float model
(`Double.ofFloat_eq_ofUnpacked`).  So a step whose sum does not wrap around, which
`PathEdge.timeFits` checks on the exact integers, moves the clock forward in a depart-at
search and backward in an arrive-by one (`PathEdge.time_le_of_traverse`); a run in which no
step wraps around (`State.timeFitsAlong`) does so at every step.
-/
import RentalRouting.Proofs.FloatOrder
import RentalRouting.Proofs.Traversal

namespace RentalRouting

namespace Double

open Float.Model UnpackedFloat

/-- A double as a number, read off the unpacked float: not a number, an infinity, or a
finite magnitude in units of `2 ^ -1074`. -/
def ofUnpacked : UnpackedFloat → Double
  | .notANumber => .nan
  | .infinity s => .infinite (s == .negative)
  | .zero s => .finite (s == .negative) 0
  | .finite s m e _ => .finite (s == .negative) (m * 2 ^ (e + 1074).toNat)

theorem unpackMantissa_toNat (b : BitVec Format.binary64.numBits) :
    (unpackMantissa b).toNat = b.toNat % 2 ^ 52 := by
  simp [unpackMantissa, BitVec.extractLsb_toNat]

theorem unpackExponent_toNat (b : BitVec Format.binary64.numBits) :
    (unpackExponent b).toNat = b.toNat / 2 ^ 52 % 2 ^ 11 := by
  simp [unpackExponent, BitVec.extractLsb_toNat, Nat.shiftRight_eq_div_pow]

theorem sign_unpackSign (b : BitVec Format.binary64.numBits) :
    Sign.ofBitVec (unpackSign b) = if 2 ^ 63 ≤ b.toNat then .negative else .positive := by
  have hlt : b.toNat < 2 ^ 64 := b.isLt
  have hs : (unpackSign b).toNat = b.toNat / 2 ^ 63 := by
    simp [unpackSign, BitVec.extractLsb_toNat, Nat.shiftRight_eq_div_pow]
    omega
  unfold Sign.ofBitVec
  split
  · next h =>
    have := congrArg BitVec.toNat h
    rw [hs] at this
    simp at this
    rw [if_neg (by omega)]
  · next h =>
    have : (unpackSign b).toNat ≠ 0 := fun h' => h (BitVec.eq_of_toNat_eq h')
    rw [hs] at this
    rw [if_pos (by omega)]

theorem sign_beq_negative (c : Prop) [Decidable c] :
    ((if c then Sign.negative else .positive) == .negative) = decide c := by
  by_cases h : c <;> simp [h]

/-- Reading a double's bit fields gives the number the float model unpacks. -/
theorem ofFloat_eq_ofUnpacked (x : Float) : ofFloat x = ofUnpacked x.toModel.unpack := by
  show ofFloat x = ofUnpacked (unpack Format.binary64 x.toModel.toBits.toBitVec)
  have hbits : x.toBits.toNat = x.toModel.toBits.toBitVec.toNat := rfl
  generalize x.toModel.toBits.toBitVec = b at hbits
  have hmant := unpackMantissa_toNat b
  have hexp := unpackExponent_toNat b
  unfold ofFloat UnpackedFloat.unpack
  dsimp only
  rw [hbits, sign_unpackSign]
  simp only [Nat.pow_eq]
  by_cases hinf : b.toNat / 2 ^ 52 % 2 ^ 11 = 2047
  · -- all ones in the exponent: an infinity or NaN
    have hones : @unpackExponent Format.binary64 b = -1#11 :=
      BitVec.eq_of_toNat_eq (by rw [hexp, hinf]; rfl)
    rw [if_pos hinf, if_pos hones]
    by_cases hf : b.toNat % 2 ^ 52 = 0
    · have hzero : @unpackMantissa Format.binary64 b = 0#52 :=
        BitVec.eq_of_toNat_eq (by rw [hmant, hf]; rfl)
      rw [if_pos hf, if_pos hzero, ofUnpacked, sign_beq_negative]
    · have hzero : @unpackMantissa Format.binary64 b ≠ 0#52 := fun h =>
        hf (by rw [← hmant, h]; rfl)
      rw [if_neg hf, if_neg hzero]
      rfl
  · have hones : @unpackExponent Format.binary64 b ≠ -1#11 := fun h =>
      hinf (by rw [← hexp, h]; rfl)
    rw [if_neg hinf, if_neg hones]
    by_cases hz : b.toNat / 2 ^ 52 % 2 ^ 11 = 0
    · -- a zero exponent field: a zero or a subnormal number
      have hzexp : @unpackExponent Format.binary64 b = 0#11 :=
        BitVec.eq_of_toNat_eq (by rw [hexp, hz]; rfl)
      rw [if_pos hz, if_pos hzexp]
      by_cases hf : b.toNat % 2 ^ 52 = 0
      · have hzero : @unpackMantissa Format.binary64 b = 0#52 :=
          BitVec.eq_of_toNat_eq (by rw [hmant, hf]; rfl)
        rw [dif_pos hzero, ofUnpacked, sign_beq_negative, hf]
      · have hzero : @unpackMantissa Format.binary64 b ≠ 0#52 := fun h =>
          hf (by rw [← hmant, h]; rfl)
        rw [dif_neg hzero, ofUnpacked, sign_beq_negative, hmant, hexp, hz]
        simp [exponentBias_binary64]
    · -- a normal number: the implicit bit, and the exponent field less one
      have hzexp : @unpackExponent Format.binary64 b ≠ 0#11 := fun h =>
        hz (by rw [← hexp, h]; rfl)
      rw [if_neg hz, if_neg hzexp, ofUnpacked, sign_beq_negative, toNat_one_append, hmant, hexp,
        exponentBias_binary64]
      generalize b.toNat / 2 ^ 52 % 2 ^ 11 = k at hz
      rw [show ((k : Int) - ((1023 : Nat) + (52 : Nat)) + 1074).toNat = k - 1 by omega]

theorem roundHalfAway_nonneg {negative : Bool} {units : Nat} (h : negative = false ∨ units = 0) :
    0 ≤ roundHalfAway negative units := by
  unfold roundHalfAway
  dsimp only
  rcases h with rfl | rfl
  · -- not negative: the nearest whole number is a natural number
    exact Int.natCast_nonneg _
  · -- zero rounds to zero
    have hzero : (2 * 0 + unitsPerOne) / (2 * unitsPerOne) = 0 := by
      generalize unitsPerOne = u
      rcases Nat.eq_zero_or_pos u with rfl | hu
      · rfl
      · exact Nat.div_eq_of_lt (by omega)
    rw [hzero]
    split <;> rfl

/-- The whole seconds of a time not below zero are not below zero: a positive infinity
saturates to the largest word, and a negative zero rounds to zero. -/
theorem roundToWord_nonneg {t : Float} (ht : 0 ≤ t) : 0 ≤ roundToWord t := by
  rw [Float.le_iff_unpack, Float.toModel_unpack_zero] at ht
  have hlimit : wordLimit = 9223372036854775808 := rfl
  -- clamping a word that is not negative keeps it not negative
  have hclamp : ∀ n : Int, 0 ≤ n →
      0 ≤ (if n < -wordLimit then -wordLimit
        else if wordLimit - 1 < n then wordLimit - 1 else n) := by
    intro n hn
    split_ifs <;> omega
  unfold roundToWord
  rw [ofFloat_eq_ofUnpacked]
  rcases UnpackedFloat.zero_le_iff.1 ht with h | ⟨s, h⟩ | ⟨m, e, hm, h⟩ <;> rw [h] <;>
    simp only [ofUnpacked]
  · show 0 ≤ (if (Sign.positive == Sign.negative) = true then -wordLimit else wordLimit - 1)
    rw [if_neg (by decide)]
    omega
  · exact hclamp _ (roundHalfAway_nonneg (.inr rfl))
  · exact hclamp _ (roundHalfAway_nonneg (.inl rfl))

/-- Whole seconds are a 64-bit word: rounding saturates at the least word and the largest. -/
theorem roundToWord_mem (x : Float) : -wordLimit ≤ roundToWord x ∧ roundToWord x < wordLimit := by
  have hlimit : wordLimit = 9223372036854775808 := rfl
  unfold roundToWord
  split
  · omega
  · split <;> omega
  · dsimp only
    split_ifs <;> omega

/-- The word of whole seconds reads back as those seconds. -/
theorem toInt_ofInt_roundToWord (x : Float) : (Int64.ofInt (roundToWord x)).toInt = roundToWord x :=
  Int64.toInt_ofInt_of_le (roundToWord_mem x).1 (roundToWord_mem x).2

end Double

theorem Editor.zero_le_of_acceptsTime {t : Float} (h : acceptsTime t = true) : 0 ≤ t := by
  simp only [acceptsTime, Bool.not_eq_true', Bool.or_eq_false_iff, Bool.not_eq_false',
    decide_eq_false_iff_not] at h
  exact Float.zero_le_iff.2 ⟨Float.isNaN_of_isFinite h.1, h.2⟩

/-! ### A clock that does not wrap around -/

/-- A word and its negation have the same absolute value; the least word is its own
negation, and its own absolute value. -/
theorem Int64.abs_neg (x : Int64) : (-x).abs = x.abs := by
  apply Int64.toBitVec_inj.1
  simp only [Int64.toBitVec_abs, Int64.toBitVec_neg]
  rw [BitVec.abs_eq, BitVec.abs_eq, BitVec.msb_neg, BitVec.neg_neg]
  by_cases hzero : x.toBitVec = 0#64
  · simp [hzero]
  by_cases hmin : x.toBitVec = BitVec.intMin 64
  · simp [hmin]
  cases x.toBitVec.msb <;> simp [hzero, hmin]

/-- A word not below zero is its own absolute value. -/
theorem Int64.abs_of_toInt_nonneg {x : Int64} (h : 0 ≤ x.toInt) : x.abs = x := by
  apply Int64.toBitVec_inj.1
  rw [Int64.toBitVec_abs, BitVec.abs_eq, BitVec.msb_eq_toInt, Int64.toInt_toBitVec,
    decide_eq_false (Int.not_lt.2 h), if_neg Bool.false_ne_true]

/-- Two words in order and less than a word's reach apart differ by a word not below zero. -/
theorem Int64.toInt_sub_nonneg {a b : Int64} (hab : a ≤ b)
    (hreach : b.toInt - a.toInt < Double.wordLimit) : 0 ≤ (b - a).toInt := by
  have hlimit : Double.wordLimit = 2 ^ 63 := rfl
  rw [Int64.le_iff_toInt_le] at hab
  rw [Int64.toInt_sub, Int.bmod_eq_of_le (by omega) (by omega)]
  omega

namespace State

/-- The time a state's clock shows after whole seconds in the direction of search, counted
as an integer: what the 64-bit clock shows where the sum does not wrap around. -/
def timeAfter (s : State) (n : Int) : Int :=
  if s.isArriveBy then s.time.toInt - n else s.time.toInt + n

/-- Moving the clock by whole seconds gives the integer sum when that sum is a word. -/
theorem toInt_moveTime (s : State) {n : Int} (hlo : -Double.wordLimit ≤ s.timeAfter n)
    (hhi : s.timeAfter n < Double.wordLimit) :
    (if s.isArriveBy then s.time - Int64.ofInt n else s.time + Int64.ofInt n).toInt =
      s.timeAfter n := by
  have hlimit : Double.wordLimit = 2 ^ 63 := rfl
  have hsize : ((Int64.size : Nat) : Int) = 2 ^ 64 := rfl
  unfold timeAfter at hlo hhi ⊢
  cases hab : s.isArriveBy <;> simp only [hab, Bool.false_eq_true, if_true, if_false] at hlo hhi ⊢
  · rw [Int64.toInt_add, Int64.toInt_ofInt, Int.add_bmod_bmod]
    exact Int.bmod_eq_of_le (by omega) (by omega)
  · rw [Int64.toInt_sub, Int64.toInt_ofInt, Int.sub_bmod_bmod]
    exact Int.bmod_eq_of_le (by omega) (by omega)

/-- The time under way, counted as an integer, is less than a word's reach: the subtraction
that measures the elapsed time does not wrap around. -/
def elapsedFits (s : State) : Bool :=
  decide (-Double.wordLimit < s.time.toInt - s.startTime.toInt) &&
    decide (s.time.toInt - s.startTime.toInt < Double.wordLimit)

end State

/-! ### What an edge costs -/

namespace TransitEdit

/-- The whole seconds a transit edit adds to the time. -/
def seconds : TransitEdit → Int
  | .wait s => Double.roundToWord s
  | _ => 0

/-- The weight a transit edit adds. -/
def weight? : TransitEdit → Option Float
  | .pay w => some w
  | _ => none

theorem seconds_nonneg {te : TransitEdit} (h : te.accepted = true) : 0 ≤ te.seconds := by
  cases te with
  | wait t => exact Double.roundToWord_nonneg (Editor.zero_le_of_acceptsTime h)
  | board | alight | pay => exact le_rfl

/-- Accepted transit edits add their seconds to the time, in the direction of search, and
their weights in turn. -/
theorem applyAll_cost (ed : Editor) (edits : List TransitEdit)
    (h : ∀ te ∈ edits, te.accepted = true) :
    (ed.applyAll (edits.map edit)).child.time =
        (if ed.child.isArriveBy then ed.child.time - Int64.ofInt (edits.map seconds).sum
        else ed.child.time + Int64.ofInt (edits.map seconds).sum) ∧
      (ed.applyAll (edits.map edit)).child.weight =
        (edits.filterMap weight?).foldl (· + ·) ed.child.weight ∧
      (ed.applyAll (edits.map edit)).child.startTime = ed.child.startTime := by
  induction edits generalizing ed with
  | nil => simp [Editor.applyAll]
  | cons te edits ih =>
    simp only [Editor.applyAll, List.map_cons, List.foldl_cons] at ih ⊢
    obtain ⟨htime, hweight, hstart⟩ := ih (ed.apply te.edit) fun te' hte' =>
      h te' (List.mem_cons_of_mem te hte')
    have hte := h te List.mem_cons_self
    -- an edit keeps the request, so the direction the time moves in
    have hdir : (ed.apply te.edit).child.isArriveBy = ed.child.isArriveBy := by
      cases te <;> simp [Editor.apply, edit, State.isArriveBy]
    rw [htime, hweight, hstart, hdir]
    cases hab : ed.child.isArriveBy <;> cases te <;>
      simp_all [Editor.apply, edit, seconds, weight?, accepted, List.filterMap_cons] <;> grind

end TransitEdit

namespace PathEdge

/-- The whole seconds an edge takes when crossed in the given mode. -/
def seconds (r : Request) (mode : Option TravelMode) : PathEdge → Int
  | .graph (.street e) =>
    match mode.bind r.speed with
    | some speed => Double.roundToWord (e.length / speed)
    | none => 0
  | .graph (.pickup _) => Double.roundToWord r.pickupTime
  | .graph (.dropoff _) => Double.roundToWord r.dropoffTime
  | .graph (.link _) => 0
  | .transit e => (e.edits.map TransitEdit.seconds).sum

/-- The weights an edge adds in turn when crossed in the given mode. -/
def weights (r : Request) (mode : Option TravelMode) : PathEdge → List Float
  | .graph (.street e) =>
    match mode with
    | some m => ((r.speed m).map fun speed => e.length / speed * r.reluctance m).toList
    | none => []
  | .graph (.pickup _) => [r.pickupCost]
  | .graph (.dropoff _) => [r.dropoffCost]
  | .graph (.link _) => []
  | .transit e => e.edits.filterMap TransitEdit.weight?

variable {e : PathEdge} {s s' : State}

/-- A step moves the time by the edge's seconds, forward in a depart-at search and backward
in an arrive-by one, adds the edge's weights in turn, and keeps the start time. -/
theorem cost_of_traverse (h : e.traverse s = some s') :
    s'.time = (if s.isArriveBy then s.time - Int64.ofInt (e.seconds s.request s.mode)
      else s.time + Int64.ofInt (e.seconds s.request s.mode)) ∧
    s'.weight = (e.weights s.request s.mode).foldl (· + ·) s.weight ∧
    s'.startTime = s.startTime := by
  match e, h with
  | .transit e, h =>
    obtain ⟨haccepted, rfl⟩ := TransitEdge.traverse_eq_some.1 h
    have hcost := TransitEdit.applyAll_cost (s.edit e.info) e.edits haccepted
    have hdir : (s.edit e.info).child.isArriveBy = s.isArriveBy := rfl
    rw [hdir] at hcost
    simpa [seconds, weights] using hcost
  | .graph (.street e), h =>
    obtain ⟨m, sp, hm, -, hsp, htime, hweight, -, -, rfl⟩ := StreetEdge.traverse_eq_some.1 h
    have hsec : (graph (.street e)).seconds s.request s.mode = Double.roundToWord (e.length / sp) := by
      simp [seconds, hm, hsp]
    have hw : (graph (.street e)).weights s.request s.mode = [e.length / sp * s.request.reluctance m] := by
      simp [weights, hm, hsp]
    rw [hsec, hw]
    split_ifs <;> simp_all [Editor.apply, State.isArriveBy]
  | .graph (.link e), h =>
    obtain ⟨-, -, rfl⟩ := LinkEdge.traverse_eq_some.1 h
    simp [Editor.apply, seconds, weights]
  | .graph (.pickup e), h =>
    cases hdir : s.request.direction with
    | departAt =>
      obtain ⟨-, -, -, -, hcost, htime, rfl⟩ := (PickupEdge.traverse_departAt_eq_some hdir).1 h
      cases hab : s.request.isArriveBy <;>
        simp [Editor.apply, State.isArriveBy, seconds, weights, hcost, htime, hab]
    | arriveBy =>
      obtain ⟨-, -, -, -, -, -, -, hcost, htime, rfl⟩ :=
        (PickupEdge.traverse_arriveBy_eq_some hdir).1 h
      cases hab : s.request.isArriveBy <;>
        simp [Editor.apply, State.isArriveBy, seconds, weights, hcost, htime, hab]
  | .graph (.dropoff e), h =>
    cases hdir : s.request.direction with
    | departAt =>
      obtain ⟨-, -, -, -, hcost, htime, rfl⟩ := (DropoffEdge.traverse_departAt_eq_some hdir).1 h
      cases hab : s.request.isArriveBy <;>
        simp [Editor.apply, State.isArriveBy, seconds, weights, hcost, htime, hab]
    | arriveBy =>
      obtain ⟨-, -, -, hcost, htime, rfl⟩ := (DropoffEdge.traverse_arriveBy_eq_some hdir).1 h
      cases hab : s.request.isArriveBy <;> simp [State.isArriveBy, seconds, weights, hcost, htime, hab]

/-- A step that goes through takes whole seconds not below zero: every time it adds is one
the editor took. -/
theorem seconds_nonneg (h : e.traverse s = some s') : 0 ≤ e.seconds s.request s.mode := by
  match e, h with
  | .transit e, h =>
    obtain ⟨haccepted, -⟩ := TransitEdge.traverse_eq_some.1 h
    exact List.sum_nonneg fun n hn => by
      obtain ⟨te, hte, rfl⟩ := List.mem_map.1 hn
      exact TransitEdit.seconds_nonneg (haccepted te hte)
  | .graph (.street e), h =>
    obtain ⟨m, sp, hm, -, hsp, htime, -⟩ := StreetEdge.traverse_eq_some.1 h
    simpa [seconds, hm, hsp] using
      Double.roundToWord_nonneg (Editor.zero_le_of_acceptsTime htime)
  | .graph (.link e), h => exact le_rfl
  | .graph (.pickup e), h =>
    have htime : Editor.acceptsTime s.request.pickupTime = true := by
      cases hdir : s.request.direction with
      | departAt =>
        obtain ⟨-, -, -, -, -, htime, -⟩ := (PickupEdge.traverse_departAt_eq_some hdir).1 h
        exact htime
      | arriveBy =>
        obtain ⟨-, -, -, -, -, -, -, -, htime, -⟩ := (PickupEdge.traverse_arriveBy_eq_some hdir).1 h
        exact htime
    exact Double.roundToWord_nonneg (Editor.zero_le_of_acceptsTime htime)
  | .graph (.dropoff e), h =>
    have htime : Editor.acceptsTime s.request.dropoffTime = true := by
      cases hdir : s.request.direction with
      | departAt =>
        obtain ⟨-, -, -, -, -, htime, -⟩ := (DropoffEdge.traverse_departAt_eq_some hdir).1 h
        exact htime
      | arriveBy =>
        obtain ⟨-, -, -, -, htime, -⟩ := (DropoffEdge.traverse_arriveBy_eq_some hdir).1 h
        exact htime
    exact Double.roundToWord_nonneg (Editor.zero_le_of_acceptsTime htime)

/-- The seconds and weights of an edge read the mode only where it is no loop, and of the
request not its direction. -/
theorem seconds_weights_congr {r : Request} {d d' : Direction} {m m' : Option TravelMode}
    (hm : e.isLoop = false → m = m') :
    e.seconds { r with direction := d } m = e.seconds { r with direction := d' } m' ∧
      e.weights { r with direction := d } m = e.weights { r with direction := d' } m' := by
  match e with
  | .graph (.street _) => rw [hm rfl]; exact ⟨rfl, rfl⟩
  | .graph (.pickup _) | .graph (.dropoff _) | .graph (.link _) | .transit _ => exact ⟨rfl, rfl⟩

/-! ### Steps that do not wrap around -/

/-- Crossing the edge does not wrap the state's clock around: the time it moves to, counted
as an integer, is a 64-bit word. -/
def timeFits (e : PathEdge) (s : State) : Bool :=
  decide (-Double.wordLimit ≤ s.timeAfter (e.seconds s.request s.mode)) &&
    decide (s.timeAfter (e.seconds s.request s.mode) < Double.wordLimit)

/-- A step that does not wrap around moves the clock to the integer sum. -/
theorem toInt_time_of_traverse (h : e.traverse s = some s') (hfit : e.timeFits s = true) :
    s'.time.toInt = s.timeAfter (e.seconds s.request s.mode) := by
  simp only [timeFits, Bool.and_eq_true, decide_eq_true_eq] at hfit
  rw [(cost_of_traverse h).1]
  exact s.toInt_moveTime hfit.1 hfit.2

/-- A step that does not wrap around moves the clock forward in a depart-at search and
backward in an arrive-by one. -/
theorem time_le_of_traverse (h : e.traverse s = some s') (hfit : e.timeFits s = true) :
    if s.isArriveBy then s'.time ≤ s.time else s.time ≤ s'.time := by
  have hsec := seconds_nonneg h
  have htime := toInt_time_of_traverse h hfit
  unfold State.timeAfter at htime
  split at htime <;> simp only [*, if_true, Bool.false_eq_true, if_false] <;>
    rw [Int64.le_iff_toInt_le] <;> omega

end PathEdge

namespace State

/-- No step of a run wraps the clock around; the run stops at the first edge that refuses. -/
def timeFitsAlong : State → List PathEdge → Bool
  | _, [] => true
  | s, e :: es => e.timeFits s && (e.traverse s).all fun s' => timeFitsAlong s' es

theorem timeFitsAlong_cons_of_traverse {e : PathEdge} {es : List PathEdge} {s s' : State}
    (h : e.traverse s = some s') :
    s.timeFitsAlong (e :: es) = (e.timeFits s && s'.timeFitsAlong es) := by
  simp [timeFitsAlong, h]

end State

end RentalRouting
