/-
RentalRouting/Proofs/Increments.lean

What a whole sequence of editor steps makes of a successor.  The editor keeps the first
defect it meets and takes every valid increment in order, so the steps `xs` taken on the
successor of `s` along an edge `e` finish with the defect of the first step whose value is
invalid, and otherwise with the child at the edge's far end, reached by `e` from `s`, where

    weight = (valid weights of xs).foldl (· + ·) s.weight
    walked = (valid walked distances of xs).foldl (· + ·) s.walkDistance
    time   = s.time + (rounded valid seconds of xs).sum     (minus, searching backward)

where the time is a 64-bit word, so the sum of the seconds is taken modulo `2 ^ 64`.

A rental that begins or ends starts the ridden distance over at zero, so the distance ridden
adds the valid ridden distances after the last such step to zero, or to the parent's when
no step begins or ends a rental.
-/
import Mathlib
import RentalRouting.Proofs.Editor

namespace RentalRouting

/-- The floating-point tallies of a state that editor steps add to. -/
inductive Tally where
  | weight
  | walked
  | ridden
  deriving DecidableEq

/-- The value of a tally in a state. -/
def Tally.read : Tally → State → Float
  | .weight => State.weight
  | .walked => State.walkDistance
  | .ridden => State.rentalDistance

namespace Edit

open Editor

/-- The defect a step raises on the editor of an edge: a weight that is not a number or is
negative, or a time or a distance that is not finite or is negative. -/
def defect? (edge : EdgeId) : Edit → Option Defect
  | .addWeight w => if acceptsWeight w then none else some (.weight edge w)
  | .addTime t => if acceptsTime t then none else some (.time edge t)
  | .addWalkDistance m => if validDistance m then none else some (.distance edge m)
  | .addRentalDistance m => if validDistance m then none else some (.distance edge m)
  | _ => none

/-- What a step adds to a tally: the value of a valid increment of that tally. -/
def adds? : Tally → Edit → Option Float
  | .weight, .addWeight w => if acceptsWeight w then some w else none
  | .walked, .addWalkDistance m => if validDistance m then some m else none
  | .ridden, .addRentalDistance m => if validDistance m then some m else none
  | _, _ => none

/-- The whole seconds a step moves the clock by: a valid time increment, rounded. -/
def seconds? : Edit → Option Int
  | .addTime t => if acceptsTime t then some (Double.roundToWord t) else none
  | _ => none

/-- The step begins or ends a rental, which starts the ridden distance over. -/
def restartsRide : Edit → Bool
  | .beginRenting .. | .endRenting => true
  | _ => false

/-- A tally starts over at a step when it is the ridden distance and the step begins or ends
a rental. -/
def resets (q : Tally) (x : Edit) : Bool := q == .ridden && x.restartsRide

/-- The steps after the last one that starts a tally over; all of them when none does. -/
def sinceReset (q : Tally) (xs : List Edit) : List Edit :=
  (xs.reverse.takeWhile fun x => !resets q x).reverse

theorem sinceReset_concat (q : Tally) (xs : List Edit) (x : Edit) :
    sinceReset q (xs ++ [x]) = if resets q x then [] else sinceReset q xs ++ [x] := by
  unfold sinceReset
  cases h : resets q x <;> simp [h]

/-- Only the ridden distance starts over. -/
@[simp] theorem resets_of_ne_ridden {q : Tally} (hq : q ≠ .ridden) (x : Edit) :
    resets q x = false := by
  simp [resets, hq]

@[simp] theorem resets_ridden (x : Edit) : resets .ridden x = x.restartsRide := by
  simp [resets]

theorem sinceReset_of_ne_ridden {q : Tally} (hq : q ≠ .ridden) (xs : List Edit) :
    sinceReset q xs = xs := by
  unfold sinceReset
  rw [List.takeWhile_eq_self_iff.2 fun x _ => by simp [hq], List.reverse_reverse]

end Edit

namespace Editor

variable (ed : Editor)

/-! ### One step -/

theorem flag_defect (d : Defect) : (ed.flag d).defect = ed.defect.or (some d) := by
  unfold flag
  cases h : ed.defect <;> simp [h]

@[simp] theorem flag_edge (d : Defect) : (ed.flag d).edge = ed.edge := by
  unfold flag
  split <;> rfl

@[simp] theorem apply_edge (x : Edit) : (ed.apply x).edge = ed.edge := by
  cases x <;> simp only [apply, addWeight, addTime, addWalkDistance, addRentalDistance] <;>
    first | rfl | split <;> simp [update]

/-- A step records its own defect unless one is recorded already. -/
theorem defect_apply (x : Edit) : (ed.apply x).defect = ed.defect.or (x.defect? ed.edge) := by
  cases x with
  | addWeight w =>
    simp only [apply, addWeight, Edit.defect?, acceptsWeight]
    split
    · next h => simp only [h, Bool.not_true, Bool.false_eq_true, if_false, flag_defect]
    · next h =>
      simp only [Bool.eq_false_iff.mpr h, Bool.not_false, if_true, update_defect, Option.or_none]
  | addTime t =>
    simp only [apply, addTime, Edit.defect?, acceptsTime]
    split
    · next h => simp only [h, Bool.not_true, Bool.false_eq_true, if_false, flag_defect]
    · next h =>
      simp only [Bool.eq_false_iff.mpr h, Bool.not_false, if_true, update_defect, Option.or_none]
  | addWalkDistance m =>
    simp only [apply, addWalkDistance, Edit.defect?]
    cases h : validDistance m <;> simp [flag_defect]
  | addRentalDistance m =>
    simp only [apply, addRentalDistance, Edit.defect?]
    cases h : validDistance m <;> simp [flag_defect]
  | _ => simp [apply, Edit.defect?]

@[simp] theorem apply_request (x : Edit) : (ed.apply x).child.request = ed.child.request := by
  cases x <;> simp [apply]

@[simp] theorem apply_isArriveBy (x : Edit) :
    (ed.apply x).child.isArriveBy = ed.child.isArriveBy := by
  simp [State.isArriveBy]

/-- A step adds the value of its valid increment to its tally, or starts the ridden distance
over; every other tally keeps its value. -/
theorem read_apply (q : Tally) (x : Edit) :
    q.read (ed.apply x).child =
      if Edit.resets q x then 0 else (x.adds? q).elim (q.read ed.child) (q.read ed.child + ·) := by
  -- each step touches one tally at most: its own increment's, or the ridden distance where a
  -- rental begins or ends
  cases q <;> cases x <;> simp [apply, Tally.read, Edit.adds?, Edit.resets, Edit.restartsRide] <;>
    split <;> simp [*]

/-- A step moves the clock by its valid seconds, backward in an arrive-by search. -/
theorem time_apply (x : Edit) :
    (ed.apply x).child.time =
      if ed.child.isArriveBy then ed.child.time - Int64.ofInt (x.seconds?.getD 0)
      else ed.child.time + Int64.ofInt (x.seconds?.getD 0) := by
  cases x with
  | addTime t =>
    simp only [apply, addTime_child, Edit.seconds?]
    split <;> simp
  | _ => simp [apply, Edit.seconds?]

/-! ### A sequence of steps -/

variable (xs : List Edit)

theorem applyAll_concat (x : Edit) : ed.applyAll (xs ++ [x]) = (ed.applyAll xs).apply x := by
  simp [applyAll, List.foldl_append]

@[simp] theorem applyAll_edge : (ed.applyAll xs).edge = ed.edge := by
  induction xs generalizing ed with
  | nil => rfl
  | cons x xs ih => rw [applyAll_cons, ih, apply_edge]

@[simp] theorem applyAll_isArriveBy : (ed.applyAll xs).child.isArriveBy = ed.child.isArriveBy := by
  induction xs generalizing ed with
  | nil => rfl
  | cons x xs ih => rw [applyAll_cons, ih, apply_isArriveBy]

/-- The editor keeps the defect it had, or else takes that of the first step that raises
one. -/
theorem defect_applyAll :
    (ed.applyAll xs).defect = ed.defect.or (xs.findSome? (Edit.defect? ed.edge)) := by
  induction xs generalizing ed with
  | nil => simp [applyAll]
  | cons x xs ih =>
    rw [applyAll_cons, ih, defect_apply, apply_edge, List.findSome?_cons]
    cases x.defect? ed.edge <;> simp

/-- A tally adds up the valid increments after its last start-over, in order, to zero, or to
its value before the steps when it never starts over. -/
theorem read_applyAll (q : Tally) :
    q.read (ed.applyAll xs).child =
      ((Edit.sinceReset q xs).filterMap (Edit.adds? q)).foldl (· + ·)
        (if xs.any (Edit.resets q) then 0 else q.read ed.child) := by
  induction xs using List.reverseRecOn with
  | nil => simp [applyAll, Edit.sinceReset]
  | append_singleton xs x ih =>
    rw [applyAll_concat, read_apply, ih, Edit.sinceReset_concat, List.any_append]
    cases hx : Edit.resets q x
    · -- the step adds its increment, if any, after the others
      cases hadd : x.adds? q <;> simp [hx, hadd, List.filterMap_append, List.foldl_append]
    · simp [hx]

/-- The weight adds the valid weights in order. -/
theorem weight_applyAll :
    (ed.applyAll xs).child.weight = (xs.filterMap (Edit.adds? .weight)).foldl (· + ·) ed.child.weight := by
  simpa [Tally.read, Edit.sinceReset_of_ne_ridden, Edit.resets] using read_applyAll ed xs .weight

/-- The walked distance adds the valid walked distances in order. -/
theorem walkDistance_applyAll :
    (ed.applyAll xs).child.walkDistance =
      (xs.filterMap (Edit.adds? .walked)).foldl (· + ·) ed.child.walkDistance := by
  simpa [Tally.read, Edit.sinceReset_of_ne_ridden, Edit.resets] using read_applyAll ed xs .walked

/-- The ridden distance adds the valid ridden distances after the last step that begins or
ends a rental, to zero, or to the distance before the steps when none does. -/
theorem rentalDistance_applyAll :
    (ed.applyAll xs).child.rentalDistance =
      ((Edit.sinceReset .ridden xs).filterMap (Edit.adds? .ridden)).foldl (· + ·)
        (if xs.any Edit.restartsRide then 0 else ed.child.rentalDistance) := by
  simpa [Tally.read, Edit.resets] using read_applyAll ed xs .ridden

/-- The clock moves by the sum of the valid seconds, backward in an arrive-by search. -/
theorem time_applyAll :
    (ed.applyAll xs).child.time =
      if ed.child.isArriveBy then ed.child.time - Int64.ofInt (xs.filterMap Edit.seconds?).sum
      else ed.child.time + Int64.ofInt (xs.filterMap Edit.seconds?).sum := by
  induction xs generalizing ed with
  | nil => simp [applyAll]
  | cons x xs ih =>
    rw [applyAll_cons, ih, time_apply, apply_isArriveBy, List.filterMap_cons]
    -- words add up like the integers they wrap
    cases x.seconds? <;> split <;> simp <;> grind

/-- The editor makes the child exactly when it finishes without a defect. -/
theorem make_eq_toOption : ed.make = ed.finish.toOption := by
  unfold make
  cases ed.finish <;> rfl

theorem finish_of_defect {d : Defect} (h : ed.defect = some d) : ed.finish = .error d := by
  simp [finish, h]

theorem finish_of_no_defect (h : ed.defect = none) : ed.finish = .ok ed.child := by
  simp [finish, h]

end Editor

/-! ### The successor along an edge -/

open Editor in
/-- The successor that steps build along an edge from a state.  The editor answers the
defect of the first step whose increment is invalid, whatever steps follow, and makes no
state.  Without one it makes the child at the edge's far end (its source searching backward,
its target forward), reached by the edge from the state: its weight and walked distance add
the valid increments to the state's in order, its clock moves by the valid seconds (backward
in an arrive-by search), and its ridden distance adds the valid ridden distances after the
last step that begins or ends a rental to zero, or to the state's when no step does. -/
theorem successor_of_edits (s : State) (e : EdgeInfo) (xs : List Edit) :
    let ed := (s.edit e).applyAll xs
    ed.make = ed.finish.toOption ∧
    match xs.findSome? (Edit.defect? e.id) with
    | some d => ed.finish = .error d
    | none => ∃ c, ed.finish = .ok c ∧
        c.vertex = (if s.isArriveBy then e.source else e.target) ∧
        c.backEdge = some ⟨e.id, e.kind⟩ ∧ c.back = some s ∧
        c.weight = (xs.filterMap (Edit.adds? .weight)).foldl (· + ·) s.weight ∧
        c.walkDistance = (xs.filterMap (Edit.adds? .walked)).foldl (· + ·) s.walkDistance ∧
        c.rentalDistance = ((Edit.sinceReset .ridden xs).filterMap (Edit.adds? .ridden)).foldl
          (· + ·) (if xs.any Edit.restartsRide then 0 else s.rentalDistance) ∧
        c.time = (if s.isArriveBy then s.time - Int64.ofInt (xs.filterMap Edit.seconds?).sum
          else s.time + Int64.ofInt (xs.filterMap Edit.seconds?).sum) := by
  intro ed
  have hdefect : ed.defect = xs.findSome? (Edit.defect? e.id) := by
    simp [ed, defect_applyAll]
  refine ⟨make_eq_toOption ed, ?_⟩
  cases hfirst : xs.findSome? (Edit.defect? e.id) with
  | some d => exact finish_of_defect ed (hdefect.trans hfirst)
  | none =>
    -- no step raised a defect: the child is the answer, and each tally is read off the steps
    obtain ⟨hv, he, hb⟩ := applyAll_position (s.edit e) xs
    refine ⟨ed.child, finish_of_no_defect ed (hdefect.trans hfirst), ?_, ?_, ?_,
      weight_applyAll (s.edit e) xs, walkDistance_applyAll (s.edit e) xs,
      rentalDistance_applyAll (s.edit e) xs, ?_⟩
    · simpa using hv
    · simpa using he
    · simpa using hb
    · have htime := time_applyAll (s.edit e) xs
      simp only [edit_child, State.isArriveBy] at htime
      exact htime

/-- Ending a rental starts the ridden distance over: from the first state of a search, a
valid ridden distance of 5 m and then the end of a rental give a successor that has ridden
nothing, not the state's distance plus the 5 m added. -/
theorem ride_starts_over_when_rental_ends :
    let s := State.origin 10 0 {}
    ∃ c, ((s.edit ⟨1, .street, 10, 20⟩).applyAll [.addRentalDistance 5, .endRenting]).finish =
        .ok c ∧ c.rentalDistance = 0 ∧ c.rentalDistance ≠ s.rentalDistance + 5 := by
  intro s
  have hfirst : [Edit.addRentalDistance 5, .endRenting].findSome? (Edit.defect? 1) = none :=
    Option.isNone_iff_eq_none.1 (by decide +kernel)
  have hdefect := Editor.defect_applyAll (s.edit ⟨1, .street, 10, 20⟩)
    [.addRentalDistance 5, .endRenting]
  rw [Editor.edit_defect, Editor.edit_edge, hfirst] at hdefect
  exact ⟨_, Editor.finish_of_no_defect _ hdefect, rfl, by decide +kernel⟩

end RentalRouting
