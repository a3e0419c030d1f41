/-
RentalRouting/Proofs/Progress.lean

The checks a successor state is made under hold for every request, however degenerate its
costs, times, speeds and reluctances.  The editor takes only weights that are numbers and
not negative, and times and distances that are finite and not negative; an increment it
refuses changes nothing.  So every state a search reaches has a weight and distances not
below zero (`State.Sound`), and every edge takes it to a successor that advances
(`State.Advances`):

    s.Reachable → e.traverse s = some s' →
      s.weight ≤ s'.weight ∧ s.walkDistance ≤ s'.walkDistance

The clock is a 64-bit word and a step's sum may wrap around it; a step whose sum does not
(`PathEdge.timeFits`) moves the clock with the search, since the whole seconds of a time the
editor takes are not below zero (`Proofs/Cost`).  The asserts together are
`state_asserts_hold`; the float facts are those of `Proofs/FloatOrder`.
-/
import RentalRouting.Proofs.Cost

namespace RentalRouting

/-! ### What the editor lets through -/

namespace Editor

theorem zero_le_of_acceptsWeight {w : Float} (h : acceptsWeight w = true) : 0 ≤ w := by
  simp only [acceptsWeight, Bool.not_eq_true', Bool.or_eq_false_iff, decide_eq_false_iff_not] at h
  exact Float.zero_le_iff.2 h

theorem zero_le_of_validDistance {m : Float} (h : validDistance m = true) : 0 ≤ m := by
  simp only [validDistance, Bool.and_eq_true, decide_eq_true_eq] at h
  exact h.2

end Editor

/-! ### The asserts -/

namespace State

/-- What the asserts ask of a search state: a weight and distances that are numbers and not
below zero. -/
structure Sound (s : State) : Prop where
  weight : 0 ≤ s.weight
  walkDistance : 0 ≤ s.walkDistance
  rentalDistance : 0 ≤ s.rentalDistance

theorem sound_origin (vertex : VertexId) (time : Int64) (request : Request) :
    (origin vertex time request).Sound :=
  have h : (0 : Float) ≤ 0 := Float.le_refl rfl
  ⟨h, h, h⟩

/-- What the asserts ask of a successor against the state it comes from: the same request,
a weight no lower, a walked distance no shorter, and a ridden distance not below zero. -/
structure Advances (s c : State) : Prop where
  request : c.request = s.request
  weight : s.weight ≤ c.weight
  walkDistance : s.walkDistance ≤ c.walkDistance
  rentalDistance : 0 ≤ c.rentalDistance

variable {s c : State}

/-- A successor of a sound state is sound. -/
theorem Advances.sound (hs : s.Sound) (h : s.Advances c) : c.Sound :=
  ⟨Float.le_trans hs.weight h.weight, Float.le_trans hs.walkDistance h.walkDistance,
    h.rentalDistance⟩

/-- A successor that changes none of what the asserts read still advances. -/
theorem Advances.of_eq {c' : State} (h : s.Advances c) (hr : c'.request = c.request)
    (hw : c'.weight = c.weight) (hwalk : c'.walkDistance = c.walkDistance)
    (hride : c'.rentalDistance = c.rentalDistance) : s.Advances c' :=
  ⟨hr.trans h.request, hw ▸ h.weight, hwalk ▸ h.walkDistance, hride ▸ h.rentalDistance⟩

/-! ### Each editor step -/

open Editor

section Steps

variable (hs : s.Sound)
include hs

/-- Starting a successor changes nothing the asserts read. -/
theorem advances_edit (e : EdgeInfo) : s.Advances (s.edit e).child := by
  have hnan := Float.isNaN_of_le hs.weight
  have hwalk := Float.isNaN_of_le hs.walkDistance
  exact ⟨rfl, Float.le_refl hnan.2, Float.le_refl hwalk.2, hs.rentalDistance⟩

/-- Every editor step keeps a successor advancing: an increment the editor refuses changes
nothing, and one it takes is not below zero. -/
theorem Advances.apply {ed : Editor} (h : s.Advances ed.child) (x : Edit) :
    s.Advances (ed.apply x).child := by
  have hzero : (0 : Float) ≤ 0 := Float.le_refl rfl
  cases x with
  | addWeight w =>
    simp only [Editor.apply, addWeight_child]
    refine ⟨h.request, ?_, h.walkDistance, h.rentalDistance⟩
    split
    · next hw => exact Float.le_add_of_le hs.weight h.weight (zero_le_of_acceptsWeight hw)
    · exact h.weight
  | addWalkDistance m =>
    simp only [Editor.apply, addWalkDistance_child]
    refine ⟨h.request, h.weight, ?_, h.rentalDistance⟩
    split
    · next hm =>
      exact Float.le_add_of_le hs.walkDistance h.walkDistance (zero_le_of_validDistance hm)
    · exact h.walkDistance
  | addRentalDistance m =>
    simp only [Editor.apply, addRentalDistance_child]
    refine ⟨h.request, h.weight, h.walkDistance, ?_⟩
    split
    · next hm => exact Float.add_nonneg h.rentalDistance (zero_le_of_validDistance hm)
    · exact h.rentalDistance
  | beginRenting | endRenting =>
    -- a rental's distance starts over at zero
    exact ⟨h.request, h.weight, h.walkDistance, hzero⟩
  | addTime t =>
    -- the clock is none of the business of the asserts on weights and distances
    simp only [Editor.apply, addTime_child]
    exact h.of_eq rfl rfl rfl rfl
  | setBackMode | setMode | setKind | addRentedVehicle | boardTrip | alightTrip =>
    exact h.of_eq rfl rfl rfl rfl

theorem Advances.applyAll {ed : Editor} (h : s.Advances ed.child) (xs : List Edit) :
    s.Advances (ed.applyAll xs).child := by
  induction xs generalizing ed with
  | nil => exact h
  | cons x xs ih => exact ih (h.apply hs x)

end Steps

end State

namespace PathEdge

open State

/-- Every edge takes a sound state to a successor that advances: each edge's successor is
the child of the editor steps it takes. -/
theorem advances_of_traverse {e : PathEdge} {s s' : State} (hs : s.Sound)
    (h : e.traverse s = some s') : s.Advances s' := by
  obtain ⟨edits, rfl⟩ := exists_edits_of_traverse h
  exact (advances_edit hs _).applyAll hs edits

end PathEdge

/-! ### Every search -/

/-- Every state a search reaches is sound. -/
theorem State.Reachable.sound {s : State} (h : s.Reachable) : s.Sound := by
  induction h with
  | origin vertex time request => exact State.sound_origin vertex time request
  | step e _ hstep ih => exact (PathEdge.advances_of_traverse ih hstep).sound ih

/-- The state asserts hold in every search, whatever the request: a state the search reaches
has walked and ridden distances that are numbers and not negative, and every edge taken from
it leads to a state whose weight is a number no lower than before and whose walked distance
is no shorter.  Where the step's sum does not wrap the 64-bit clock around, its time has
moved with the search: forward in a depart-at search, backward in an arrive-by one. -/
theorem state_asserts_hold {s : State} (hs : s.Reachable) :
    (s.walkDistance.isNaN = false ∧ ¬ s.walkDistance < 0) ∧
      (s.rentalDistance.isNaN = false ∧ ¬ s.rentalDistance < 0) ∧
      ∀ (e : PathEdge) (s' : State), e.traverse s = some s' →
        s'.weight.isNaN = false ∧ s.weight ≤ s'.weight ∧
          (e.timeFits s = true → if s.isArriveBy then s'.time ≤ s.time else s.time ≤ s'.time) ∧
          s.walkDistance ≤ s'.walkDistance := by
  have hsound := hs.sound
  refine ⟨Float.zero_le_iff.1 hsound.walkDistance, Float.zero_le_iff.1 hsound.rentalDistance,
    ?_⟩
  intro e s' h
  have hadv := PathEdge.advances_of_traverse hsound h
  exact ⟨(Float.isNaN_of_le (hadv.sound hsound).weight).2, hadv.weight,
    PathEdge.time_le_of_traverse h, hadv.walkDistance⟩

/-- After the sample ride's pick-up, renting, the street it rides next keeps the asserts: the
weight goes up, the clock goes forward without wrapping around, and the walked distance stays. -/
theorem sampleRide_asserts_hold_after_pickup :
    ∃ s s', (State.origin 1 0 sampleRequest).run (sampleRide.take 1) = some s ∧
      sampleRide[1].traverse s = some s' ∧ s.rental.renting = true ∧
      s'.weight.isNaN = false ∧ s.weight ≤ s'.weight ∧ s.time ≤ s'.time ∧
      s.walkDistance ≤ s'.walkDistance := by
  let first := (State.origin 1 0 sampleRequest).run (sampleRide.take 1)
  obtain ⟨s, hs⟩ := Option.isSome_iff_exists.1 (by decide +kernel : first.isSome)
  obtain ⟨s', hs'⟩ := Option.isSome_iff_exists.1
    (by decide +kernel : (first.bind sampleRide[1].traverse).isSome)
  have hfacts : first.map (fun s => (s.rental.renting, s.isArriveBy, sampleRide[1].timeFits s)) =
      some (true, false, true) := by decide +kernel
  rw [hs, Option.bind_some] at hs'
  rw [hs, Option.map_some, Option.some.injEq, Prod.mk.injEq, Prod.mk.injEq] at hfacts
  obtain ⟨hrent, hdir, hfit⟩ := hfacts
  obtain ⟨-, -, hstep⟩ := state_asserts_hold ((State.Reachable.origin 1 0 sampleRequest).run hs)
  obtain ⟨hnan, hw, htime, hwalk⟩ := hstep sampleRide[1] s' hs'
  have hforward := htime hfit
  rw [hdir, if_neg Bool.false_ne_true] at hforward
  exact ⟨s, s', hs, hs', hrent, hnan, hw, hforward, hwalk⟩

end RentalRouting
