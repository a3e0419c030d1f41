/-
RentalRouting/Proofs/Symmetry.lean

The forward and the backward search of one request along one path, the backward one over
the path reversed (`forward_backward_symmetry`).  Where the search starts in a mode, the
rental loops of the path alternate from a pick-up to a drop-off, each rental is ridden in
one mode, and no loop has boardings on both sides, the forward search goes through the path
exactly when the backward one does, except for the distance ridden, which the two check on
sums taken in opposite orders: each search going through, with every ride long enough as
the other checks it, is the same condition.

When both go through, every edge costs them the same: an edge adds whole seconds to the
time, forward in a depart-at search and backward in an arrive-by one, and weights in turn,
all read off the edge, the request and the mode (`PathEdge.cost_of_traverse`); the two
searches take every edge that is not a loop in the same mode, so each edge moves their times
by opposite amounts and adds the same weights, and the two take the same time in all.

Without its conditions the symmetry fails, each in its own way
(`searches_disagree_without_conditions`).
-/
import RentalRouting.Proofs.Cost
import RentalRouting.Proofs.Reversal

namespace RentalRouting

namespace State

/-- A run keeps the start time. -/
theorem startTime_of_run {s t : State} {es : List PathEdge} (h : s.run es = some t) :
    t.startTime = s.startTime := by
  induction es generalizing s with
  | nil => cases h; rfl
  | cons e es ih =>
    obtain ⟨u, hu, hrest⟩ := run_cons_eq_some.1 h
    rw [ih hrest, (PathEdge.cost_of_traverse hu).2.2]

/-- Two runs along a path, one over it and one over its reverse, whose steps at each edge
move the time by opposite amounts, move it by opposite amounts in all. -/
theorem time_opposite_of_steps {s s' t t' : State} {es : List PathEdge}
    (ht : s.run es = some t) (ht' : s'.run es.reverse = some t')
    (hstep : ∀ es₁ e es₂ u v u' v', es = es₁ ++ e :: es₂ → s.run es₁ = some u →
      s'.run es₂.reverse = some v → e.traverse u = some u' → e.traverse v = some v' →
      u'.time - u.time = v.time - v'.time) :
    t.time - s.time = s'.time - t'.time := by
  induction es generalizing s t' with
  | nil =>
    cases ht
    cases ht'
    simp
  | cons e es ih =>
    obtain ⟨s₁, hs₁, hrest⟩ := run_cons_eq_some.1 ht
    obtain ⟨w, hw, hlast⟩ := run_append_eq_some.1 (by simpa using ht')
    rw [run_singleton] at hlast
    -- the first edge is the last one backward; the rest telescopes
    have hfirst := hstep [] e es s w s₁ t' rfl rfl hw hs₁ hlast
    have hrest' := ih hrest hw fun es₁ e' es₂ u v u' v' hsplit hu =>
      hstep (e :: es₁) e' es₂ u v u' v' (by rw [hsplit, List.cons_append])
        (run_cons_eq_some.2 ⟨s₁, hs₁, hu⟩)
    grind

end State

/-! ### The two searches along one path -/

section Both

variable {r : Request} {es es₁ es₂ : List PathEdge} {e : PathEdge} {v₀ vₙ : VertexId}
  {T T' : Int64} {u v : State}

/-- Where the forward search goes through the path, every ride is long enough as the forward
search checks it. -/
theorem ridesLongEnough_of_forward
    (hfwd : ((State.origin v₀ T { r with direction := .departAt }).run es).isSome) :
    RidesLongEnough false r.minimumRentalDistance es := by
  intro es₁ p mid d es₂ hsplit hmid hb
  exact (State.episodeRules_of_forward rfl hfwd hsplit hmid).distance hb (.inl rfl)

/-- Where the backward search goes through the path in reverse, every ride is long enough as
the backward search checks it. -/
theorem ridesLongEnough_of_backward
    (hbwd : ((State.origin vₙ T' { r with direction := .arriveBy }).run es.reverse).isSome) :
    RidesLongEnough true r.minimumRentalDistance es := by
  intro es₁ p mid d es₂ hsplit hmid hb
  have hshort := (State.episodeRules_of_backward rfl hbwd hsplit hmid).2 hb
  simpa [rideLongEnough, streetLengths_reverse] using hshort

/-- Where both searches go through the path, they take each edge from the states the rest
of the path leads them to, moving the time by opposite amounts and adding the same weights
in turn: the edge costs what it costs in its mode, and the two take it in one mode unless it
is a loop, which costs the same in every mode. -/
theorem step_costs_at_split {m₀ : TravelMode} (hmode : r.initialMode = some m₀)
    (halt : RentalsAlternate es) (hride : RidesInOneMode es)
    (hfwd : ((State.origin v₀ T { r with direction := .departAt }).run es).isSome)
    (hbwd : ((State.origin vₙ T' { r with direction := .arriveBy }).run es.reverse).isSome)
    (hsplit : es = es₁ ++ e :: es₂)
    (hu : (State.origin v₀ T { r with direction := .departAt }).run es₁ = some u)
    (hv : (State.origin vₙ T' { r with direction := .arriveBy }).run es₂.reverse = some v) :
    ∃ (u' v' : State) (ws : List Float), e.traverse u = some u' ∧ e.traverse v = some v' ∧
      u'.time - u.time = v.time - v'.time ∧
      u'.weight = ws.foldl (· + ·) u.weight ∧ v'.weight = ws.foldl (· + ·) v.weight := by
  obtain ⟨u₁, u', hu₁, hu'⟩ := State.exists_step_of_run_isSome hfwd hsplit
  obtain ⟨v₁, v', hv₁, hv'⟩ := State.exists_step_of_run_isSome hbwd
    (by simp [hsplit] : es.reverse = es₂.reverse ++ e :: es₁.reverse)
  obtain rfl := Option.some.inj (hu₁.symm.trans hu)
  obtain rfl := Option.some.inj (hv₁.symm.trans hv)
  have hqu : u₁.request = { r with direction := .departAt } := State.request_of_run hu
  have hqv : v₁.request = { r with direction := .arriveBy } := State.request_of_run hv
  have hcosts : e.seconds u₁.request u₁.mode = e.seconds v₁.request v₁.mode ∧
      e.weights u₁.request u₁.mode = e.weights v₁.request v₁.mode := by
    rw [hqu, hqv]
    exact PathEdge.seconds_weights_congr fun he => mode_at_split hmode halt hride hsplit he hu hv
  obtain ⟨htu, hwu, -⟩ := PathEdge.cost_of_traverse hu'
  obtain ⟨htv, hwv, -⟩ := PathEdge.cost_of_traverse hv'
  -- forward the time goes up by the edge's seconds, backward down by as many
  have hau : u₁.isArriveBy = false := by rw [State.isArriveBy, hqu]; rfl
  have hav : v₁.isArriveBy = true := by rw [State.isArriveBy, hqv]; rfl
  simp only [hau, hav, Bool.false_eq_true, if_false, if_true] at htu htv
  refine ⟨u', v', e.weights u₁.request u₁.mode, hu', hv', ?_, hwu, ?_⟩
  · rw [htu, htv, hcosts.1]
    grind
  · rw [hwv, hcosts.2]

/-- The forward search of a request along a path and the backward search of it along the
path reversed.  Where the search starts in a mode, the rental loops alternate from a pick-up
to a drop-off, each rental is ridden in one mode and no loop has boardings on both sides:

* the forward search goes through with every ride long enough as the backward search checks
  it exactly when the backward one goes through with every ride long enough as the forward
  search checks it;
* where both go through, they take every edge that is not a loop in the same mode, and each
  edge moves their times by opposite amounts and adds the same weights in turn, so the two
  take the same time in all. -/
theorem forward_backward_symmetry {m₀ : TravelMode} (hmode : r.initialMode = some m₀)
    (halt : RentalsAlternate es) (hride : RidesInOneMode es) (hboard : BoardingsTogether es) :
    (((State.origin v₀ T { r with direction := .departAt }).run es).isSome ∧
        RidesLongEnough true r.minimumRentalDistance es ↔
      ((State.origin vₙ T' { r with direction := .arriveBy }).run es.reverse).isSome ∧
        RidesLongEnough false r.minimumRentalDistance es) ∧
    ∀ t t', (State.origin v₀ T { r with direction := .departAt }).run es = some t →
      (State.origin vₙ T' { r with direction := .arriveBy }).run es.reverse = some t' →
      (∀ es₁ e es₂ u v, es = es₁ ++ e :: es₂ →
        (State.origin v₀ T { r with direction := .departAt }).run es₁ = some u →
        (State.origin vₙ T' { r with direction := .arriveBy }).run es₂.reverse = some v →
        (e.isLoop = false → u.mode = v.mode) ∧
        ∃ (u' v' : State) (ws : List Float), e.traverse u = some u' ∧ e.traverse v = some v' ∧
          u'.time - u.time = v.time - v'.time ∧
          u'.weight = ws.foldl (· + ·) u.weight ∧ v'.weight = ws.foldl (· + ·) v.weight) ∧
      t.elapsed = t'.elapsed := by
  refine ⟨⟨fun ⟨hfwd, hlong⟩ => ?_, fun ⟨hbwd, hlong⟩ => ?_⟩, fun t t' ht ht' => ?_⟩
  · exact ⟨backward_run_of_forward hmode halt hride hboard hlong hfwd,
      ridesLongEnough_of_forward hfwd⟩
  · exact ⟨forward_run_of_backward hmode halt hride hboard hlong hbwd,
      ridesLongEnough_of_backward hbwd⟩
  have hfwd := Option.isSome_iff_exists.2 ⟨t, ht⟩
  have hbwd := Option.isSome_iff_exists.2 ⟨t', ht'⟩
  refine ⟨fun es₁ e es₂ u v hsplit hu hv =>
    ⟨fun he => mode_at_split hmode halt hride hsplit he hu hv,
      step_costs_at_split hmode halt hride hfwd hbwd hsplit hu hv⟩, ?_⟩
  -- the steps' opposite moves telescope over the whole path
  have htime := State.time_opposite_of_steps ht ht'
    fun es₁ e es₂ u v u' v' hsplit hu hv hu' hv' => by
      obtain ⟨u'', v'', -, hu'', hv'', hdt, -⟩ :=
        step_costs_at_split hmode halt hride hfwd hbwd hsplit hu hv
      obtain rfl := Option.some.inj (hu''.symm.trans hu')
      obtain rfl := Option.some.inj (hv''.symm.trans hv')
      exact hdt
  have hst : t.startTime = T := State.startTime_of_run ht
  have hst' : t'.startTime = T' := State.startTime_of_run ht'
  have hopp : t.time - t.startTime = -(t'.time - t'.startTime) := by
    rw [hst, hst']
    simp only [State.origin] at htime
    grind
  rw [State.elapsed, State.elapsed, hopp, Int64.abs_neg]

end Both

/-- The sample ride meets every condition: the search starts walking, and the ride boards
nowhere and runs from a pick-up to a drop-off of vehicles of one mode. -/
theorem sampleRide_searched_both_ways :
    RentalsAlternate sampleRide ∧ RidesInOneMode sampleRide ∧ BoardingsTogether sampleRide ∧
      (((State.origin 1 0 { sampleRequest with direction := .departAt }).run sampleRide).isSome ∧
          RidesLongEnough true sampleRequest.minimumRentalDistance sampleRide ↔
        ((State.origin 2 0 { sampleRequest with direction := .arriveBy }).run
            sampleRide.reverse).isSome ∧
          RidesLongEnough false sampleRequest.minimumRentalDistance sampleRide) := by
  have halt : RentalsAlternate sampleRide := by decide
  have hride : RidesInOneMode sampleRide := RidesInOneMode.of_travelMode (m := .micromobility)
    (by intro p hp; simp [sampleRide] at hp; rw [hp]; rfl)
    (by intro d hd; simp [sampleRide] at hd; rw [hd]; rfl)
  have hboard : BoardingsTogether sampleRide := BoardingsTogether.of_boards_eq_false (by decide)
  exact ⟨halt, hride, hboard, (forward_backward_symmetry rfl halt hride hboard).1⟩

/-! ### Without the conditions -/

/-- A request that may walk, ride micromobility and rent. -/
def rentalRequest : Request :=
  { allowRental := true, modes := { walk := true, micromobility := true } }

/-- The rental request, for rides of at least 10¹⁶ + 2 meters. -/
def longRideRequest : Request := { rentalRequest with minimumRentalDistance := 10000000000000002 }

/-- A bicycle ridden along a street of 10¹⁶ meters and two of a meter. -/
def longRide : List PathEdge :=
  [.graph (.pickup ⟨10, 1, { sampleStationA with kind := .bicycle }⟩),
   .graph (.street ⟨20, 1, 2, 10000000000000000, { walk := true, micromobility := true }⟩),
   .graph (.street ⟨21, 1, 2, 1, { walk := true, micromobility := true }⟩),
   .graph (.street ⟨22, 1, 2, 1, { walk := true, micromobility := true }⟩),
   .graph (.dropoff ⟨11, 2, { sampleStationB with kind := .bicycle }⟩)]

/-- A vehicle of unknown kind, ridden as micromobility, left where cars are. -/
def mixedRide : List PathEdge :=
  [.graph (.pickup ⟨10, 1, sampleStationA⟩),
   .graph (.street ⟨20, 1, 2, 1000, { micromobility := true }⟩),
   .graph (.dropoff ⟨11, 2, { sampleStationB with kind := .car }⟩)]

/-- A request that may only take transit, and rent. -/
def transitRequest : Request := { allowRental := true, modes := { transit := true } }

/-- A bicycle ridden from one station to the other, then a walk. -/
def rideThenWalk : List PathEdge :=
  [.graph (.pickup ⟨10, 1, { sampleStationA with kind := .bicycle }⟩),
   .graph (.street ⟨20, 1, 2, 1000, { walk := true, micromobility := true }⟩),
   .graph (.dropoff ⟨11, 2, { sampleStationB with kind := .bicycle }⟩),
   .graph (.street ⟨21, 2, 3, 1000, { walk := true }⟩)]

/-- A boarding, a rental, a second boarding and a second rental. -/
def boardTwiceRide : List PathEdge :=
  [.transit ⟨99, 1, 1, [.board "trip" "route" "pattern" ⟨2020, 9, 13⟩]⟩,
   .graph (.pickup ⟨10, 1, { sampleStationA with kind := .bicycle }⟩),
   .graph (.dropoff ⟨11, 2, { sampleStationB with kind := .bicycle }⟩),
   .transit ⟨98, 2, 2, [.board "trip" "route" "pattern" ⟨2020, 9, 13⟩]⟩,
   .graph (.pickup ⟨12, 2, { sampleStationA with id := "c", kind := .bicycle }⟩),
   .graph (.dropoff ⟨13, 2, { sampleStationB with id := "d", kind := .bicycle }⟩)]

/-- Whether a path goes through forward from its first vertex and backward from its last. -/
def searchesGoThrough (r : Request) (v₀ vₙ : VertexId) (path : List PathEdge) : Bool × Bool :=
  (((State.origin v₀ 0 { r with direction := .departAt }).run path).isSome,
    ((State.origin vₙ 0 { r with direction := .arriveBy }).run path.reverse).isSome)

/-- Without its conditions the symmetry fails, on paths whose loops alternate.  With every
other condition met, the forward search refuses a ride whose lengths sum below the minimum
in travel order and reach it in reverse, where the backward search takes it.  A ride from a
pick-up of one mode to a drop-off of another goes through forward only; so does a ride for a
request that starts in no mode, which backward rides on in no mode.  Boardings on both sides
of a loop let the backward search take a second rental the forward one refuses. -/
theorem searches_disagree_without_conditions :
    (rentalRequest.initialMode = some .walk ∧ RentalsAlternate longRide ∧
      RidesInOneMode longRide ∧ BoardingsTogether longRide ∧
      ¬ RidesLongEnough false longRideRequest.minimumRentalDistance longRide ∧
      searchesGoThrough longRideRequest 1 2 longRide = (false, true)) ∧
    (RentalsAlternate mixedRide ∧ ¬ RidesInOneMode mixedRide ∧
      searchesGoThrough rentalRequest 1 2 mixedRide = (true, false)) ∧
    (transitRequest.initialMode = none ∧ RentalsAlternate rideThenWalk ∧
      searchesGoThrough transitRequest 1 3 rideThenWalk = (true, false)) ∧
    (RentalsAlternate boardTwiceRide ∧ ¬ BoardingsTogether boardTwiceRide ∧
      searchesGoThrough rentalRequest 1 2 boardTwiceRide = (false, true)) := by
  refine ⟨⟨rfl, by decide, ?_, ?_, ?_, by decide +kernel⟩, ⟨by decide, ?_, by decide +kernel⟩,
    ⟨rfl, by decide, by decide +kernel⟩, ⟨by decide, ?_, by decide +kernel⟩⟩
  · exact RidesInOneMode.of_travelMode (m := .micromobility)
      (by intro p hp; simp [longRide] at hp; rw [hp]; rfl)
      (by intro d hd; simp [longRide] at hd; rw [hd]; rfl)
  · exact BoardingsTogether.of_boards_eq_false (by decide)
  · -- forward, the lengths sum to 10¹⁶ in travel order
    intro hlong
    have hride := hlong [] _ (longRide.drop 1 |>.take 3) _ [] rfl (by decide) rfl
    revert hride
    decide +kernel
  · intro hride
    exact absurd (hride [] _ (mixedRide.drop 1 |>.take 1) _ [] rfl (by decide)) (by decide)
  · intro hboard
    exact hboard (boardTwiceRide.take 2) _ (boardTwiceRide.drop 3) rfl rfl ⟨rfl, rfl⟩

end RentalRouting
