/-
RentalRouting/Proofs/RentalState.lean

What a reachable state knows about rentals.  Every state a search reaches, in either
direction, keeps its rental record consistent:

* when not renting, no networks, no floating drop-off, no mode kept from before the
  rental and no distance ridden are recorded;
* when renting, the mode is the one of the vehicle kind;
* a depart-at search records a post-transit rental only after boarding;
* the stations rented from number one per completed side of transit, plus one for a
  rental open in a depart-at search, and never more than two (`rental_substate_invariant`).

The two side flags are read relative to the direction of search: the *later* side is the
one the search meets second (post-transit forward, pre-transit backward), the *earlier*
side the other one.  A rental ends on the later side once a trip was boarded, on the
earlier side before.  The invariant `RentalSound` adds the two facts that carry the
count through a step: the later flag is set only after boarding, and an open rental has
neither flag of the side it will end on set.
-/
import RentalRouting.Proofs.Step

namespace RentalRouting

/-! ### The sides of transit -/

namespace State

/-- The flag of the side of transit the search meets second: post-transit in a depart-at
search, pre-transit in an arrive-by one. -/
def laterFlag (s : State) : Bool :=
  if s.isArriveBy then s.rental.rentedPreTransit else s.rental.rentedPostTransit

/-- The flag of the side of transit the search meets first. -/
def earlierFlag (s : State) : Bool :=
  if s.isArriveBy then s.rental.rentedPostTransit else s.rental.rentedPreTransit

/-- A rental completed on the current side is one on the later side once a trip was
boarded, on the earlier side before. -/
theorem completedOnCurrentSide_eq (s : State) :
    s.completedOnCurrentSide = if s.ride.everBoarded then s.laterFlag else s.earlierFlag := by
  unfold completedOnCurrentSide isPostTransit laterFlag earlierFlag
  cases s.ride.everBoarded <;> cases s.isArriveBy <;> rfl

/-- The two flags are the pre- and post-transit flags in some order. -/
theorem earlierFlag_toNat_add_laterFlag_toNat (s : State) :
    s.earlierFlag.toNat + s.laterFlag.toNat =
      s.rental.rentedPreTransit.toNat + s.rental.rentedPostTransit.toNat := by
  unfold earlierFlag laterFlag
  cases s.isArriveBy <;> simp [Nat.add_comm]

@[simp] theorem origin_rental (vertex : VertexId) (time : Int64) (request : Request) :
    (origin vertex time request).rental = {} := rfl

@[simp] theorem origin_ride (vertex : VertexId) (time : Int64) (request : Request) :
    (origin vertex time request).ride = {} := rfl

@[simp] theorem origin_isArriveBy (vertex : VertexId) (time : Int64) (request : Request) :
    (origin vertex time request).isArriveBy = request.isArriveBy := rfl

@[simp] theorem origin_laterFlag (vertex : VertexId) (time : Int64) (request : Request) :
    (origin vertex time request).laterFlag = false := by
  unfold laterFlag
  split <;> rfl

@[simp] theorem origin_earlierFlag (vertex : VertexId) (time : Int64) (request : Request) :
    (origin vertex time request).earlierFlag = false := by
  unfold earlierFlag
  split <;> rfl

variable {s s' : State}

/-- Two states with one direction and the same flags have the same sides. -/
theorem sides_eq_of_flags (hdir : s'.isArriveBy = s.isArriveBy)
    (hpre : s'.rental.rentedPreTransit = s.rental.rentedPreTransit)
    (hpost : s'.rental.rentedPostTransit = s.rental.rentedPostTransit) :
    s'.laterFlag = s.laterFlag ∧ s'.earlierFlag = s.earlierFlag := by
  simp [laterFlag, earlierFlag, hdir, hpre, hpost]

/-- Ending a rental sets the later flag once a trip was boarded, the earlier one before. -/
theorem sides_of_endRental (hdir : s'.isArriveBy = s.isArriveBy)
    (hpre : s'.rental.rentedPreTransit = (!s.isPostTransit || s.rental.rentedPreTransit))
    (hpost : s'.rental.rentedPostTransit = (s.isPostTransit || s.rental.rentedPostTransit)) :
    s'.laterFlag = (s.ride.everBoarded || s.laterFlag) ∧
      s'.earlierFlag = (!s.ride.everBoarded || s.earlierFlag) := by
  simp only [laterFlag, earlierFlag, isPostTransit, hdir, hpre, hpost]
  cases s.isArriveBy <;> cases s.ride.everBoarded <;> simp

end State

/-! ### The invariant -/

/-- The facts about rentals that every traversal keeps. -/
structure RentalSound (s : State) : Prop where
  /-- Without a rental nothing about a rented vehicle is recorded. -/
  idle : s.rental.renting = false →
    s.rental.networks = none ∧ s.rental.floatingDropoffs = false ∧
      s.rental.preRentalMode = none ∧ s.rentalDistance = 0
  /-- A rented vehicle is ridden in its own mode. -/
  riding : s.rental.renting = true → s.mode = some s.rental.kind.travelMode
  /-- A rental completes on the later side only after boarding. -/
  laterBoarded : s.laterFlag = true → s.ride.everBoarded = true
  /-- An open rental can still complete on the side it will end on. -/
  openSides : s.rental.renting = true →
    s.laterFlag = false ∧ (s.ride.everBoarded = false → s.earlierFlag = false)
  /-- One station per completed side, and one for a rental open in a depart-at search. -/
  count : s.rental.rentedVehicles.length =
    s.rental.rentedPreTransit.toNat + s.rental.rentedPostTransit.toNat +
      (s.rental.renting && !s.isArriveBy).toNat
  /-- No station is recorded twice. -/
  nodup : s.rental.rentedVehicles.Nodup

theorem rentalSound_origin (vertex : VertexId) (time : Int64) (request : Request) :
    RentalSound (State.origin vertex time request) where
  idle _ := ⟨rfl, rfl, rfl, rfl⟩
  riding h := by simp [State.origin] at h
  laterBoarded h := by simp at h
  openSides h := by simp [State.origin] at h
  count := by simp [State.origin]
  nodup := List.nodup_nil

/-! ### What each kind of step keeps -/

namespace RentalSound

variable {s s' : State}

/-- A state that has not completed a rental on its side leaves open the side a rental
begun there ends on. -/
theorem sides_of_not_completed (h : RentalSound s) (hc : s.completedOnCurrentSide = false) :
    s.laterFlag = false ∧ (s.ride.everBoarded = false → s.earlierFlag = false) := by
  rw [State.completedOnCurrentSide_eq] at hc
  cases hb : s.ride.everBoarded
  · have hl : s.laterFlag = false := by
      cases hl : s.laterFlag
      · rfl
      · simpa [hb] using h.laterBoarded hl
    simp_all
  · simp_all

/-- The side a rental ends on is clear while it is open, so ending it sets one more flag. -/
theorem sides_toNat_of_end (h : RentalSound s) (hr : s.rental.renting = true) :
    (!s.ride.everBoarded || s.earlierFlag).toNat + (s.ride.everBoarded || s.laterFlag).toNat =
      s.earlierFlag.toNat + s.laterFlag.toNat + 1 := by
  obtain ⟨hlf, hef⟩ := h.openSides hr
  rw [hlf]
  cases hx : s.ride.everBoarded
  · simp [hef hx]
  · simp

/-- A step that keeps the rental keeps the invariant, whether or not it boards. -/
theorem keep (h : RentalSound s) (hr : s'.rental = s.rental) (hm : s'.mode = s.mode)
    (hq : s'.request = s.request) (hb : s.ride.everBoarded = true → s'.ride.everBoarded = true)
    (hd : s.rental.renting = false → s'.rentalDistance = s.rentalDistance) :
    RentalSound s' := by
  have hdir : s'.isArriveBy = s.isArriveBy := by simp [State.isArriveBy, hq]
  obtain ⟨hl, he⟩ := State.sides_eq_of_flags hdir (by rw [hr]) (by rw [hr])
  refine ⟨fun hi => ?_, fun hi => ?_, fun hi => hb (h.laterBoarded (hl ▸ hi)), fun hi => ?_, ?_, ?_⟩
  · rw [hr] at hi ⊢
    rw [hd hi]
    exact h.idle hi
  · rw [hm, hr]
    exact h.riding (hr ▸ hi)
  · rw [hr] at hi
    obtain ⟨hlf, hef⟩ := h.openSides hi
    refine ⟨hl ▸ hlf, fun hnb => he ▸ hef ?_⟩
    -- not boarded after the step, so not boarded before it
    cases hx : s.ride.everBoarded
    · rfl
    · simp [hb hx] at hnb
  · rw [hr, hdir]
    exact h.count
  · rw [hr]
    exact h.nodup

/-- Beginning a rental where none is open and none was completed on the state's side keeps
the invariant; forward, the station is recorded as it begins. -/
theorem begin (h : RentalSound s) (hr : s.rental.renting = false)
    (hc : s.completedOnCurrentSide = false) {networks : Networks} {kind : VehicleKind}
    {floating : Bool} {rv : List String}
    (hrental : s'.rental = { s.rental with
      renting := true
      networks := networks
      kind := kind
      floatingDropoffs := floating
      preRentalMode := s.mode
      rentedVehicles := rv })
    (hm : s'.mode = some kind.travelMode) (hq : s'.request = s.request)
    (hb : s'.ride.everBoarded = s.ride.everBoarded)
    (hlen : rv.length = s.rental.rentedVehicles.length + (!s.isArriveBy).toNat)
    (hnd : rv.Nodup) : RentalSound s' := by
  have hdir : s'.isArriveBy = s.isArriveBy := by simp [State.isArriveBy, hq]
  obtain ⟨hl, he⟩ := State.sides_eq_of_flags hdir (by rw [hrental]) (by rw [hrental])
  obtain ⟨hlf, hef⟩ := h.sides_of_not_completed hc
  refine ⟨fun hi => by simp [hrental] at hi, fun _ => by simp [hm, hrental],
    fun hi => by simp [hl, hlf] at hi, fun _ => ⟨by rw [hl, hlf], by rw [hb, he]; exact hef⟩,
    ?_, by simpa [hrental] using hnd⟩
  have hcount := h.count
  simp only [hrental, hdir, hlen, hcount, hr]
  cases s.isArriveBy <;> simp

/-- Ending the rental that is open keeps the invariant: the flag of the side the state is
on was clear, so the count of stations grows with it; backward, the station is recorded
as the rental ends. -/
theorem finish (h : RentalSound s) (hr : s.rental.renting = true) {kind : VehicleKind}
    {rv : List String}
    (hrental : s'.rental = { s.rental with
      renting := false
      networks := none
      kind := kind
      floatingDropoffs := false
      preRentalMode := none
      rentedPreTransit := !s.isPostTransit || s.rental.rentedPreTransit
      rentedPostTransit := s.isPostTransit || s.rental.rentedPostTransit
      rentedVehicles := rv })
    (hd : s'.rentalDistance = 0) (hq : s'.request = s.request)
    (hb : s'.ride.everBoarded = s.ride.everBoarded)
    (hlen : rv.length = s.rental.rentedVehicles.length + s.isArriveBy.toNat)
    (hnd : rv.Nodup) : RentalSound s' := by
  have hdir : s'.isArriveBy = s.isArriveBy := by simp [State.isArriveBy, hq]
  obtain ⟨hl, he⟩ := State.sides_of_endRental hdir (by rw [hrental]) (by rw [hrental])
  obtain ⟨hlf, hef⟩ := h.openSides hr
  refine ⟨fun _ => by simp [hrental, hd], fun hi => by simp [hrental] at hi,
    fun hi => ?_, fun hi => by simp [hrental] at hi, ?_, by simpa [hrental] using hnd⟩
  · simp only [hl, hlf, Bool.or_false] at hi
    rw [hb, hi]
  · have hsides := s'.earlierFlag_toNat_add_laterFlag_toNat
    have hsides₀ := s.earlierFlag_toNat_add_laterFlag_toNat
    have hcount := h.count
    simp only [hrental] at hsides ⊢
    rw [← hsides, hl, he, h.sides_toNat_of_end hr, hlen, hcount, ← hsides₀, hr]
    cases s.isArriveBy <;> simp

end RentalSound

/-! ### Every reachable state -/

/-- One traversal of any edge keeps the invariant. -/
theorem RentalSound.step {s s' : State} (h : RentalSound s) (e : PathEdge)
    (hs : e.traverse s = some s') : RentalSound s' := by
  have hq := PathEdge.request_of_traverse hs
  have hb := PathEdge.everBoarded_of_traverse hs
  have hlen := PathEdge.rentedVehicles_length_of_traverse hs
  have hnd := PathEdge.rentedVehicles_nodup_of_traverse hs h.nodup
  cases PathEdge.rentalStep_of_traverse hs with
  | keep _ hrental hmode hdist =>
    exact h.keep hrental hmode hq (fun hx => by simp [hb, hx]) fun hn => by simp [hdist, hn]
  | begin st floating rv hmove hr hc hrental hmode _ =>
    -- forward the rental begins at a pick-up, which records its station
    have hpick := PathEdge.pickupId?_isSome_of_rentalMove hmove
    exact h.begin hr hc hrental hmode hq
      (by simp [hb, PathEdge.boards_eq_false_of_rentalMove hmove])
      (by simpa [hrental, hpick] using hlen) (by simpa [hrental] using hnd)
  | finish kind rv hmove hr hrental _ hdist =>
    -- backward the rental ends at a pick-up, which records its station
    have hpick := PathEdge.pickupId?_isSome_of_rentalMove hmove
    exact h.finish hr hrental hdist hq
      (by simp [hb, PathEdge.boards_eq_false_of_rentalMove hmove])
      (by simpa [hrental, hpick] using hlen) (by simpa [hrental] using hnd)

/-- Every reachable state is rental-sound: the invariant holds at the first state and every
traversal keeps it. -/
theorem State.Reachable.rentalSound {s : State} (hs : s.Reachable) : RentalSound s := by
  induction hs with
  | origin vertex time request => exact rentalSound_origin vertex time request
  | step e _ hstep ih => exact ih.step e hstep

/-- The rental record of a reachable state is consistent: nothing of a rental is recorded
without one, a rented vehicle is ridden in its mode, a post-transit rental in a depart-at
search follows a boarding, and the stations rented from number one per completed side of
transit and one for a rental open in a depart-at search, at most two. -/
theorem rental_substate_invariant {s : State} (hs : s.Reachable) :
    (s.rental.renting = false →
      s.rental.networks = none ∧ s.rental.floatingDropoffs = false ∧
        s.rental.preRentalMode = none ∧ s.rentalDistance = 0) ∧
    (s.rental.renting = true → s.mode = some s.rental.kind.travelMode) ∧
    (s.request.direction = .departAt → s.rental.rentedPostTransit = true →
      s.ride.everBoarded = true) ∧
    s.rental.rentedVehicles.length =
      s.rental.rentedPreTransit.toNat + s.rental.rentedPostTransit.toNat +
        (s.request.direction == .departAt && s.rental.renting).toNat ∧
    s.rental.rentedVehicles.length ≤ 2 := by
  have h := hs.rentalSound
  have hab : s.isArriveBy = (s.request.direction == .arriveBy) := rfl
  have hopen : (s.request.direction == .departAt && s.rental.renting) =
      (s.rental.renting && !s.isArriveBy) := by
    rw [hab]
    cases s.request.direction <;> simp
  refine ⟨h.idle, h.riding, fun hd hpost => h.laterBoarded ?_, by rw [hopen]; exact h.count, ?_⟩
  · simpa [State.laterFlag, hab, hd] using hpost
  · -- an open rental leaves the later side clear, so at most one flag is set with it
    rw [h.count, ← s.earlierFlag_toNat_add_laterFlag_toNat]
    cases hr : s.rental.renting
    · cases s.earlierFlag <;> cases s.laterFlag <;> simp
    · rw [(h.openSides hr).1]
      cases s.earlierFlag <;> cases s.isArriveBy <;> simp

/-- After the sample ride's pick-up the state is renting: it rides in the mode of the vehicle,
and its one rented station is the open rental of a depart-at search. -/
theorem sampleRide_pickup_keeps_rental_record :
    ∃ s, (State.origin 1 0 sampleRequest).run (sampleRide.take 1) = some s ∧
      s.rental.renting = true ∧ s.mode = some s.rental.kind.travelMode ∧
      s.rental.rentedVehicles.length = 1 := by
  obtain ⟨s, hs⟩ := Option.isSome_iff_exists.1
    (by decide +kernel : ((State.origin 1 0 sampleRequest).run (sampleRide.take 1)).isSome)
  have hfacts : ((State.origin 1 0 sampleRequest).run (sampleRide.take 1)).map
      (fun s => (s.rental.renting, s.rental.rentedPreTransit, s.rental.rentedPostTransit,
        s.request.direction)) = some (true, false, false, .departAt) := by decide +kernel
  rw [hs, Option.map_some, Option.some.injEq, Prod.mk.injEq, Prod.mk.injEq,
    Prod.mk.injEq] at hfacts
  obtain ⟨hrent, hpre, hpost, hdir⟩ := hfacts
  obtain ⟨-, hriding, -, hcount, -⟩ :=
    rental_substate_invariant ((State.Reachable.origin 1 0 sampleRequest).run hs)
  refine ⟨s, hs, hrent, hriding hrent, ?_⟩
  rw [hcount, hpre, hpost, hdir, hrent]
  rfl

end RentalRouting
