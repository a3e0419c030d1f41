/-
RentalRouting/Proofs/RentalCount.lean

How rentals are counted along a whole path, in either direction of search.  The rental
loops of a path alternate, beginning a rental where none is open and ending the open one
(`rentalMoves_isChain`); the stations picked up at are new each time and make up the
stations the last state records (`pickupIds_of_run`); and at most one rental begins on
each side of the first boarding (`rental_counting_rules`).

The last rule rests on a count carried by the invariant of `RentalSound`: the rentals a
run begins add up to the side flags it sets and the rental left open
(`RentalSound.begins_of_run`).  Before the first boarding the later flag is clear; after
it the earlier flag no longer changes, and the later flag and an open rental exclude each
other.
-/
import Mathlib.Data.List.Chain
import RentalRouting.Proofs.RentalState

namespace RentalRouting

namespace PathEdge

variable {e : PathEdge} {s s' : State}

/-- Once a trip was boarded, a step leaves the earlier side as it was. -/
theorem earlierFlag_of_traverse (h : e.traverse s = some s')
    (hb : s.ride.everBoarded = true) : s'.earlierFlag = s.earlierFlag := by
  have hdir := isArriveBy_of_traverse h
  cases rentalStep_of_traverse h with
  | keep _ hrental => exact (State.sides_eq_of_flags hdir (by rw [hrental]) (by rw [hrental])).2
  | begin _ _ _ _ _ _ hrental =>
    exact (State.sides_eq_of_flags hdir (by rw [hrental]) (by rw [hrental])).2
  | finish _ _ _ _ hrental =>
    simp [(State.sides_of_endRental hdir (by rw [hrental]) (by rw [hrental])).2, hb]

end PathEdge

/-- Every step adds to the rentals begun what it adds to the side flags and the open
rental: a begin opens a rental, an end closes it and sets a flag that was clear. -/
theorem RentalSound.begins_step {e : PathEdge} {s s' : State} (hs : RentalSound s)
    (h : e.traverse s = some s') :
    (rentalMoves s.isArriveBy [e]).count true + s.earlierFlag.toNat + s.laterFlag.toNat +
        s.rental.renting.toNat =
      s'.earlierFlag.toNat + s'.laterFlag.toNat + s'.rental.renting.toNat := by
  have hdir := PathEdge.isArriveBy_of_traverse h
  cases PathEdge.rentalStep_of_traverse h with
  | keep hmove hrental =>
    obtain ⟨hl, he⟩ := State.sides_eq_of_flags hdir (by rw [hrental]) (by rw [hrental])
    simp [hmove, hl, he, hrental]
  | begin _ _ _ hmove hr _ hrental =>
    obtain ⟨hl, he⟩ := State.sides_eq_of_flags hdir (by rw [hrental]) (by rw [hrental])
    simp [hmove, hl, he, hrental, hr]
    omega
  | finish _ _ hmove hr hrental =>
    obtain ⟨hl, he⟩ := State.sides_of_endRental hdir (by rw [hrental]) (by rw [hrental])
    have hend := hs.sides_toNat_of_end hr
    have hr' : s'.rental.renting = false := by rw [hrental]
    rw [hl, he, hr', hr]
    simp only [rentalMoves_cons, hmove, rentalMoves_nil]
    simp only [Option.toList_some, List.append_nil, List.count_singleton, Bool.toNat_true,
      Bool.toNat_false]
    simp at hend ⊢
    omega

namespace State

variable {s t : State} {es : List PathEdge}

/-- A run has boarded exactly when its first state had or one of its edges boards. -/
theorem everBoarded_of_run (h : s.run es = some t) :
    t.ride.everBoarded = (s.ride.everBoarded || es.any PathEdge.boards) := by
  induction es generalizing s with
  | nil => cases h; simp
  | cons e es ih =>
    obtain ⟨u, hu, hrest⟩ := run_cons_eq_some.1 h
    rw [ih hrest, PathEdge.everBoarded_of_traverse hu, List.any_cons, Bool.or_assoc]

/-- Along a run the rental loops alternate with the rental flag: each begins a rental
where none is open or ends the open one. -/
theorem rentalMoves_isChain (h : s.run es = some t) :
    (s.rental.renting :: rentalMoves s.isArriveBy es).IsChain (· ≠ ·) := by
  induction es generalizing s with
  | nil => simp
  | cons e es ih =>
    obtain ⟨u, hu, hrest⟩ := run_cons_eq_some.1 h
    have hchain := ih hrest
    rw [PathEdge.isArriveBy_of_traverse hu] at hchain
    obtain ⟨hflag, hfrom⟩ := PathEdge.renting_of_traverse hu
    cases hm : e.rentalMove s.isArriveBy with
    | none =>
      simp only [hm, Option.getD_none] at hflag
      simpa [hm, hflag] using hchain
    | some b =>
      simp only [hm, Option.getD_some] at hflag
      rw [hflag] at hchain
      simpa [hm, hfrom b hm] using hchain

/-- A run records the station of each pick-up it takes, each one new. -/
theorem pickupIds_of_run (h : s.run es = some t) :
    (pickupIds es).Nodup ∧ (∀ id ∈ pickupIds es, id ∉ s.rental.rentedVehicles) ∧
      ∀ id, id ∈ t.rental.rentedVehicles ↔ id ∈ s.rental.rentedVehicles ∨ id ∈ pickupIds es := by
  induction es generalizing s with
  | nil => cases h; simp
  | cons e es ih =>
    obtain ⟨u, hu, hrest⟩ := run_cons_eq_some.1 h
    obtain ⟨hnodup, hfresh, hmem⟩ := ih hrest
    obtain ⟨hnew, hrv⟩ := PathEdge.rentedVehicles_of_traverse hu
    cases hid : e.pickupId? with
    | none =>
      simp only [hid, Option.elim_none] at hrv
      simp_all
    | some id =>
      simp only [hid, Option.elim_some] at hrv
      -- the station is recorded from this step on, so no later pick-up is at it
      have hid_u : id ∈ u.rental.rentedVehicles := by simp [hrv, mem_insertName]
      refine ⟨?_, ?_, fun x => ?_⟩
      · simpa [hid] using ⟨fun hin => hfresh id hin hid_u, hnodup⟩
      · simp only [pickupIds_cons, hid, Option.toList_some, List.singleton_append,
          List.mem_cons, forall_eq_or_imp]
        exact ⟨hnew id hid, fun x hx hs => hfresh x hx (by simp [hrv, mem_insertName, hs])⟩
      · rw [hmem x, hrv, mem_insertName]
        simp only [pickupIds_cons, hid, Option.toList_some, List.singleton_append, List.mem_cons]
        grind

/-- Once a trip was boarded, a run leaves the earlier side as it was. -/
theorem earlierFlag_of_run (h : s.run es = some t) (hb : s.ride.everBoarded = true) :
    t.earlierFlag = s.earlierFlag := by
  induction es generalizing s with
  | nil => cases h; rfl
  | cons e es ih =>
    obtain ⟨u, hu, hrest⟩ := run_cons_eq_some.1 h
    have hbu : u.ride.everBoarded = true := by simp [PathEdge.everBoarded_of_traverse hu, hb]
    rw [ih hrest hbu, PathEdge.earlierFlag_of_traverse hu hb]

end State

/-- What a run begins, it adds to the side flags and the open rental. -/
theorem RentalSound.begins_of_run {s t : State} {es : List PathEdge} (hs : RentalSound s)
    (h : s.run es = some t) :
    (rentalMoves s.isArriveBy es).count true + s.earlierFlag.toNat + s.laterFlag.toNat +
        s.rental.renting.toNat =
      t.earlierFlag.toNat + t.laterFlag.toNat + t.rental.renting.toNat := by
  induction es generalizing s with
  | nil => cases h; simp
  | cons e es ih =>
    obtain ⟨u, hu, hrest⟩ := State.run_cons_eq_some.1 h
    have hstep := hs.begins_step hu
    have hrun := ih (hs.step e hu) hrest
    rw [PathEdge.isArriveBy_of_traverse hu] at hrun
    rw [← hrun, show e :: es = [e] ++ es from rfl, rentalMoves_append, List.count_append]
    omega


/-! ### One rental on each side of the first boarding -/

/-- A run from a first state that boards nowhere begins at most one rental: its later
flag stays clear, and its earlier flag and an open rental exclude each other. -/
theorem begins_le_one_of_not_boarded {vertex : VertexId} {time : Int64} {request : Request}
    {es : List PathEdge} {u : State} (hrun : (State.origin vertex time request).run es = some u)
    (hnb : es.any PathEdge.boards = false) :
    (rentalMoves request.isArriveBy es).count true ≤ 1 := by
  have hu := ((State.Reachable.origin vertex time request).run hrun).rentalSound
  have hcount := (rentalSound_origin vertex time request).begins_of_run hrun
  have hb : u.ride.everBoarded = false := by
    simp [State.everBoarded_of_run hrun, hnb, State.origin]
  have hl : u.laterFlag = false := by
    cases hx : u.laterFlag
    · rfl
    · simpa [hb] using hu.laterBoarded hx
  simp only [State.origin_earlierFlag, State.origin_laterFlag, State.origin_isArriveBy,
    State.origin_rental, hl, Bool.toNat_false, Nat.add_zero] at hcount
  rw [hcount]
  cases hr : u.rental.renting
  · cases u.earlierFlag <;> simp
  · simp [(hu.openSides hr).2 hb]

/-- A run from a reachable state that has boarded begins at most one rental: the earlier
flag no longer changes, and the later flag and an open rental exclude each other. -/
theorem begins_le_one_of_boarded {s t : State} {es : List PathEdge} (hs : s.Reachable)
    (hb : s.ride.everBoarded = true) (hrun : s.run es = some t) :
    (rentalMoves s.isArriveBy es).count true ≤ 1 := by
  have hcount := hs.rentalSound.begins_of_run hrun
  have ht := (hs.run hrun).rentalSound
  rw [State.earlierFlag_of_run hrun hb] at hcount
  cases hr : t.rental.renting
  · cases hl : t.laterFlag <;> simp [hl, hr] at hcount <;> omega
  · simp [(ht.openSides hr).1, hr] at hcount
    omega

/-- The rental rules over a whole path from a first state, in either direction: the
rental loops alternate, beginning with a begin, and set the rental flag as they go; the
stations picked up at are distinct and are the stations the last state records, which no
step forgets; and at most one rental begins before the first boarding and at most one at
or after it. -/
theorem rental_counting_rules {vertex : VertexId} {time : Int64} {request : Request}
    {es : List PathEdge} {t : State} (hrun : (State.origin vertex time request).run es = some t) :
    (∀ es₁ e es₂ u u', es = es₁ ++ e :: es₂ →
      (State.origin vertex time request).run es₁ = some u → e.traverse u = some u' →
        u'.rental.renting = (e.rentalMove request.isArriveBy).getD u.rental.renting) ∧
    (false :: rentalMoves request.isArriveBy es).IsChain (· ≠ ·) ∧
    (pickupIds es).Nodup ∧
    (∀ id, id ∈ pickupIds es ↔ id ∈ t.rental.rentedVehicles) ∧
    (∀ es₁ es₂ u, es = es₁ ++ es₂ → (State.origin vertex time request).run es₁ = some u →
      u.rental.rentedVehicles ⊆ t.rental.rentedVehicles) ∧
    (rentalMoves request.isArriveBy (es.takeWhile (!·.boards))).count true ≤ 1 ∧
    (rentalMoves request.isArriveBy (es.dropWhile (!·.boards))).count true ≤ 1 := by
  obtain ⟨hnodup, -, hmem⟩ := State.pickupIds_of_run hrun
  refine ⟨fun es₁ e es₂ u u' _ hu hstep => ?_, State.rentalMoves_isChain hrun, hnodup,
    fun id => by simpa [State.origin] using (hmem id).symm, fun es₁ es₂ u hsplit hu => ?_, ?_, ?_⟩
  · -- the direction is the request's all along the path
    have hdir : u.isArriveBy = request.isArriveBy := State.isArriveBy_of_run hu
    rw [← hdir]
    exact (PathEdge.renting_of_traverse hstep).1
  · rw [hsplit] at hrun
    obtain ⟨u₁, hu₁, hrest⟩ := State.run_append_eq_some.1 hrun
    rw [hu] at hu₁
    cases hu₁
    intro id hid
    exact ((State.pickupIds_of_run hrest).2.2 id).2 (.inl hid)
  -- the path splits at its first boarding
  all_goals
    rw [← List.takeWhile_append_dropWhile (p := fun e : PathEdge => !e.boards) (l := es)] at hrun
    obtain ⟨u, hpre, hpost⟩ := State.run_append_eq_some.1 hrun
  · refine begins_le_one_of_not_boarded hpre ?_
    have hall := List.all_takeWhile (p := fun e : PathEdge => !e.boards) (l := es)
    rw [List.all_eq_true] at hall
    rw [List.any_eq_false]
    intro e he
    simpa using hall e he
  · cases hd : es.dropWhile (!·.boards) with
    | nil => simp
    | cons b rest =>
      -- the first edge after the split boards and is no rental loop
      have hboards : b.boards = true := by
        have := List.head_dropWhile_not (fun e : PathEdge => !e.boards) (l := es) (by simp [hd])
        simpa [hd] using this
      rw [hd] at hpost
      obtain ⟨u₁, hb, hrest⟩ := State.run_cons_eq_some.1 hpost
      have hmove : b.rentalMove request.isArriveBy = none := by
        cases hm : b.rentalMove request.isArriveBy with
        | none => rfl
        | some _ => simp [PathEdge.boards_eq_false_of_rentalMove hm] at hboards
      have hreach : u₁.Reachable :=
        ((State.Reachable.origin vertex time request).run hpre).step b hb
      have hdir : u₁.isArriveBy = request.isArriveBy := by
        rw [PathEdge.isArriveBy_of_traverse hb, State.isArriveBy_of_run hpre]
        rfl
      have hle := begins_le_one_of_boarded hreach
        (by simp [PathEdge.everBoarded_of_traverse hb, hboards]) hrest
      simpa [hmove, hdir] using hle

/-- The sample ride runs forward and records the station it picked up at. -/
theorem sampleRide_records_pickup :
    ∃ t, (State.origin 1 0 sampleRequest).run sampleRide = some t ∧
      ∀ id, id ∈ pickupIds sampleRide ↔ id ∈ t.rental.rentedVehicles := by
  obtain ⟨t, ht⟩ := Option.isSome_iff_exists.1
    (by decide +kernel : ((State.origin 1 0 sampleRequest).run sampleRide).isSome = true)
  exact ⟨t, ht, (rental_counting_rules ht).2.2.2.1⟩

end RentalRouting
