/-
RentalRouting/Proofs/Step.lean

What one step of a path does to the rental a state records, said once for every kind of
edge.  A step either keeps the rental, begins one or ends the one that is open
(`RentalStep`); which of the three is read off the edge and the direction of search
(`PathEdge.rentalMove`).  Besides, every step keeps the request, boards when its edge does,
and records the station of a pick-up, which must be new.  Later proofs about rentals
along a path case on these facts and never open an edge again.
-/
import RentalRouting.Proofs.Traversal

namespace RentalRouting

/-! ### Sets of names -/

theorem length_insertName_of_not_mem {name : String} {names : List String}
    (h : name ∉ names) : (insertName name names).length = names.length + 1 := by
  induction names with
  | nil => rfl
  | cons n rest ih =>
    have hne : name ≠ n := fun he => h (he ▸ List.mem_cons_self)
    have hrest : name ∉ rest := fun hm => h (List.mem_cons_of_mem n hm)
    unfold insertName
    split
    · rfl
    · simp only [List.length_cons, ih hrest]

theorem nodup_insertName {name : String} {names : List String} (hn : names.Nodup)
    (h : name ∉ names) : (insertName name names).Nodup := by
  induction names with
  | nil => simp [insertName]
  | cons n rest ih =>
    have hne : name ≠ n := fun he => h (he ▸ List.mem_cons_self)
    have hrest : name ∉ rest := fun hm => h (List.mem_cons_of_mem n hm)
    obtain ⟨hn_rest, hnodup⟩ := List.nodup_cons.1 hn
    unfold insertName
    split
    · exact List.nodup_cons.2 ⟨h, hn⟩
    · refine List.nodup_cons.2 ⟨?_, ih hnodup hrest⟩
      rw [mem_insertName]
      rintro (he | hm)
      · exact hne he.symm
      · exact hn_rest hm

/-! ### One step -/

namespace State

theorem isArriveBy_of_departAt {s : State} (hd : s.request.direction = .departAt) :
    s.isArriveBy = false := by
  unfold isArriveBy Request.isArriveBy
  rw [hd]
  rfl

theorem isArriveBy_of_arriveBy {s : State} (hd : s.request.direction = .arriveBy) :
    s.isArriveBy = true := by
  unfold isArriveBy Request.isArriveBy
  rw [hd]
  rfl

end State

/-- What one traversal does to the rental record, the mode and the distance ridden. -/
inductive RentalStep (s : State) (e : PathEdge) (s' : State) : Prop
  /-- Streets, links and transit edges keep the rental; a street ridden on a rented
  vehicle adds its length to the distance ridden. -/
  | keep : e.rentalMove s.isArriveBy = none → s'.rental = s.rental → s'.mode = s.mode →
      s'.rentalDistance = (if s.rental.renting then
        e.streetLength?.elim s.rentalDistance (s.rentalDistance + ·) else s.rentalDistance) →
      RentalStep s e s'
  /-- A rental begins where none is open and none was completed on the state's side;
  the state rides the station's vehicle and remembers the mode it had. -/
  | begin (st : Station) (floating : Bool) (rv : List String) : e.rentalMove s.isArriveBy = some true →
      s.rental.renting = false → s.completedOnCurrentSide = false →
      s'.rental = { s.rental with
        renting := true
        networks := st.networks
        kind := st.kind
        floatingDropoffs := floating
        preRentalMode := s.mode
        rentedVehicles := rv } →
      s'.mode = some st.kind.travelMode → s'.rentalDistance = 0 → RentalStep s e s'
  /-- The open rental ends on the side of transit the state is on, and the mode goes back
  to the one before it. -/
  | finish (kind : VehicleKind) (rv : List String) : e.rentalMove s.isArriveBy = some false →
      s.rental.renting = true →
      s'.rental = { s.rental with
        renting := false
        networks := none
        kind := kind
        floatingDropoffs := false
        preRentalMode := none
        rentedPreTransit := !s.isPostTransit || s.rental.rentedPreTransit
        rentedPostTransit := s.isPostTransit || s.rental.rentedPostTransit
        rentedVehicles := rv } →
      s'.mode = s.rental.preRentalMode.or (some .walk) → s'.rentalDistance = 0 →
      RentalStep s e s'

namespace PathEdge

variable {e : PathEdge} {s s' : State}

/-- Every traversal keeps, begins or ends a rental, as its edge and direction say. -/
theorem rentalStep_of_traverse (h : e.traverse s = some s') : RentalStep s e s' := by
  cases e with
  | transit e =>
    obtain ⟨hr, hm, hd, -⟩ := e.frame_of_traverse h
    exact .keep rfl hr hm (by simp [hd, streetLength?])
  | graph e =>
    cases e with
    | street e =>
      obtain ⟨hr, hm, -, -, hd⟩ := StreetEdge.rental_of_traverse h
      exact .keep rfl hr hm (by simp [hd, streetLength?])
    | link e =>
      obtain ⟨hr, hm, hd, -⟩ := LinkEdge.rental_of_traverse h
      exact .keep rfl hr hm (by simp [hd, streetLength?])
    | pickup e =>
      cases hdir : s.request.direction with
      | departAt =>
        obtain ⟨-, -, hr, hc, -⟩ := (PickupEdge.traverse_departAt_eq_some hdir).1 h
        obtain ⟨hrental, hm, hd, -⟩ := PickupEdge.rental_of_traverse_departAt hdir h
        exact .begin e.station e.station.isFloating _
          (by simp [rentalMove, loop?, State.isArriveBy_of_departAt hdir]) hr hc hrental hm hd
      | arriveBy =>
        obtain ⟨-, -, hr, -⟩ := (PickupEdge.traverse_arriveBy_eq_some hdir).1 h
        obtain ⟨hrental, hm, hd, -⟩ := PickupEdge.rental_of_traverse_arriveBy hdir h
        exact .finish e.station.kind _
          (by simp [rentalMove, loop?, State.isArriveBy_of_arriveBy hdir]) hr hrental hm hd
    | dropoff e =>
      cases hdir : s.request.direction with
      | departAt =>
        obtain ⟨-, hallowed, -⟩ := (DropoffEdge.traverse_departAt_eq_some hdir).1 h
        -- forward, a drop-off is allowed only while renting
        have hr : s.rental.renting = true := by
          simp only [State.dropoffAllowed, hdir] at hallowed
          cases hx : s.rental.renting <;> simp_all
        obtain ⟨hrental, hm, hd, -⟩ := DropoffEdge.rental_of_traverse_departAt hdir h
        exact .finish s.rental.kind _
          (by simp [rentalMove, loop?, State.isArriveBy_of_departAt hdir]) hr hrental hm hd
      | arriveBy =>
        obtain ⟨-, hr, hc, -⟩ := (DropoffEdge.traverse_arriveBy_eq_some hdir).1 h
        obtain ⟨hrental, hm, hd, -⟩ := DropoffEdge.rental_of_traverse_arriveBy hdir h
        exact .begin e.station e.station.isBorderDropoff _
          (by simp [rentalMove, loop?, State.isArriveBy_of_arriveBy hdir]) hr hc hrental hm hd

/-- No traversal changes the request. -/
theorem request_of_traverse (h : e.traverse s = some s') : s'.request = s.request := by
  cases e with
  | transit e => exact (e.frame_of_traverse h).2.2.2.1
  | graph e =>
    cases e with
    | street e => exact (StreetEdge.rental_of_traverse h).2.2.1
    | link e => exact (LinkEdge.rental_of_traverse h).2.2.2.1
    | pickup e =>
      cases hdir : s.request.direction
      · exact (PickupEdge.rental_of_traverse_departAt hdir h).2.2.2.1
      · exact (PickupEdge.rental_of_traverse_arriveBy hdir h).2.2.2.1
    | dropoff e =>
      cases hdir : s.request.direction
      · exact (DropoffEdge.rental_of_traverse_departAt hdir h).2.2.2.1
      · exact (DropoffEdge.rental_of_traverse_arriveBy hdir h).2.2.2.1

theorem isArriveBy_of_traverse (h : e.traverse s = some s') : s'.isArriveBy = s.isArriveBy := by
  simp [State.isArriveBy, request_of_traverse h]

/-- A state has boarded once it took an edge that boards. -/
theorem everBoarded_of_traverse (h : e.traverse s = some s') :
    s'.ride.everBoarded = (s.ride.everBoarded || e.boards) := by
  cases e with
  | transit e => exact (e.frame_of_traverse h).2.2.2.2.2
  | graph e =>
    have hride : s'.ride = s.ride := by
      cases e with
      | street e => exact (StreetEdge.rental_of_traverse h).2.2.2.1
      | link e => exact (LinkEdge.rental_of_traverse h).2.2.2.2
      | pickup e =>
        cases hdir : s.request.direction
        · exact (PickupEdge.rental_of_traverse_departAt hdir h).2.2.2.2
        · exact (PickupEdge.rental_of_traverse_arriveBy hdir h).2.2.2.2
      | dropoff e =>
        cases hdir : s.request.direction
        · exact (DropoffEdge.rental_of_traverse_departAt hdir h).2.2.2.2
        · exact (DropoffEdge.rental_of_traverse_arriveBy hdir h).2.2.2.2
    simp [hride, boards]

/-- A pick-up records its station, which no earlier pick-up was at; every other edge keeps
the stations recorded. -/
theorem rentedVehicles_of_traverse (h : e.traverse s = some s') :
    (∀ id, e.pickupId? = some id → id ∉ s.rental.rentedVehicles) ∧
      s'.rental.rentedVehicles =
        e.pickupId?.elim s.rental.rentedVehicles (insertName · s.rental.rentedVehicles) := by
  match e, h with
  | .graph (.pickup e), h =>
    cases hdir : s.request.direction with
    | departAt =>
      obtain ⟨-, hid, -⟩ := (PickupEdge.traverse_departAt_eq_some hdir).1 h
      obtain ⟨hrental, -⟩ := PickupEdge.rental_of_traverse_departAt hdir h
      simp [pickupId?, hid, hrental]
    | arriveBy =>
      obtain ⟨-, hid, -⟩ := (PickupEdge.traverse_arriveBy_eq_some hdir).1 h
      obtain ⟨hrental, -⟩ := PickupEdge.rental_of_traverse_arriveBy hdir h
      simp [pickupId?, hid, hrental]
  | .graph (.dropoff e), h =>
    cases hdir : s.request.direction with
    | departAt =>
      obtain ⟨hrental, -⟩ := DropoffEdge.rental_of_traverse_departAt hdir h
      simp [pickupId?, hrental]
    | arriveBy =>
      obtain ⟨hrental, -⟩ := DropoffEdge.rental_of_traverse_arriveBy hdir h
      simp [pickupId?, hrental]
  | .graph (.street e), h => simp [pickupId?, (StreetEdge.rental_of_traverse h).1]
  | .graph (.link e), h => simp [pickupId?, (LinkEdge.rental_of_traverse h).1]
  | .transit e, h => simp [pickupId?, (e.frame_of_traverse h).1]

/-- A rental loop is a pick-up exactly when it begins a rental forward or ends one
backward. -/
theorem pickupId?_isSome_of_rentalMove {arriveBy b : Bool} (hm : e.rentalMove arriveBy = some b) :
    e.pickupId?.isSome = (b != arriveBy) := by
  match e, hm with
  | .graph (.pickup _), hm | .graph (.dropoff _), hm =>
    cases b <;> cases arriveBy <;> simp_all [rentalMove, loop?, pickupId?]

/-- Rental loops do not board. -/
theorem boards_eq_false_of_rentalMove {arriveBy b : Bool} (hm : e.rentalMove arriveBy = some b) :
    e.boards = false := by
  match e, hm with
  | .graph (.pickup _), _ => rfl
  | .graph (.dropoff _), _ => rfl

theorem rentedVehicles_length_of_traverse (h : e.traverse s = some s') :
    s'.rental.rentedVehicles.length = s.rental.rentedVehicles.length + e.pickupId?.isSome.toNat := by
  obtain ⟨hnew, hrv⟩ := rentedVehicles_of_traverse h
  cases hid : e.pickupId? with
  | none => simp [hrv, hid]
  | some id => simp [hrv, hid, length_insertName_of_not_mem (hnew id hid)]

theorem rentedVehicles_nodup_of_traverse (h : e.traverse s = some s')
    (hnd : s.rental.rentedVehicles.Nodup) : s'.rental.rentedVehicles.Nodup := by
  obtain ⟨hnew, hrv⟩ := rentedVehicles_of_traverse h
  cases hid : e.pickupId? with
  | none => simpa [hrv, hid] using hnd
  | some id => simpa [hrv, hid] using nodup_insertName hnd (hnew id hid)

/-- A rental loop sets the rental flag to what its move says, from the other value; every
other edge keeps it. -/
theorem renting_of_traverse (h : e.traverse s = some s') :
    s'.rental.renting = (e.rentalMove s.isArriveBy).getD s.rental.renting ∧
      ∀ b, e.rentalMove s.isArriveBy = some b → s.rental.renting = !b := by
  cases rentalStep_of_traverse h with
  | keep hmove hrental => simp [hmove, hrental]
  | begin _ _ _ hmove hr _ hrental => simp [hmove, hr, hrental]
  | finish _ _ hmove hr hrental => simp [hmove, hr, hrental]

end PathEdge

namespace State

variable {s t : State} {es : List PathEdge}

/-- No run changes the request. -/
theorem request_of_run (h : s.run es = some t) : t.request = s.request := by
  induction es generalizing s with
  | nil => cases h; rfl
  | cons e es ih =>
    obtain ⟨u, hu, hrest⟩ := run_cons_eq_some.1 h
    rw [ih hrest, PathEdge.request_of_traverse hu]

theorem isArriveBy_of_run (h : s.run es = some t) : t.isArriveBy = s.isArriveBy := by
  simp [isArriveBy, request_of_run h]

end State

end RentalRouting
