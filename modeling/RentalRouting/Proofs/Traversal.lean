/-
RentalRouting/Proofs/Traversal.lean

One law for each edge: when it lets a state through, and what the state becomes.  Each
law reads the edge's guards off its definition, in the order the edge checks them, and
gives the successor as the child of the editor steps the edge takes, so that a later
proof never unfolds an edge again:

    e.traverse s = some s'  ↔  (the guards hold at s) ∧ (the steps' child) = s'.

The guards that do not depend on the state are gathered in `Request.mayPickUp` and
`Request.mayDropOff`.  A pick-up and a drop-off act differently in the two directions of
search, so each has one law per direction.
-/
import RentalRouting.Proofs.Editor
import RentalRouting.Proofs.Path

namespace RentalRouting

open Editor

namespace Request

/-- The request may pick up a vehicle at the station, whatever the state: rental is on,
the station lets vehicles go, has one as far as the request looks, and is permitted. -/
def mayPickUp (r : Request) (st : Station) : Bool :=
  r.allowRental && st.allowPickup && r.hasVehicleToRent st && r.permits st

/-- The request may drop off a vehicle at the station, whatever the state: rental is on,
the station takes vehicles back, is permitted and has a space as far as the request
looks. -/
def mayDropOff (r : Request) (st : Station) : Bool :=
  r.allowRental && st.allowDropoff && r.permits st && r.hasSpaceToPark st

end Request

/-! ### Streets -/

theorem StreetEdge.traverse_eq_some {e : StreetEdge} {s s' : State} :
    e.traverse s = some s' ↔
      ∃ mode speed, s.mode = some mode ∧ e.permission.contains mode = true ∧
        s.request.speed mode = some speed ∧
        acceptsTime (e.length / speed) = true ∧
        acceptsWeight (e.length / speed * s.request.reluctance mode) = true ∧
        (s.rental.renting = true → validDistance e.length = true) ∧
        (s.rental.renting = false → mode = .walk → validDistance e.length = true) ∧
        ((if s.rental.renting then
            (((s.edit e.info).addTime (e.length / speed)).addWeight
              (e.length / speed * s.request.reluctance mode)).addRentalDistance e.length
          else if mode == .walk then
            (((s.edit e.info).addTime (e.length / speed)).addWeight
              (e.length / speed * s.request.reluctance mode)).addWalkDistance e.length
          else ((s.edit e.info).addTime (e.length / speed)).addWeight
              (e.length / speed * s.request.reluctance mode)).apply
            (.setBackMode (some mode))).child = s' := by
  unfold StreetEdge.traverse
  cases hm : s.mode with
  | none => simp
  | some mode =>
    cases hsp : s.request.speed mode with
    | none => simp [hsp]
    | some speed =>
      cases hr : s.rental.renting <;> cases hw : (mode == .walk) <;>
        simp_all [make_eq_some_iff, Editor.apply] <;> grind

/-- A street keeps the rental, the mode and the ride; ridden on a rented vehicle, it adds
its length to the distance ridden. -/
theorem StreetEdge.rental_of_traverse {e : StreetEdge} {s s' : State}
    (h : e.traverse s = some s') :
    s'.rental = s.rental ∧ s'.mode = s.mode ∧ s'.request = s.request ∧ s'.ride = s.ride ∧
      s'.rentalDistance =
        if s.rental.renting then s.rentalDistance + e.length else s.rentalDistance := by
  obtain ⟨mode, speed, -, -, -, -, -, hvalid, -, -, rfl⟩ := StreetEdge.traverse_eq_some.1 h
  cases hr : s.rental.renting
  · cases mode == .walk <;> simp [Editor.apply]
  · simp [hvalid hr, Editor.apply]

/-! ### Pick-ups -/

namespace PickupEdge

variable {e : PickupEdge} {s s' : State}

/-- Forward, a pick-up begins a rental of the station's vehicle from a state that is not
renting and has not completed a rental on its side of transit. -/
theorem traverse_departAt_eq_some (hd : s.request.direction = .departAt) :
    e.traverse s = some s' ↔
      s.request.mayPickUp e.station = true ∧ e.station.id ∉ s.rental.rentedVehicles ∧
        s.rental.renting = false ∧ s.completedOnCurrentSide = false ∧
        acceptsWeight s.request.pickupCost = true ∧ acceptsTime s.request.pickupTime = true ∧
        (((((s.edit e.info).beginRenting e.station.networks e.station.kind
          e.station.isFloating).addWeight s.request.pickupCost).addTime
          s.request.pickupTime).apply (.addRentedVehicle e.station.id)).child = s' := by
  simp only [PickupEdge.traverse, hd, Option.bind_eq_bind, Option.bind_none, Option.bind_some,
    Option.ite_none_left_eq_some, make_eq_some_iff, Editor.apply, updateRental_defect,
    addTime_defect_eq_none, addWeight_defect_eq_none, beginRenting_defect, edit_defect,
    Request.mayPickUp]
  simp only [Bool.or_eq_true, Bool.and_eq_true, List.contains_iff_mem, not_or, Bool.not_eq_true,
    true_and]
  grind

/-- What a forward pick-up records: the rental it begins and the station it was at. -/
theorem rental_of_traverse_departAt (hd : s.request.direction = .departAt)
    (h : e.traverse s = some s') :
    s'.rental = { s.rental with
        renting := true
        networks := e.station.networks
        kind := e.station.kind
        floatingDropoffs := e.station.isFloating
        preRentalMode := s.mode
        rentedVehicles := insertName e.station.id s.rental.rentedVehicles } ∧
      s'.mode = some e.station.kind.travelMode ∧ s'.rentalDistance = 0 ∧
      s'.request = s.request ∧ s'.ride = s.ride := by
  obtain ⟨-, -, -, -, -, -, rfl⟩ := (traverse_departAt_eq_some hd).1 h
  simp [Editor.apply]

/-- Backward, a pick-up ends the rental being traced: the vehicle ridden must be compatible
with the station's, the ride long enough unless it began at a border drop-off, and a ride
that began there must end at a floating vehicle. -/
theorem traverse_arriveBy_eq_some (hd : s.request.direction = .arriveBy) :
    e.traverse s = some s' ↔
      s.request.mayPickUp e.station = true ∧ e.station.id ∉ s.rental.rentedVehicles ∧
        s.rental.renting = true ∧ s.rental.kind.compatible e.station.kind = true ∧
        networksCompatible s.rental.networks e.station.networks = true ∧
        (s.rental.floatingDropoffs = false → ¬ s.rentalDistance < s.request.minimumRentalDistance) ∧
        (s.rental.floatingDropoffs = true → e.station.isFloating = true) ∧
        acceptsWeight s.request.pickupCost = true ∧ acceptsTime s.request.pickupTime = true ∧
        ((((((s.edit e.info).apply (.setKind e.station.kind)).endRenting.apply
          (.setBackMode s.rental.preRentalMode)).addWeight s.request.pickupCost).addTime
          s.request.pickupTime).apply (.addRentedVehicle e.station.id)).child = s' := by
  simp only [PickupEdge.traverse, hd, Option.bind_eq_bind, Option.bind_none, Option.bind_some,
    Option.ite_none_left_eq_some, make_eq_some_iff, Editor.apply, updateRental_defect,
    update_defect, endRenting_defect, addTime_defect_eq_none, addWeight_defect_eq_none,
    edit_defect, Request.mayPickUp]
  simp only [Bool.or_eq_true, Bool.and_eq_true, List.contains_iff_mem, not_or, Bool.not_eq_true,
    true_and]
  grind

/-- What a backward pick-up records: the rental it ends, on the side of transit the state
is on, and the station it was at.  The mode goes back to the one before the rental. -/
theorem rental_of_traverse_arriveBy (hd : s.request.direction = .arriveBy)
    (h : e.traverse s = some s') :
    s'.rental = { s.rental with
        renting := false
        networks := none
        kind := e.station.kind
        floatingDropoffs := false
        preRentalMode := none
        rentedPreTransit := !s.isPostTransit || s.rental.rentedPreTransit
        rentedPostTransit := s.isPostTransit || s.rental.rentedPostTransit
        rentedVehicles := insertName e.station.id s.rental.rentedVehicles } ∧
      s'.mode = s.rental.preRentalMode.or (some .walk) ∧ s'.rentalDistance = 0 ∧
      s'.request = s.request ∧ s'.ride = s.ride := by
  obtain ⟨-, -, -, -, -, -, -, -, -, rfl⟩ := (traverse_arriveBy_eq_some hd).1 h
  simp [Editor.apply, State.isPostTransit, State.isArriveBy]

end PickupEdge

/-! ### Drop-offs -/

namespace DropoffEdge

variable {e : DropoffEdge} {s s' : State}

/-- Forward, a drop-off ends the rental of a vehicle compatible with the station's, where
the state is allowed to drop it off. -/
theorem traverse_departAt_eq_some (hd : s.request.direction = .departAt) :
    e.traverse s = some s' ↔
      s.request.mayDropOff e.station = true ∧ s.dropoffAllowed e.station.isBorderDropoff = true ∧
        s.rental.kind.compatible e.station.kind = true ∧
        networksCompatible s.rental.networks e.station.networks = true ∧
        acceptsWeight s.request.dropoffCost = true ∧ acceptsTime s.request.dropoffTime = true ∧
        ((((s.edit e.info).endRenting.apply (.setBackMode s.mode)).addWeight
          s.request.dropoffCost).addTime s.request.dropoffTime).child = s' := by
  simp only [DropoffEdge.traverse, hd, Option.bind_eq_bind, Option.bind_none, Option.bind_some,
    Option.ite_none_left_eq_some, make_eq_some_iff, Editor.apply, update_defect,
    endRenting_defect, addTime_defect_eq_none, addWeight_defect_eq_none, edit_defect,
    Request.mayDropOff]
  simp only [Bool.or_eq_true, Bool.and_eq_true, not_or, Bool.not_eq_true, true_and]
  grind

/-- What a forward drop-off records: the rental it ends, on the side of transit the state
is on.  The mode goes back to the one before the rental. -/
theorem rental_of_traverse_departAt (hd : s.request.direction = .departAt)
    (h : e.traverse s = some s') :
    s'.rental = { s.rental with
        renting := false
        networks := none
        floatingDropoffs := false
        preRentalMode := none
        rentedPreTransit := !s.isPostTransit || s.rental.rentedPreTransit
        rentedPostTransit := s.isPostTransit || s.rental.rentedPostTransit } ∧
      s'.mode = s.rental.preRentalMode.or (some .walk) ∧ s'.rentalDistance = 0 ∧
      s'.request = s.request ∧ s'.ride = s.ride := by
  obtain ⟨-, -, -, -, -, -, rfl⟩ := (traverse_departAt_eq_some hd).1 h
  simp [Editor.apply, State.isPostTransit, State.isArriveBy]

/-- Backward, a drop-off begins tracing a rental of the station's vehicle from a state that
is not renting and has not completed a rental on its side of transit. -/
theorem traverse_arriveBy_eq_some (hd : s.request.direction = .arriveBy) :
    e.traverse s = some s' ↔
      s.request.mayDropOff e.station = true ∧ s.rental.renting = false ∧
        s.completedOnCurrentSide = false ∧
        acceptsWeight s.request.dropoffCost = true ∧ acceptsTime s.request.dropoffTime = true ∧
        ((((s.edit e.info).beginRenting e.station.networks e.station.kind
          e.station.isBorderDropoff).addWeight s.request.dropoffCost).addTime
          s.request.dropoffTime).child = s' := by
  simp only [DropoffEdge.traverse, hd, Option.bind_eq_bind, Option.bind_none, Option.bind_some,
    Option.ite_none_left_eq_some, make_eq_some_iff, beginRenting_defect,
    addTime_defect_eq_none, addWeight_defect_eq_none, edit_defect, Request.mayDropOff,
    State.dropoffAllowed]
  simp only [Bool.or_eq_true, Bool.and_eq_true, not_or, Bool.not_eq_true, true_and,
    Bool.not_eq_false']
  grind

/-- What a backward drop-off records: the rental it begins, which may end anywhere when the
station is a border drop-off. -/
theorem rental_of_traverse_arriveBy (hd : s.request.direction = .arriveBy)
    (h : e.traverse s = some s') :
    s'.rental = { s.rental with
        renting := true
        networks := e.station.networks
        kind := e.station.kind
        floatingDropoffs := e.station.isBorderDropoff
        preRentalMode := s.mode } ∧
      s'.mode = some e.station.kind.travelMode ∧ s'.rentalDistance = 0 ∧
      s'.request = s.request ∧ s'.ride = s.ride := by
  obtain ⟨-, -, -, -, -, rfl⟩ := (traverse_arriveBy_eq_some hd).1 h
  simp

end DropoffEdge

/-! ### Links -/

/-- A link lets a state through when rental is on and the state did not arrive by a link. -/
theorem LinkEdge.traverse_eq_some {e : LinkEdge} {s s' : State} :
    e.traverse s = some s' ↔
      s.request.allowRental = true ∧ s.backEdge.any (·.kind == .rentalLink) = false ∧
        ((s.edit e.info).apply (.setBackMode s.mode)).child = s' := by
  simp only [LinkEdge.traverse, Option.bind_eq_bind, Option.bind_none,
    Option.ite_none_left_eq_some, make_eq_some_iff, Editor.apply, update_defect, edit_defect]
  simp

/-- A link keeps everything a state knows about rentals, its mode and its ride. -/
theorem LinkEdge.rental_of_traverse {e : LinkEdge} {s s' : State} (h : e.traverse s = some s') :
    s'.rental = s.rental ∧ s'.mode = s.mode ∧ s'.rentalDistance = s.rentalDistance ∧
      s'.request = s.request ∧ s'.ride = s.ride := by
  obtain ⟨-, -, rfl⟩ := LinkEdge.traverse_eq_some.1 h
  simp [Editor.apply]

/-! ### Transit edges -/

namespace TransitEdit

/-- The editor accepts the edit: a time or a weight it adds is valid. -/
def accepted : TransitEdit → Bool
  | .wait seconds => acceptsTime seconds
  | .pay weight => acceptsWeight weight
  | _ => true

theorem applyAll_defect_eq_none (ed : Editor) (edits : List TransitEdit) :
    (ed.applyAll (edits.map edit)).defect = none ↔
      ed.defect = none ∧ ∀ te ∈ edits, te.accepted = true := by
  induction edits generalizing ed with
  | nil => simp [Editor.applyAll]
  | cons te edits ih =>
    simp only [Editor.applyAll, List.map_cons, List.foldl_cons] at ih ⊢
    rw [ih]
    cases te <;> simp [Editor.apply, accepted, edit, and_assoc]

/-- Transit edits change only the time, the weight, the back mode and the ride. -/
theorem applyAll_frame (ed : Editor) (edits : List TransitEdit) :
    let c := (ed.applyAll (edits.map edit)).child
    c.rental = ed.child.rental ∧ c.mode = ed.child.mode ∧
      c.rentalDistance = ed.child.rentalDistance ∧ c.request = ed.child.request ∧
      c.backEdge = ed.child.backEdge ∧
      c.ride.everBoarded = (ed.child.ride.everBoarded || edits.any boards) := by
  induction edits generalizing ed with
  | nil => simp [Editor.applyAll]
  | cons te edits ih =>
    simp only [Editor.applyAll, List.map_cons, List.foldl_cons] at ih ⊢
    obtain ⟨h1, h2, h3, h4, h5, h6⟩ := ih (ed.apply te.edit)
    refine ⟨?_, ?_, ?_, ?_, ?_, ?_⟩
    all_goals cases te <;> simp_all [Editor.apply, edit, boards]

end TransitEdit

namespace TransitEdge

variable {e : TransitEdge} {s s' : State}

theorem traverse_eq_some :
    e.traverse s = some s' ↔
      (∀ te ∈ e.edits, te.accepted = true) ∧
        ((s.edit e.info).applyAll (e.edits.map TransitEdit.edit)).child = s' := by
  simp [TransitEdge.traverse, make_eq_some_iff, TransitEdit.applyAll_defect_eq_none]

/-- A transit edge keeps what the state knows about rentals and its mode, and it boards
when one of its edits does. -/
theorem frame_of_traverse (h : e.traverse s = some s') :
    s'.rental = s.rental ∧ s'.mode = s.mode ∧ s'.rentalDistance = s.rentalDistance ∧
      s'.request = s.request ∧ s'.backEdge = some ⟨e.id, .transit⟩ ∧
      s'.ride.everBoarded = (s.ride.everBoarded || e.boards) := by
  obtain ⟨-, rfl⟩ := traverse_eq_some.1 h
  simpa [info, boards] using TransitEdit.applyAll_frame (s.edit e.info) e.edits

end TransitEdge

/-! ### Every edge is a run of editor steps -/

namespace PathEdge

/-- Whatever the edge, its successor is the child of editor steps taken from the start of the
successor. -/
theorem exists_edits_of_traverse {e : PathEdge} {s s' : State} (h : e.traverse s = some s') :
    ∃ edits : List Edit, ((s.edit e.info).applyAll edits).child = s' := by
  match e, h with
  | .transit e, h =>
    obtain ⟨-, rfl⟩ := TransitEdge.traverse_eq_some.1 h
    exact ⟨_, rfl⟩
  | .graph (.street e), h =>
    obtain ⟨mode, speed, -, -, -, -, -, -, -, rfl⟩ := StreetEdge.traverse_eq_some.1 h
    -- the length counts as ridden, as walked, or not at all
    split
    · exact ⟨[.addTime _, .addWeight _, .addRentalDistance _, .setBackMode _], rfl⟩
    split
    · exact ⟨[.addTime _, .addWeight _, .addWalkDistance _, .setBackMode _], rfl⟩
    · exact ⟨[.addTime _, .addWeight _, .setBackMode _], rfl⟩
  | .graph (.link e), h =>
    obtain ⟨-, -, rfl⟩ := LinkEdge.traverse_eq_some.1 h
    exact ⟨[.setBackMode _], rfl⟩
  | .graph (.pickup e), h =>
    cases hdir : s.request.direction with
    | departAt =>
      obtain ⟨-, -, -, -, -, -, rfl⟩ := (PickupEdge.traverse_departAt_eq_some hdir).1 h
      exact ⟨[.beginRenting _ _ _, .addWeight _, .addTime _, .addRentedVehicle _], rfl⟩
    | arriveBy =>
      obtain ⟨-, -, -, -, -, -, -, -, -, rfl⟩ := (PickupEdge.traverse_arriveBy_eq_some hdir).1 h
      exact ⟨[.setKind _, .endRenting, .setBackMode _, .addWeight _, .addTime _,
        .addRentedVehicle _], rfl⟩
  | .graph (.dropoff e), h =>
    cases hdir : s.request.direction with
    | departAt =>
      obtain ⟨-, -, -, -, -, -, rfl⟩ := (DropoffEdge.traverse_departAt_eq_some hdir).1 h
      exact ⟨[.endRenting, .setBackMode _, .addWeight _, .addTime _], rfl⟩
    | arriveBy =>
      obtain ⟨-, -, -, -, -, rfl⟩ := (DropoffEdge.traverse_arriveBy_eq_some hdir).1 h
      exact ⟨[.beginRenting _ _ _, .addWeight _, .addTime _], rfl⟩

end PathEdge

end RentalRouting
