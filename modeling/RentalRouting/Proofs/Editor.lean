/-
RentalRouting/Proofs/Editor.lean

What each step of the editor does to the successor it builds.  A step either changes the
child, and only the fields it names, or records a defect and leaves the child alone; a
recorded defect is never taken back.  So an editor makes a state exactly when none of its
steps met an invalid increment, and the state it makes is the child with every step's
change applied:

    ed.make = some s  ↔  ed.defect = none ∧ ed.child = s.

The child lemmas are stated as structure updates, so the fields a step leaves alone
simplify away by projection.
-/
import RentalRouting.Search.Editor

namespace RentalRouting

namespace Editor

/-- The editor accepts a weight increment that is a number and not negative. -/
def acceptsWeight (w : Float) : Bool := !(w.isNaN || w < 0)

/-- The editor accepts a time increment that is finite and not negative. -/
def acceptsTime (t : Float) : Bool := !(!t.isFinite || t < 0)

/-! ### Making the state -/

theorem make_eq_some_iff {ed : Editor} {s : State} :
    ed.make = some s ↔ ed.defect = none ∧ ed.child = s := by
  unfold make finish
  cases h : ed.defect <;> simp

theorem make_eq_none_of_defect {ed : Editor} (h : ed.defect ≠ none) : ed.make = none := by
  unfold make finish
  cases hd : ed.defect
  · exact absurd hd h
  · rfl

/-! ### Defects -/

@[simp] theorem update_defect (ed : Editor) (f : State → State) :
    (ed.update f).defect = ed.defect := rfl

@[simp] theorem updateRental_defect (ed : Editor) (f : RentalFacts → RentalFacts) :
    (ed.updateRental f).defect = ed.defect := rfl

@[simp] theorem updateRide_defect (ed : Editor) (f : RideFacts → RideFacts) :
    (ed.updateRide f).defect = ed.defect := rfl

@[simp] theorem beginRenting_defect (ed : Editor) (networks : Networks) (kind : VehicleKind)
    (floating : Bool) : (ed.beginRenting networks kind floating).defect = ed.defect := rfl

@[simp] theorem endRenting_defect (ed : Editor) : ed.endRenting.defect = ed.defect := rfl

@[simp] theorem boardTrip_defect (ed : Editor) (trip route pattern : String) (day : Date) :
    (ed.boardTrip trip route pattern day).defect = ed.defect := rfl

@[simp] theorem alightTrip_defect (ed : Editor) : ed.alightTrip.defect = ed.defect := rfl

@[simp] theorem edit_defect (s : State) (e : EdgeInfo) : (s.edit e).defect = none := rfl

theorem flag_defect_ne_none (ed : Editor) (d : Defect) : (ed.flag d).defect ≠ none := by
  unfold flag
  split
  · next h => simpa [Option.isSome_iff_ne_none] using h
  · simp

@[simp] theorem addWeight_defect_eq_none (ed : Editor) (w : Float) :
    (ed.addWeight w).defect = none ↔ ed.defect = none ∧ acceptsWeight w = true := by
  unfold addWeight acceptsWeight
  split
  · next h =>
    rw [h]
    simp [flag_defect_ne_none]
  · next h =>
    rw [Bool.eq_false_iff.mpr h]
    simp

@[simp] theorem addTime_defect_eq_none (ed : Editor) (t : Float) :
    (ed.addTime t).defect = none ↔ ed.defect = none ∧ acceptsTime t = true := by
  unfold addTime acceptsTime
  split
  · next h =>
    rw [h]
    simp [flag_defect_ne_none]
  · next h =>
    rw [Bool.eq_false_iff.mpr h]
    simp

@[simp] theorem addWalkDistance_defect_eq_none (ed : Editor) (m : Float) :
    (ed.addWalkDistance m).defect = none ↔ ed.defect = none ∧ validDistance m = true := by
  unfold addWalkDistance
  split
  · next h => simp [h]
  · next h => simp [h, flag_defect_ne_none]

@[simp] theorem addRentalDistance_defect_eq_none (ed : Editor) (m : Float) :
    (ed.addRentalDistance m).defect = none ↔ ed.defect = none ∧ validDistance m = true := by
  unfold addRentalDistance
  split
  · next h => simp [h]
  · next h => simp [h, flag_defect_ne_none]

/-! ### The child -/

@[simp] theorem update_child (ed : Editor) (f : State → State) :
    (ed.update f).child = f ed.child := rfl

@[simp] theorem flag_child (ed : Editor) (d : Defect) : (ed.flag d).child = ed.child := by
  unfold flag
  split <;> rfl

@[simp] theorem addWeight_child (ed : Editor) (w : Float) :
    (ed.addWeight w).child =
      { ed.child with
        weight := if acceptsWeight w then ed.child.weight + w else ed.child.weight } := by
  obtain ⟨⟨⟩, edge, defect⟩ := ed
  unfold addWeight acceptsWeight
  split
  · next h =>
    rw [h]
    simp
  · next h =>
    rw [Bool.eq_false_iff.mpr h]
    simp

@[simp] theorem addTime_child (ed : Editor) (t : Float) :
    (ed.addTime t).child =
      { ed.child with
        time := if acceptsTime t then
            (if ed.child.isArriveBy then ed.child.time - Int64.ofInt (Double.roundToWord t)
            else ed.child.time + Int64.ofInt (Double.roundToWord t))
          else ed.child.time } := by
  obtain ⟨⟨⟩, edge, defect⟩ := ed
  unfold addTime acceptsTime
  split
  · next h =>
    rw [h]
    simp
  · next h =>
    rw [Bool.eq_false_iff.mpr h]
    simp

@[simp] theorem addWalkDistance_child (ed : Editor) (m : Float) :
    (ed.addWalkDistance m).child =
      { ed.child with
        walkDistance := if validDistance m then ed.child.walkDistance + m
          else ed.child.walkDistance } := by
  obtain ⟨⟨⟩, edge, defect⟩ := ed
  unfold addWalkDistance
  split <;> simp_all

@[simp] theorem addRentalDistance_child (ed : Editor) (m : Float) :
    (ed.addRentalDistance m).child =
      { ed.child with
        rentalDistance := if validDistance m then ed.child.rentalDistance + m
          else ed.child.rentalDistance } := by
  obtain ⟨⟨⟩, edge, defect⟩ := ed
  unfold addRentalDistance
  split <;> simp_all

@[simp] theorem edit_child (s : State) (e : EdgeInfo) :
    (s.edit e).child =
      { s with
        vertex := if s.isArriveBy then e.source else e.target
        backEdge := some ⟨e.id, e.kind⟩
        back := some s } := rfl

@[simp] theorem edit_edge (s : State) (e : EdgeInfo) : (s.edit e).edge = e.id := rfl

@[simp] theorem updateRental_child (ed : Editor) (f : RentalFacts → RentalFacts) :
    (ed.updateRental f).child = { ed.child with rental := f ed.child.rental } := rfl

@[simp] theorem updateRide_child (ed : Editor) (f : RideFacts → RideFacts) :
    (ed.updateRide f).child = { ed.child with ride := f ed.child.ride } := rfl

@[simp] theorem beginRenting_child (ed : Editor) (networks : Networks) (kind : VehicleKind)
    (floating : Bool) :
    (ed.beginRenting networks kind floating).child =
      { ed.child with
        rentalDistance := 0
        mode := some kind.travelMode
        rental := { ed.child.rental with
          preRentalMode := ed.child.mode
          renting := true
          networks := networks
          kind := kind
          floatingDropoffs := floating } } := rfl

@[simp] theorem endRenting_child (ed : Editor) :
    ed.endRenting.child =
      { ed.child with
        rentalDistance := 0
        mode := ed.child.rental.preRentalMode.or (some .walk)
        rental := { ed.child.rental with
          renting := false
          rentedPostTransit := ed.child.isPostTransit || ed.child.rental.rentedPostTransit
          rentedPreTransit := !ed.child.isPostTransit || ed.child.rental.rentedPreTransit
          preRentalMode := none
          networks := none
          floatingDropoffs := false } } := rfl

@[simp] theorem boardTrip_child (ed : Editor) (trip route pattern : String) (day : Date) :
    (ed.boardTrip trip route pattern day).child =
      { ed.child with
        backMode := some .transit
        ride := { ed.child.ride with
          everBoarded := true
          boardings := (ed.child.ride.boardings + 1) % Nat.pow 2 32
          trip := some trip
          route := some route
          pattern := some pattern
          serviceDay := some day } } := rfl

@[simp] theorem alightTrip_child (ed : Editor) :
    ed.alightTrip.child =
      { ed.child with
        ride := { ed.child.ride with
          trip := none
          route := none
          pattern := none
          lastAlighted := some ed.child.time } } := rfl

/-! ### What no step changes -/

theorem applyAll_cons (ed : Editor) (x : Edit) (edits : List Edit) :
    ed.applyAll (x :: edits) = (ed.apply x).applyAll edits := rfl

/-- No step moves the child, or changes the edge it came by or the state it came from. -/
theorem apply_position (ed : Editor) (x : Edit) :
    (ed.apply x).child.vertex = ed.child.vertex ∧ (ed.apply x).child.backEdge = ed.child.backEdge ∧
      (ed.apply x).child.back = ed.child.back := by
  cases x <;> simp [apply]

theorem applyAll_position (ed : Editor) (edits : List Edit) :
    (ed.applyAll edits).child.vertex = ed.child.vertex ∧
      (ed.applyAll edits).child.backEdge = ed.child.backEdge ∧
      (ed.applyAll edits).child.back = ed.child.back := by
  induction edits generalizing ed with
  | nil => exact ⟨rfl, rfl, rfl⟩
  | cons x edits ih =>
    obtain ⟨hv, he, hb⟩ := apply_position ed x
    obtain ⟨hv', he', hb'⟩ := ih (ed.apply x)
    exact ⟨hv'.trans hv, he'.trans he, hb'.trans hb⟩

end Editor

end RentalRouting
