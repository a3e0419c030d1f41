/-
RentalRouting/Proofs/Episode.lean

The rules every completed rental obeys, in either direction of search.  An episode is a
pick-up at a station `p` paired with the drop-off at a station `d` that ends it: forward
the next drop-off after the pick-up, backward the next pick-up after the drop-off.  The
loop that ends the episode decides from what the state recorded when it began: the kind,
networks and floating rule of the vehicle, and the distance ridden since.  Between the two
loops no step touches the rental record, and the distance ridden is the sum of the streets'
lengths in the order of search (`State.run_while_renting`), so the end's checks are
checks of `p` against `d` (`rental_episode_rules`).

One rule holds only where the minimum distance is a number or the search runs forward:
backward, the pick-up refuses a ride shorter than the minimum, and nothing is shorter than
NaN.
-/
import RentalRouting.Proofs.Float
import RentalRouting.Proofs.RentalCount

namespace RentalRouting

theorem networksCompatible_comm (a b : Networks) :
    networksCompatible a b = networksCompatible b a := by
  cases a <;> cases b <;> simp only [networksCompatible]
  rename_i a b
  rw [Bool.eq_iff_iff]
  simp only [List.any_eq_true, List.contains_iff_mem]
  exact ⟨fun ⟨x, ha, hb⟩ => ⟨x, hb, ha⟩, fun ⟨x, hb, ha⟩ => ⟨x, ha, hb⟩⟩

theorem isFinite_of_validDistance {m : Float} (h : Editor.validDistance m = true) :
    m.isFinite = true := by
  simp only [Editor.validDistance, Bool.and_eq_true] at h
  exact h.1

/-- Adding finite numbers to one that is not NaN, in any order, gives a number that is not
NaN. -/
theorem isNaN_foldl_add {x : Float} {ls : List Float} (hx : x.isNaN = false)
    (hls : ∀ l ∈ ls, l.isFinite = true) : (ls.foldl (· + ·) x).isNaN = false := by
  induction ls generalizing x with
  | nil => exact hx
  | cons l ls ih =>
    exact ih (Float.isNaN_add hx (hls l List.mem_cons_self))
      fun l' hl' => hls l' (List.mem_cons_of_mem l hl')

/-- A street ridden on a rented vehicle has a valid length. -/
theorem PathEdge.validDistance_of_traverse {e : PathEdge} {s s' : State} {l : Float}
    (h : e.traverse s = some s') (hr : s.rental.renting = true) (hl : e.streetLength? = some l) :
    Editor.validDistance l = true := by
  -- only a street has a length
  obtain ⟨e, rfl⟩ : ∃ e', e = .graph (.street e') := by
    rcases e with (_ | _ | _ | _) | _ <;> simp_all [streetLength?]
  obtain ⟨_, _, -, -, -, -, -, hvalid, -⟩ := StreetEdge.traverse_eq_some.1 h
  simp only [streetLength?, Option.some.injEq] at hl
  exact hl ▸ hvalid hr

/-! ### Between the two loops -/

/-- While a rental is open and no loop ends it, a run keeps the rental record, the mode and
the request, and adds the lengths of the streets it rides, each valid, to the distance
ridden. -/
theorem State.run_while_renting {u w : State} {mid : List PathEdge} (hrun : u.run mid = some w)
    (hr : u.rental.renting = true) (hmid : ∀ e ∈ mid, e.rentalMove u.isArriveBy ≠ some false) :
    w.rental = u.rental ∧ w.mode = u.mode ∧ w.request = u.request ∧
      w.rentalDistance = (streetLengths mid).foldl (· + ·) u.rentalDistance ∧
      ∀ l ∈ streetLengths mid, Editor.validDistance l = true := by
  induction mid generalizing u with
  | nil => cases hrun; simp
  | cons e mid ih =>
    obtain ⟨u₁, hu, hrest⟩ := run_cons_eq_some.1 hrun
    have hq := PathEdge.request_of_traverse hu
    cases PathEdge.rentalStep_of_traverse hu with
    | keep _ hrental hmode hdist =>
      -- the rental stays open, so the rest of the run is again between the loops
      have hdir := PathEdge.isArriveBy_of_traverse hu
      obtain ⟨hr', hm', hq', hd', hv'⟩ := ih hrest (by rw [hrental, hr])
        fun e' he' => hdir ▸ hmid e' (List.mem_cons_of_mem e he')
      refine ⟨hr'.trans hrental, hm'.trans hmode, hq'.trans hq, ?_, ?_⟩
      · rw [hd', hdist, hr, streetLengths_cons]
        cases e.streetLength? <;> simp
      · intro l hl
        simp only [streetLengths_cons, List.mem_append, Option.mem_toList] at hl
        rcases hl with hl | hl
        · exact PathEdge.validDistance_of_traverse hu hr hl
        · exact hv' l hl
    | begin _ _ _ _ hr₀ => simp [hr] at hr₀
    | finish _ _ hmove => exact absurd hmove (hmid e List.mem_cons_self)

/-- A run through a rental episode passes through the states before its first loop and
after its last. -/
theorem State.run_episode {s t : State} {first last : PathEdge} {es₁ mid es₂ : List PathEdge}
    (h : s.run (es₁ ++ first :: mid ++ last :: es₂) = some t) :
    ∃ u₀ u₁ u₂ u₃, s.run es₁ = some u₀ ∧ first.traverse u₀ = some u₁ ∧
      u₁.run mid = some u₂ ∧ last.traverse u₂ = some u₃ ∧
      s.run (es₁ ++ first :: mid ++ [last]) = some u₃ := by
  obtain ⟨u₂', hpre, hlast⟩ := run_append_eq_some.1 h
  obtain ⟨u₃, hu₃, -⟩ := run_cons_eq_some.1 hlast
  obtain ⟨u₀, h₀, hfirst⟩ := run_append_eq_some.1 hpre
  obtain ⟨u₁, hu₁, hmid⟩ := run_cons_eq_some.1 hfirst
  refine ⟨u₀, u₁, u₂', u₃, h₀, hu₁, hmid, hu₃, ?_⟩
  rw [run_append, hpre, Option.bind_some, run_singleton, hu₃]

/-! ### The rules -/

/-- The rules a rental from the station `p` to the station `d` obeys, where the streets
ridden in between have the given lengths in the order of search. -/
structure EpisodeRules (request : Request) (p d : Station) (lengths : List Float) : Prop where
  /-- The stations let a vehicle go and take it back. -/
  allowed : p.allowPickup = true ∧ d.allowDropoff = true
  /-- Both stations are permitted. -/
  permitted : request.permits p = true ∧ request.permits d = true
  /-- As far as the request looks, `p` has a vehicle and `d` a space. -/
  available : request.hasVehicleToRent p = true ∧ request.hasSpaceToPark d = true
  compatible : p.kind.compatible d.kind = true
  networks : networksCompatible p.networks d.networks = true
  /-- Away from a border the ride is at least the minimum, when the minimum is a number or
  the search runs forward. -/
  distance : d.isBorderDropoff = false →
    (request.direction = .departAt ∨ request.minimumRentalDistance.isNaN = false) →
    request.minimumRentalDistance ≤ lengths.foldl (· + ·) 0
  /-- Only a floating vehicle is left at a border. -/
  floating : d.isBorderDropoff = true → p.isFloating = true

/-- The two loops of an episode in the order of search: forward the pick-up first,
backward the drop-off first. -/
def episodeLoops (arriveBy : Bool) (p : PickupEdge) (d : DropoffEdge) : PathEdge × PathEdge :=
  if arriveBy then (.graph (.dropoff d), .graph (.pickup p))
  else (.graph (.pickup p), .graph (.dropoff d))

variable {vertex : VertexId} {time : Int64} {request : Request} {p : PickupEdge} {d : DropoffEdge}
  {es₁ mid : List PathEdge} {u₀ u₁ u₂ u₃ : State}

/-- Forward, the drop-off checks what the pick-up recorded. -/
theorem episode_departAt (hdir : request.direction = .departAt)
    (h₀ : (State.origin vertex time request).run es₁ = some u₀)
    (h₁ : PickupEdge.traverse p u₀ = some u₁) (h₂ : u₁.run mid = some u₂)
    (h₃ : DropoffEdge.traverse d u₂ = some u₃)
    (hmid : ∀ e ∈ mid, e.rentalMove false ≠ some false) :
    EpisodeRules request p.station d.station (streetLengths mid) ∧
      u₃.mode = u₀.mode.or (some .walk) := by
  have hq₀ : u₀.request = request := State.request_of_run h₀
  have hd₀ : u₀.request.direction = .departAt := by rw [hq₀, hdir]
  obtain ⟨hrental₁, -, hdist₁, hq₁, -⟩ := PickupEdge.rental_of_traverse_departAt hd₀ h₁
  have hd₁ : u₁.request.direction = .departAt := by rw [hq₁, hd₀]
  -- between the loops the rental recorded by the pick-up stays as it was
  obtain ⟨hrental₂, -, hq₂, hdist₂, -⟩ := State.run_while_renting h₂ (by simp [hrental₁])
    (by rwa [State.isArriveBy_of_departAt hd₁])
  have hq₂₀ : u₂.request = request := by rw [hq₂, hq₁, hq₀]
  have hd₂ : u₂.request.direction = .departAt := by rw [hq₂₀, hdir]
  obtain ⟨hmayP, -⟩ := (PickupEdge.traverse_departAt_eq_some hd₀).1 h₁
  obtain ⟨hmayD, hallowed, hcompat, hnet, -⟩ := (DropoffEdge.traverse_departAt_eq_some hd₂).1 h₃
  obtain ⟨-, hmode₃, -⟩ := DropoffEdge.rental_of_traverse_departAt hd₂ h₃
  rw [hq₀] at hmayP
  rw [hq₂₀] at hmayD
  simp only [Request.mayPickUp, Request.mayDropOff, Bool.and_eq_true] at hmayP hmayD
  simp only [hrental₂, hrental₁] at hcompat hnet hmode₃
  simp only [State.dropoffAllowed, hq₂₀, hdir, hrental₂, hrental₁, hdist₂, hdist₁] at hallowed
  refine ⟨⟨⟨hmayP.1.1.2, hmayD.1.1.2⟩, ⟨hmayP.2, hmayD.1.2⟩, ⟨hmayP.1.2, hmayD.2⟩, hcompat, hnet,
    fun hb _ => ?_, fun hb => ?_⟩, hmode₃⟩
  · simpa [hb] using hallowed
  · simpa [hb] using hallowed

/-- Backward, the pick-up checks what the drop-off recorded, and refuses a ride shorter
than the minimum. -/
theorem episode_arriveBy (hdir : request.direction = .arriveBy)
    (h₀ : (State.origin vertex time request).run es₁ = some u₀)
    (h₁ : DropoffEdge.traverse d u₀ = some u₁) (h₂ : u₁.run mid = some u₂)
    (h₃ : PickupEdge.traverse p u₂ = some u₃)
    (hmid : ∀ e ∈ mid, e.rentalMove true ≠ some false) :
    EpisodeRules request p.station d.station (streetLengths mid) ∧
      u₃.mode = u₀.mode.or (some .walk) ∧
      (d.station.isBorderDropoff = false →
        ¬ (streetLengths mid).foldl (· + ·) 0 < request.minimumRentalDistance) := by
  have hq₀ : u₀.request = request := State.request_of_run h₀
  have hd₀ : u₀.request.direction = .arriveBy := by rw [hq₀, hdir]
  obtain ⟨hrental₁, -, hdist₁, hq₁, -⟩ := DropoffEdge.rental_of_traverse_arriveBy hd₀ h₁
  have hd₁ : u₁.request.direction = .arriveBy := by rw [hq₁, hd₀]
  -- between the loops the rental recorded by the drop-off stays as it was
  obtain ⟨hrental₂, -, hq₂, hdist₂, hvalid⟩ := State.run_while_renting h₂ (by simp [hrental₁])
    (by rwa [State.isArriveBy_of_arriveBy hd₁])
  have hq₂₀ : u₂.request = request := by rw [hq₂, hq₁, hq₀]
  have hd₂ : u₂.request.direction = .arriveBy := by rw [hq₂₀, hdir]
  obtain ⟨hmayD, -⟩ := (DropoffEdge.traverse_arriveBy_eq_some hd₀).1 h₁
  obtain ⟨hmayP, -, -, hcompat, hnet, hshort, hfloat, -⟩ :=
    (PickupEdge.traverse_arriveBy_eq_some hd₂).1 h₃
  obtain ⟨-, hmode₃, -⟩ := PickupEdge.rental_of_traverse_arriveBy hd₂ h₃
  rw [hq₀] at hmayD
  rw [hq₂₀] at hmayP hshort
  simp only [Request.mayPickUp, Request.mayDropOff, Bool.and_eq_true] at hmayP hmayD
  simp only [hrental₂, hrental₁] at hcompat hnet hmode₃ hshort hfloat
  rw [hdist₂, hdist₁] at hshort
  refine ⟨⟨⟨hmayP.1.1.2, hmayD.1.1.2⟩, ⟨hmayP.2, hmayD.1.2⟩, ⟨hmayP.1.2, hmayD.2⟩,
    by rwa [VehicleKind.compatible_comm], by rwa [networksCompatible_comm],
    fun hb hmin => ?_, hfloat⟩, hmode₃, hshort⟩
  -- the pick-up refuses a ride shorter than the minimum, which against a number means a
  -- ride at least the minimum
  have hnum : request.minimumRentalDistance.isNaN = false := by simpa [hdir] using hmin
  have hsum : ((streetLengths mid).foldl (· + ·) 0).isNaN = false :=
    isNaN_foldl_add (by decide +kernel) fun l hl => isFinite_of_validDistance (hvalid l hl)
  exact Float.le_of_not_lt hsum hnum (hshort hb)

/-- Every completed rental episode on a path obeys the rental rules, in either direction of
search and for every request: both stations allow and permit it and have a vehicle or a
space, the vehicles and networks are compatible, a ride away from a border is at least the
minimum distance (where the minimum is a number or the search runs forward), a ride to a
border starts from a floating vehicle, and the end of the episode gives back the mode the
state had before it began, walking if it had none. -/
theorem rental_episode_rules {first last : PathEdge} {es₂ : List PathEdge} {t : State}
    (hloops : episodeLoops request.isArriveBy p d = (first, last))
    (hmid : ∀ e ∈ mid, e.rentalMove request.isArriveBy ≠ some false)
    (hrun : (State.origin vertex time request).run (es₁ ++ first :: mid ++ last :: es₂) = some t) :
    EpisodeRules request p.station d.station (streetLengths mid) ∧
      ∀ u w, (State.origin vertex time request).run es₁ = some u →
        (State.origin vertex time request).run (es₁ ++ first :: mid ++ [last]) = some w →
        w.mode = u.mode.or (some .walk) := by
  obtain ⟨u₀, u₁, u₂, u₃, h₀, h₁, h₂, h₃, hw⟩ := State.run_episode hrun
  have hrules : EpisodeRules request p.station d.station (streetLengths mid) ∧
      u₃.mode = u₀.mode.or (some .walk) := by
    unfold episodeLoops Request.isArriveBy at hloops
    unfold Request.isArriveBy at hmid
    cases hdir : request.direction with
    | departAt =>
      simp only [hdir] at hloops hmid
      obtain ⟨rfl, rfl⟩ := Prod.mk.inj hloops.symm
      exact episode_departAt hdir h₀ h₁ h₂ h₃ hmid
    | arriveBy =>
      simp only [hdir] at hloops hmid
      obtain ⟨rfl, rfl⟩ := Prod.mk.inj hloops.symm
      obtain ⟨hrules, hmode, -⟩ := episode_arriveBy hdir h₀ h₁ h₂ h₃ hmid
      exact ⟨hrules, hmode⟩
  refine ⟨hrules.1, fun u w hu hw' => ?_⟩
  obtain rfl := Option.some.inj (h₀.symm.trans hu)
  obtain rfl := Option.some.inj (hw.symm.trans hw')
  exact hrules.2

/-- The sample ride is one episode, from the first station to the second. -/
theorem sampleRide_obeys_rules :
    EpisodeRules sampleRequest sampleStationA sampleStationB [1000] := by
  obtain ⟨t, ht⟩ := Option.isSome_iff_exists.1
    (by decide +kernel : ((State.origin 1 0 sampleRequest).run sampleRide).isSome = true)
  have hrun : (State.origin 1 0 sampleRequest).run
      ([] ++ .graph (.pickup ⟨0, 1, sampleStationA⟩) ::
        [.graph (.street ⟨1, 1, 2, 1000, { walk := true, micromobility := true }⟩)] ++
        .graph (.dropoff ⟨2, 2, sampleStationB⟩) :: []) = some t := ht
  exact (rental_episode_rules rfl (by decide) hrun).1

/-- A backward request whose minimum rental distance is NaN. -/
def nanMinimumRequest : Request :=
  { direction := .arriveBy, allowRental := true, modes := { walk := true, micromobility := true },
    minimumRentalDistance := 0.0 / 0.0 }

/-- Traced backward: drop off a bicycle at one station, ride a kilometre, pick it up at the
other. -/
def nanMinimumRide : List PathEdge :=
  [.graph (.dropoff ⟨11, 2, { sampleStationB with kind := .bicycle }⟩),
   .graph (.street ⟨20, 1, 2, 1000, { walk := true, micromobility := true }⟩),
   .graph (.pickup ⟨10, 1, { sampleStationA with kind := .bicycle }⟩)]

/-- With a NaN minimum a backward search completes the episode, though the kilometre ridden
is not at least the minimum. -/
theorem nanMinimumRide_short_of_minimum :
    ((State.origin 2 0 nanMinimumRequest).run nanMinimumRide).isSome = true ∧
      ¬ nanMinimumRequest.minimumRentalDistance ≤ (streetLengths nanMinimumRide).foldl (· + ·) 0 :=
  ⟨by decide +kernel, by decide +kernel⟩

end RentalRouting
