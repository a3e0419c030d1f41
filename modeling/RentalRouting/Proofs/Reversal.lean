/-
RentalRouting/Proofs/Reversal.lean

A path searched both ways.  The forward search of a request takes the edges of a path in
order from the path's first vertex; the backward search of the same request takes them in
reverse from its last.  Split the path at an edge as `es₁ ++ e :: es₂`: the forward search
takes `e` from the state `es₁` leads it to, the backward one from the state `es₂` reversed
leads it to.  When the rental loops of the path alternate, a pick-up first and a drop-off
last (`RentalsAlternate`), the two states agree on what the checks of `e` read:

* both rent or neither, where `e` is not a loop; at a loop exactly one does, the forward
  one at a drop-off (`renting_at_split`);
* they travel in the same mode, when the request starts in one and the two vehicles of each
  rental share a mode (`mode_at_split`).

The checks that look further along the path hold in turn: a link never follows a link
(`State.not_isLink_of_run`), no station is picked up at twice, and a rental never begins
on the side of transit where one ended: a boarding lies between the two loops, and none
follows the later one when no loop has boardings on both sides
(`State.boarding_between_of_run`).  So where the forward search goes through the path, the
backward one takes every edge of it as well (`backward_run_of_forward`), and conversely
(`forward_run_of_backward`), save for the distance ridden: forward a ride's lengths are
summed in travel order and compared by `≥`, backward summed in reverse and compared by
`<`, and the two sums of floating-point numbers may differ (`RidesLongEnough`).
-/
import RentalRouting.Proofs.History

namespace RentalRouting

/-! ### Rental loops -/

@[simp] theorem Request.isArriveBy_with_departAt (r : Request) :
    ({ r with direction := .departAt } : Request).isArriveBy = false := rfl

@[simp] theorem Request.isArriveBy_with_arriveBy (r : Request) :
    ({ r with direction := .arriveBy } : Request).isArriveBy = true := rfl

namespace PathEdge

variable {e : PathEdge}

theorem loop?_eq_none_iff : e.loop? = none ↔ e.isLoop = false := by
  simp [isLoop]

theorem loop?_eq_some_true_iff : e.loop? = some true ↔ ∃ p, e = .graph (.pickup p) := by
  match e with
  | .graph (.pickup _) | .graph (.dropoff _) | .graph (.street _) | .graph (.link _)
  | .transit _ => simp [loop?]

theorem loop?_eq_some_false_iff : e.loop? = some false ↔ ∃ d, e = .graph (.dropoff d) := by
  match e with
  | .graph (.pickup _) | .graph (.dropoff _) | .graph (.street _) | .graph (.link _)
  | .transit _ => simp [loop?]

theorem rentalMove_eq_some_iff {arriveBy b : Bool} :
    e.rentalMove arriveBy = some b ↔ e.loop? = some (b != arriveBy) := by
  cases h : e.loop? with
  | none => simp [rentalMove, h]
  | some c => cases b <;> cases c <;> cases arriveBy <;> simp [rentalMove, h]

end PathEdge

theorem rentalMoves_eq_map (arriveBy : Bool) (path : List PathEdge) :
    rentalMoves arriveBy path = (path.filterMap PathEdge.loop?).map (· != arriveBy) := by
  rw [rentalMoves, List.map_filterMap]
  rfl

/-- Along flags that change at every step, the last one is the first after an even number of
steps and the other after an odd number. -/
theorem getLast?_getD_of_isChain_ne {b : Bool} {l : List Bool} (h : (b :: l).IsChain (· ≠ ·)) :
    l.getLast?.getD b = if Even l.length then b else !b := by
  induction l generalizing b with
  | nil => simp
  | cons c l ih =>
    obtain ⟨hcb, hchain⟩ := List.isChain_cons_cons.1 h
    have hc : c = !b := by cases b <;> cases c <;> simp_all
    rw [List.getLast?_cons, Option.getD_some, ih hchain, hc, List.length_cons]
    by_cases he : Even l.length <;> simp [he, Nat.even_add_one]

/-- Cut flags that alternate from `false` and come in an even number: the last flag before
the cut is the opposite of the first after it, and `false` when the cut is at the end. -/
theorem getLast?_getD_eq_of_alternate {l₁ l₂ : List Bool}
    (h : (false :: (l₁ ++ l₂)).IsChain (· ≠ ·)) (he : Even (l₁ ++ l₂).length) :
    (l₂.head?.map (!·)).getD false = l₁.getLast?.getD false := by
  cases l₂ with
  | nil =>
    rw [List.append_nil] at h he
    simp [getLast?_getD_of_isChain_ne h, he]
  | cons y l₂ =>
    rw [← List.cons_append, List.isChain_append] at h
    have hy : l₁.getLast?.getD false ≠ y :=
      h.2.2 _ (by simp [List.getLast?_cons]) y rfl
    simp only [List.head?_cons, Option.map_some, Option.getD_some]
    cases y <;> simp_all

/-! ### What a path must be -/

/-- The rental loops of a path alternate, a pick-up first and a drop-off last. -/
def RentalsAlternate (path : List PathEdge) : Prop :=
  (false :: path.filterMap PathEdge.loop?).IsChain (· ≠ ·) ∧
    Even (path.filterMap PathEdge.loop?).length

instance (path : List PathEdge) : Decidable (RentalsAlternate path) := by
  unfold RentalsAlternate
  infer_instance

/-- Each rental along the path is ridden in one mode: the vehicles of its pick-up and of its
drop-off have the same travel mode. -/
def RidesInOneMode (path : List PathEdge) : Prop :=
  ∀ es₁ p mid d es₂, path = es₁ ++ .graph (.pickup p) :: mid ++ .graph (.dropoff d) :: es₂ →
    (∀ e ∈ mid, e.isLoop = false) → p.station.kind.travelMode = d.station.kind.travelMode

/-- No rental loop of the path has a boarding before it and another after it. -/
def BoardingsTogether (path : List PathEdge) : Prop :=
  ∀ es₁ e es₂, path = es₁ ++ e :: es₂ → e.isLoop = true →
    ¬ (es₁.any PathEdge.boards = true ∧ es₂.any PathEdge.boards = true)

/-- Whether a ride along streets of the given lengths, in travel order, is long enough as a
search checks it: forward their sum in travel order is at least the minimum, backward their
sum in the order of search is not below it. -/
def rideLongEnough (arriveBy : Bool) (minimum : Float) (lengths : List Float) : Prop :=
  if arriveBy then ¬ lengths.reverse.foldl (· + ·) 0 < minimum
  else minimum ≤ lengths.foldl (· + ·) 0

instance (arriveBy : Bool) (minimum : Float) (lengths : List Float) :
    Decidable (rideLongEnough arriveBy minimum lengths) := by
  unfold rideLongEnough
  infer_instance

/-- Every ride of the path that does not end at a border drop-off is long enough as a search
of the given direction checks it. -/
def RidesLongEnough (arriveBy : Bool) (minimum : Float) (path : List PathEdge) : Prop :=
  ∀ es₁ p mid d es₂, path = es₁ ++ .graph (.pickup p) :: mid ++ .graph (.dropoff d) :: es₂ →
    (∀ e ∈ mid, e.isLoop = false) → d.station.isBorderDropoff = false →
    rideLongEnough arriveBy minimum (streetLengths mid)

theorem BoardingsTogether.reverse {path : List PathEdge} (h : BoardingsTogether path) :
    BoardingsTogether path.reverse := by
  intro es₁ e es₂ hsplit he hboth
  have hpath : path = es₂.reverse ++ e :: es₁.reverse := by
    rw [← List.reverse_reverse path, hsplit]
    simp
  exact h _ e _ hpath he ⟨by simpa using hboth.2, by simpa using hboth.1⟩

/-- A path that boards nowhere has no loop with boardings on both sides. -/
theorem BoardingsTogether.of_boards_eq_false {path : List PathEdge}
    (h : ∀ e ∈ path, e.boards = false) : BoardingsTogether path := by
  rintro es₁ e es₂ hsplit - ⟨hbefore, -⟩
  obtain ⟨x, hx, hb⟩ := List.any_eq_true.1 hbefore
  rw [h x (by simp [hsplit, hx])] at hb
  exact Bool.false_ne_true hb

/-- A path whose pick-ups and drop-offs all hold vehicles of one travel mode rides each of
its rentals in that mode. -/
theorem RidesInOneMode.of_travelMode {path : List PathEdge} {m : TravelMode}
    (hp : ∀ p, PathEdge.graph (.pickup p) ∈ path → p.station.kind.travelMode = m)
    (hd : ∀ d, PathEdge.graph (.dropoff d) ∈ path → d.station.kind.travelMode = m) :
    RidesInOneMode path := by
  intro es₁ p mid d es₂ hsplit _
  rw [hp p (by simp [hsplit]), hd d (by simp [hsplit])]

/-! ### What one search meets along a path -/

namespace State

variable {vertex : VertexId} {time : Int64} {q : Request} {es : List PathEdge} {u : State}

/-- Forward, a state that rents rides the vehicle of the last pick-up, in its mode, along
the streets since. -/
theorem forward_rental_of_renting (hq : q.direction = .departAt)
    (hu : (origin vertex time q).run es = some u) (hr : u.rental.renting = true) :
    ∃ A p mid, es = A ++ .graph (.pickup p) :: mid ∧ (∀ e ∈ mid, e.isLoop = false) ∧
      u.mode = some p.station.kind.travelMode ∧ u.rental.kind = p.station.kind ∧
      u.rental.networks = p.station.networks ∧
      u.rental.floatingDropoffs = p.station.isFloating ∧
      u.rentalDistance = (streetLengths mid).foldl (· + ·) 0 := by
  obtain ⟨A, x, mid, u₀, u₁, rfl, hmid, hx, h₀, h₁, hrental, hmode, hdist⟩ :=
    run_since_begin hu rfl hr
  have hab : (origin vertex time q).isArriveBy = false := by
    simp [Request.isArriveBy, hq]
  obtain ⟨p, rfl⟩ := PathEdge.loop?_eq_some_true_iff.1 (by
    simpa [hab] using PathEdge.rentalMove_eq_some_iff.1 hx)
  have hd₀ : u₀.request.direction = .departAt := by rw [request_of_run h₀]; exact hq
  obtain ⟨hr₁, hm₁, hd₁, -⟩ := PickupEdge.rental_of_traverse_departAt hd₀ h₁
  exact ⟨A, p, mid, rfl, hmid, hmode.trans hm₁, by simp [hrental, hr₁],
    by simp [hrental, hr₁], by simp [hrental, hr₁], by rw [hdist, hd₁]⟩

/-- Backward, a state that rents rides the vehicle of the last drop-off, in its mode, along
the streets since; it may leave it anywhere when that drop-off is at a border. -/
theorem backward_rental_of_renting (hq : q.direction = .arriveBy)
    (hu : (origin vertex time q).run es = some u) (hr : u.rental.renting = true) :
    ∃ A d mid, es = A ++ .graph (.dropoff d) :: mid ∧ (∀ e ∈ mid, e.isLoop = false) ∧
      u.mode = some d.station.kind.travelMode ∧ u.rental.kind = d.station.kind ∧
      u.rental.networks = d.station.networks ∧
      u.rental.floatingDropoffs = d.station.isBorderDropoff ∧
      u.rentalDistance = (streetLengths mid).foldl (· + ·) 0 := by
  obtain ⟨A, x, mid, u₀, u₁, rfl, hmid, hx, h₀, h₁, hrental, hmode, hdist⟩ :=
    run_since_begin hu rfl hr
  have hab : (origin vertex time q).isArriveBy = true := by
    simp [Request.isArriveBy, hq]
  obtain ⟨d, rfl⟩ := PathEdge.loop?_eq_some_false_iff.1 (by
    simpa [hab] using PathEdge.rentalMove_eq_some_iff.1 hx)
  have hd₀ : u₀.request.direction = .arriveBy := by rw [request_of_run h₀]; exact hq
  obtain ⟨hr₁, hm₁, hd₁, -⟩ := DropoffEdge.rental_of_traverse_arriveBy hd₀ h₁
  exact ⟨A, d, mid, rfl, hmid, hmode.trans hm₁, by simp [hrental, hr₁],
    by simp [hrental, hr₁], by simp [hrental, hr₁], by rw [hdist, hd₁]⟩

/-- A run that goes through never takes a link right after a link. -/
theorem not_isLink_of_run {s : State} {es₁ es₂ : List PathEdge} {a b : PathEdge}
    (h : (s.run es).isSome) (hsplit : es = es₁ ++ a :: b :: es₂) (ha : a.isLink = true) :
    b.isLink = false := by
  have hsplit' : es = (es₁ ++ [a]) ++ b :: es₂ := by simp [hsplit]
  obtain ⟨w, w', hw, hw'⟩ := exists_step_of_run_isSome h hsplit'
  have hlink : w.cameByLink = true := by
    rw [cameByLink_of_run hw]
    simpa using ha
  match b, hw' with
  | .graph (.link _), hw' =>
    have hclear := (LinkEdge.traverse_eq_some.1 hw').2.1
    simp only [cameByLink] at hlink
    simp [hlink] at hclear
  | .graph (.street _), _ | .graph (.pickup _), _ | .graph (.dropoff _), _ | .transit _, _ => rfl

/-- Along a path a search goes through, a rental that begins after one ended has a boarding
between the two loops; and when no loop has boardings on both sides, none after the
later loop. -/
theorem boarding_between_of_run {xs X₁ B C : List PathEdge} {x y : PathEdge}
    (h : ((origin vertex time q).run xs).isSome) (hboard : BoardingsTogether xs)
    (hsplit : xs = X₁ ++ x :: B ++ y :: C) (hx : x.rentalMove q.isArriveBy = some false)
    (hy : y.rentalMove q.isArriveBy = some true) :
    B.any PathEdge.boards = true ∧ C.any PathEdge.boards = false := by
  have hsplit' : xs = (X₁ ++ x :: B) ++ y :: C := by simp [hsplit]
  obtain ⟨w, w', hw, hw'⟩ := exists_step_of_run_isSome h hsplit'
  -- the later loop begins a rental, which needs the state's side of transit clear
  have hclear : w.completedOnCurrentSide = false := by
    have hab : w.isArriveBy = q.isArriveBy := isArriveBy_of_run hw
    cases PathEdge.rentalStep_of_traverse hw' with
    | keep hmove => rw [hab] at hmove; simp [hmove] at hy
    | begin _ _ _ _ _ hc => exact hc
    | finish _ _ hmove => rw [hab] at hmove; simp [hmove] at hy
  -- the earlier loop ended a rental on that side unless a boarding came between
  have hB : B.any PathEdge.boards = true := by
    cases hB : B.any PathEdge.boards
    · have hdone := (completedOnCurrentSide_of_run hw).2 ⟨X₁, x, B, rfl, hx, by simp [hB]⟩
      simp [hclear] at hdone
    · rfl
  have hyloop : y.isLoop = true := by
    simp [PathEdge.isLoop, PathEdge.rentalMove_eq_some_iff.1 hy]
  have hapart := hboard (X₁ ++ x :: B) y C (by simp [hsplit]) hyloop
  refine ⟨hB, ?_⟩
  cases hC : C.any PathEdge.boards
  · rfl
  · exact absurd ⟨by simp [hB], hC⟩ hapart

/-- Forward, every ride of a path the search goes through obeys the rental rules. -/
theorem episodeRules_of_forward (hq : q.direction = .departAt)
    (h : ((origin vertex time q).run es).isSome) {A mid B : List PathEdge} {p : PickupEdge}
    {d : DropoffEdge} (hsplit : es = A ++ .graph (.pickup p) :: mid ++ .graph (.dropoff d) :: B)
    (hmid : ∀ e ∈ mid, e.isLoop = false) :
    EpisodeRules q p.station d.station (streetLengths mid) := by
  obtain ⟨t, ht⟩ := Option.isSome_iff_exists.1 h
  rw [hsplit] at ht
  obtain ⟨u₀, u₁, u₂, u₃, h₀, h₁, h₂, h₃, -⟩ := run_episode ht
  exact (episode_departAt hq h₀ h₁ h₂ h₃
    fun e he => by simp [PathEdge.rentalMove_eq_none_iff.2 (hmid e he)]).1

/-- Backward, every ride of a path the search goes through in reverse obeys the rental
rules over the streets taken in reverse, and is not shorter than the minimum unless it ends
at a border. -/
theorem episodeRules_of_backward (hq : q.direction = .arriveBy)
    (h : ((origin vertex time q).run es.reverse).isSome) {A mid B : List PathEdge}
    {p : PickupEdge} {d : DropoffEdge}
    (hsplit : es = A ++ .graph (.pickup p) :: mid ++ .graph (.dropoff d) :: B)
    (hmid : ∀ e ∈ mid, e.isLoop = false) :
    EpisodeRules q p.station d.station (streetLengths mid.reverse) ∧
      (d.station.isBorderDropoff = false →
        ¬ (streetLengths mid.reverse).foldl (· + ·) 0 < q.minimumRentalDistance) := by
  obtain ⟨t, ht⟩ := Option.isSome_iff_exists.1 h
  have hrev : es.reverse =
      B.reverse ++ .graph (.dropoff d) :: mid.reverse ++ .graph (.pickup p) :: A.reverse := by
    simp [hsplit]
  rw [hrev] at ht
  obtain ⟨u₀, u₁, u₂, u₃, h₀, h₁, h₂, h₃, -⟩ := run_episode ht
  obtain ⟨hrules, -, hshort⟩ := episode_arriveBy hq h₀ h₁ h₂ h₃
    fun e he => by simp [PathEdge.rentalMove_eq_none_iff.2 (hmid e (List.mem_reverse.1 he))]
  exact ⟨hrules, hshort⟩

end State

/-- The station of a pick-up on a path whose pick-ups are at distinct stations is at none of
the other pick-ups. -/
theorem pickupId_fresh {es₁ es₂ : List PathEdge} {p : PickupEdge}
    (h : (pickupIds (es₁ ++ .graph (.pickup p) :: es₂)).Nodup) :
    p.station.id ∉ pickupIds es₁ ∧ p.station.id ∉ pickupIds es₂ := by
  simp only [pickupIds_append, pickupIds_cons, PathEdge.pickupId?, Option.toList_some,
    List.singleton_append] at h
  obtain ⟨-, hcons, hdisj⟩ := List.nodup_append.1 h
  exact ⟨fun hin => hdisj _ hin _ List.mem_cons_self rfl, (List.nodup_cons.1 hcons).1⟩

/-! ### Guards that read little of the state -/

/-- A street lets a state through by its mode, whether it rents, and the speeds and
reluctances of the request alone. -/
theorem StreetEdge.traverse_isSome_of_same {e : StreetEdge} {s s₁ : State}
    (h : (e.traverse s).isSome) (hmode : s₁.mode = s.mode)
    (hr : s₁.rental.renting = s.rental.renting) (hspeed : s₁.request.speed = s.request.speed)
    (hrel : s₁.request.reluctance = s.request.reluctance) : (e.traverse s₁).isSome := by
  obtain ⟨s', hs'⟩ := Option.isSome_iff_exists.1 h
  obtain ⟨m, sp, hm, hperm, hsp, htime, hweight, hvr, hvw, -⟩ := StreetEdge.traverse_eq_some.1 hs'
  refine Option.isSome_iff_exists.2 ⟨_, StreetEdge.traverse_eq_some.2
    ⟨m, sp, hmode.trans hm, hperm, by rw [hspeed]; exact hsp, htime, by rw [hrel]; exact hweight,
      by rw [hr]; exact hvr, by rw [hr]; exact hvw, rfl⟩⟩

theorem LinkEdge.traverse_isSome_iff {e : LinkEdge} {s : State} :
    (e.traverse s).isSome ↔ s.request.allowRental = true ∧ s.cameByLink = false := by
  rw [Option.isSome_iff_exists]
  simp [LinkEdge.traverse_eq_some, State.cameByLink]

theorem TransitEdge.traverse_isSome_iff {e : TransitEdge} {s : State} :
    (e.traverse s).isSome ↔ ∀ te ∈ e.edits, te.accepted = true := by
  rw [Option.isSome_iff_exists]
  simp [TransitEdge.traverse_eq_some]

/-! ### The two searches at one edge -/

section Split

variable {r : Request} {es es₁ es₂ : List PathEdge} {e : PathEdge} {v₀ vₙ : VertexId}
  {T T' : Int64} {u v : State}

/-- Where the loops of a path alternate, the two searches rent at an edge that is not a loop
both or neither; a loop the forward search takes renting exactly when it is a drop-off. -/
theorem renting_at_split (halt : RentalsAlternate es) (hsplit : es = es₁ ++ e :: es₂)
    (hu : (State.origin v₀ T { r with direction := .departAt }).run es₁ = some u)
    (hv : (State.origin vₙ T' { r with direction := .arriveBy }).run es₂.reverse = some v) :
    v.rental.renting = e.loop?.getD u.rental.renting ∧
      ∀ b, e.loop? = some b → u.rental.renting = !b := by
  have hu' : u.rental.renting = (es₁.filterMap PathEdge.loop?).getLast?.getD false := by
    have hab : (State.origin v₀ T { r with direction := .departAt }).isArriveBy = false := rfl
    rw [State.renting_of_run hu, rentalMoves_eq_map, hab]
    simp
  have hv' : v.rental.renting = ((es₂.filterMap PathEdge.loop?).head?.map (!·)).getD false := by
    have hab : (State.origin vₙ T' { r with direction := .arriveBy }).isArriveBy = true := rfl
    rw [State.renting_of_run hv, rentalMoves_eq_map, List.filterMap_reverse, hab]
    simp [List.getLast?_reverse]
  obtain ⟨hchain, heven⟩ := halt
  have hloops : es.filterMap PathEdge.loop? =
      (es₁.filterMap PathEdge.loop? ++ e.loop?.toList) ++ es₂.filterMap PathEdge.loop? := by
    rw [hsplit]
    cases h : e.loop? <;> simp [List.filterMap_append, h]
  rw [hloops] at hchain heven
  refine ⟨?_, fun b hb => ?_⟩
  · rw [hv', getLast?_getD_eq_of_alternate hchain heven, hu', List.getLast?_append]
    cases e.loop? <;> rfl
  · -- the loop's flag differs from the one before it
    rw [hb, List.append_assoc, ← List.cons_append, List.isChain_append] at hchain
    have hne : (es₁.filterMap PathEdge.loop?).getLast?.getD false ≠ b :=
      hchain.2.2 _ (by simp [List.getLast?_cons]) b rfl
    rw [hu']
    cases b <;> simp_all

/-- The two searches travel along an edge that is not a loop in the same mode, when the
request starts in one and each rental is ridden in one mode: off a rented vehicle both are
in the mode they started in, on one both ride the rental's vehicles. -/
theorem mode_at_split {m₀ : TravelMode} (hmode : r.initialMode = some m₀)
    (halt : RentalsAlternate es) (hride : RidesInOneMode es) (hsplit : es = es₁ ++ e :: es₂)
    (he : e.isLoop = false)
    (hu : (State.origin v₀ T { r with direction := .departAt }).run es₁ = some u)
    (hv : (State.origin vₙ T' { r with direction := .arriveBy }).run es₂.reverse = some v) :
    u.mode = v.mode := by
  have hr : v.rental.renting = u.rental.renting := by
    simpa [PathEdge.loop?_eq_none_iff.2 he] using (renting_at_split halt hsplit hu hv).1
  cases hur : u.rental.renting with
  | false =>
    have hmf : ({ r with direction := .departAt } : Request).initialMode = some m₀ := hmode
    have hmb : ({ r with direction := .arriveBy } : Request).initialMode = some m₀ := hmode
    rw [(ModeKept.run (.origin hmf) hu).idle hur,
      (ModeKept.run (.origin hmb) hv).idle (hr.trans hur)]
  | true =>
    obtain ⟨A, p, mid₁, rfl, hmid₁, hum, -⟩ := State.forward_rental_of_renting rfl hu hur
    obtain ⟨C, d, mid₂, hC, hmid₂, hvm, -⟩ :=
      State.backward_rental_of_renting rfl hv (hr.trans hur)
    have hes₂ : es₂ = mid₂.reverse ++ .graph (.dropoff d) :: C.reverse := by
      rw [← List.reverse_reverse es₂, hC]
      simp
    -- the edge lies inside the rental from `p` to `d`
    have hpd := hride A p (mid₁ ++ e :: mid₂.reverse) d C.reverse (by simp [hsplit, hes₂])
      (by
        intro x hx
        simp only [List.mem_append, List.mem_cons, List.mem_reverse] at hx
        rcases hx with hx | rfl | hx
        · exact hmid₁ x hx
        · exact he
        · exact hmid₂ x hx)
    rw [hum, hvm, hpd]

end Split

/-! ### The backward search follows the forward one -/

section Backward

variable {r : Request} {es es₁ es₂ : List PathEdge} {v₀ vₙ : VertexId} {T T' : Int64} {v : State}

/-- Where the forward search goes through the path, an edge that is not a loop lets the
backward search through: both travel it in one mode and rent both or neither, and a link has
no link after it. -/
theorem backward_nonloop_of_forward {m₀ : TravelMode} (hmode : r.initialMode = some m₀)
    (halt : RentalsAlternate es) (hride : RidesInOneMode es)
    (hfwd : ((State.origin v₀ T { r with direction := .departAt }).run es).isSome)
    {e : PathEdge} (hsplit : es = es₁ ++ e :: es₂) (he : e.isLoop = false)
    (hv : (State.origin vₙ T' { r with direction := .arriveBy }).run es₂.reverse = some v) :
    (e.traverse v).isSome := by
  obtain ⟨u, u', hu, hu'⟩ := State.exists_step_of_run_isSome hfwd hsplit
  have hqu : u.request = { r with direction := .departAt } := State.request_of_run hu
  have hqv : v.request = { r with direction := .arriveBy } := State.request_of_run hv
  cases e with
  | graph e =>
    cases e with
    | street e =>
      have hr : v.rental.renting = u.rental.renting := by
        simpa [PathEdge.loop?] using (renting_at_split halt hsplit hu hv).1
      exact StreetEdge.traverse_isSome_of_same (Option.isSome_iff_exists.2 ⟨u', hu'⟩)
        (mode_at_split hmode halt hride hsplit he hu hv).symm hr (by rw [hqv, hqu]; rfl)
        (by rw [hqv, hqu]; rfl)
    | link e =>
      have hallow := (LinkEdge.traverse_eq_some.1 hu').1
      rw [hqu] at hallow
      refine LinkEdge.traverse_isSome_iff.2 ⟨by rw [hqv]; exact hallow, ?_⟩
      -- the edge after the link, which the backward search took last, is no link
      rw [State.cameByLink_of_run hv, List.getLast?_reverse]
      cases es₂ with
      | nil => rfl
      | cons b es₂ => exact State.not_isLink_of_run hfwd hsplit rfl
    | pickup e => simp [PathEdge.isLoop, PathEdge.loop?] at he
    | dropoff e => simp [PathEdge.isLoop, PathEdge.loop?] at he
  | transit e =>
    exact TransitEdge.traverse_isSome_iff.2 (TransitEdge.traverse_eq_some.1 hu').1

/-- Where the forward search goes through the path, a pick-up lets the backward search
through: backward it ends the rental that began at the next drop-off, which the forward
search checked against the pick-up; its station is picked up at nowhere else; and the ride
is long enough as the backward search checks it. -/
theorem backward_pickup_of_forward (halt : RentalsAlternate es)
    (hlong : RidesLongEnough true r.minimumRentalDistance es)
    (hfwd : ((State.origin v₀ T { r with direction := .departAt }).run es).isSome)
    {p : PickupEdge} (hsplit : es = es₁ ++ .graph (.pickup p) :: es₂)
    (hv : (State.origin vₙ T' { r with direction := .arriveBy }).run es₂.reverse = some v) :
    (p.traverse v).isSome := by
  obtain ⟨t, ht⟩ := Option.isSome_iff_exists.1 hfwd
  obtain ⟨u, u', hu, hu'⟩ := State.exists_step_of_run_isSome hfwd hsplit
  have hqu : u.request = { r with direction := .departAt } := State.request_of_run hu
  have hqv : v.request = { r with direction := .arriveBy } := State.request_of_run hv
  obtain ⟨hmay, -, -, -, hcost, htime, -⟩ := (PickupEdge.traverse_departAt_eq_some (by
    rw [hqu])).1 hu'
  rw [hqu] at hmay hcost htime
  have hvr : v.rental.renting = true := by
    simpa [PathEdge.loop?] using (renting_at_split halt hsplit hu hv).1
  obtain ⟨C, d, mid, hC, hmid, -, hkind, hnet, hfloat, hdist⟩ :=
    State.backward_rental_of_renting rfl hv hvr
  have hes : es = es₁ ++ .graph (.pickup p) :: mid.reverse ++ .graph (.dropoff d) :: C.reverse := by
    rw [hsplit, ← List.reverse_reverse es₂, hC]
    simp
  -- forward, the drop-off that ends this rental checked it against the pick-up
  have hmid' : ∀ e ∈ mid.reverse, e.isLoop = false := fun e he => hmid e (List.mem_reverse.1 he)
  have hrules := State.episodeRules_of_forward rfl hfwd hes hmid'
  have hfresh : p.station.id ∉ v.rental.rentedVehicles := by
    have hnodup := (State.pickupIds_of_run ht).1
    rw [hsplit] at hnodup
    rw [(State.pickupIds_of_run hv).2.2, pickupIds_reverse]
    simpa using (pickupId_fresh hnodup).2
  have hshort : v.rental.floatingDropoffs = false →
      ¬ v.rentalDistance < v.request.minimumRentalDistance := by
    intro hb
    rw [hfloat] at hb
    have hride := hlong es₁ p mid.reverse d C.reverse hes hmid' hb
    simpa [rideLongEnough, hdist, hqv, streetLengths_reverse] using hride
  refine Option.isSome_iff_exists.2 ⟨_, (PickupEdge.traverse_arriveBy_eq_some (by rw [hqv])).2
    ⟨by rw [hqv]; exact hmay, hfresh, hvr, ?_, ?_, hshort, ?_, by rw [hqv]; exact hcost,
      by rw [hqv]; exact htime, rfl⟩⟩
  · rw [hkind, VehicleKind.compatible_comm]
    exact hrules.compatible
  · rw [hnet, networksCompatible_comm]
    exact hrules.networks
  · rw [hfloat]
    exact hrules.floating

/-- Where the forward search goes through the path, a drop-off lets the backward search
through: backward it begins a rental where none is open, on a side of transit where none
ended, since forward a boarding separates it from every later pick-up and none follows
that pick-up. -/
theorem backward_dropoff_of_forward (halt : RentalsAlternate es) (hboard : BoardingsTogether es)
    (hfwd : ((State.origin v₀ T { r with direction := .departAt }).run es).isSome)
    {d : DropoffEdge} (hsplit : es = es₁ ++ .graph (.dropoff d) :: es₂)
    (hv : (State.origin vₙ T' { r with direction := .arriveBy }).run es₂.reverse = some v) :
    (d.traverse v).isSome := by
  obtain ⟨u, u', hu, hu'⟩ := State.exists_step_of_run_isSome hfwd hsplit
  have hqu : u.request = { r with direction := .departAt } := State.request_of_run hu
  have hqv : v.request = { r with direction := .arriveBy } := State.request_of_run hv
  obtain ⟨hmay, -, -, -, hcost, htime, -⟩ := (DropoffEdge.traverse_departAt_eq_some (by
    rw [hqu])).1 hu'
  rw [hqu] at hmay hcost htime
  have hvr : v.rental.renting = false := by
    simpa [PathEdge.loop?] using (renting_at_split halt hsplit hu hv).1
  have hclear : v.completedOnCurrentSide = false := by
    cases hc : v.completedOnCurrentSide with
    | false => rfl
    | true =>
      obtain ⟨A, x, B, hA, hx, hside⟩ := (State.completedOnCurrentSide_of_run hv).1 hc
      have hes : es = es₁ ++ .graph (.dropoff d) :: B.reverse ++ x :: A.reverse := by
        rw [hsplit, ← List.reverse_reverse es₂, hA]
        simp
      have hx' : x.rentalMove ({ r with direction := .departAt } : Request).isArriveBy =
          some true := by
        rw [PathEdge.rentalMove_eq_some_iff] at hx ⊢
        simpa using hx
      obtain ⟨hB, hA'⟩ := State.boarding_between_of_run hfwd hboard hes rfl hx'
      simp only [List.any_reverse] at hB hA'
      exact absurd (hA'.symm.trans (hside hB)) Bool.false_ne_true
  exact Option.isSome_iff_exists.2 ⟨_, (DropoffEdge.traverse_arriveBy_eq_some (by rw [hqv])).2
    ⟨by rw [hqv]; exact hmay, hvr, hclear, by rw [hqv]; exact hcost, by rw [hqv]; exact htime,
      rfl⟩⟩

/-- Where the forward search goes through the path, every edge lets the backward search
through from the state the rest of the path leads it to. -/
theorem backward_step_of_forward {m₀ : TravelMode} (hmode : r.initialMode = some m₀)
    (halt : RentalsAlternate es) (hride : RidesInOneMode es) (hboard : BoardingsTogether es)
    (hlong : RidesLongEnough true r.minimumRentalDistance es)
    (hfwd : ((State.origin v₀ T { r with direction := .departAt }).run es).isSome)
    {e : PathEdge} (hsplit : es = es₁ ++ e :: es₂)
    (hv : (State.origin vₙ T' { r with direction := .arriveBy }).run es₂.reverse = some v) :
    (e.traverse v).isSome := by
  cases hl : e.loop? with
  | none =>
    exact backward_nonloop_of_forward hmode halt hride hfwd hsplit
      (PathEdge.loop?_eq_none_iff.1 hl) hv
  | some b =>
    cases b with
    | true =>
      obtain ⟨p, rfl⟩ := PathEdge.loop?_eq_some_true_iff.1 hl
      exact backward_pickup_of_forward halt hlong hfwd hsplit hv
    | false =>
      obtain ⟨d, rfl⟩ := PathEdge.loop?_eq_some_false_iff.1 hl
      exact backward_dropoff_of_forward halt hboard hfwd hsplit hv

/-- Where the forward search goes through the path, the backward search goes through it in
reverse, when its rides are long enough as the backward search checks them. -/
theorem backward_run_of_forward {m₀ : TravelMode} (hmode : r.initialMode = some m₀)
    (halt : RentalsAlternate es) (hride : RidesInOneMode es) (hboard : BoardingsTogether es)
    (hlong : RidesLongEnough true r.minimumRentalDistance es)
    (hfwd : ((State.origin v₀ T { r with direction := .departAt }).run es).isSome) :
    ((State.origin vₙ T' { r with direction := .arriveBy }).run es.reverse).isSome := by
  refine State.run_isSome_iff.2 fun ys₁ e ys₂ v hsplit hv => ?_
  have hes : es = ys₂.reverse ++ e :: ys₁.reverse := by
    rw [← List.reverse_reverse es, hsplit]
    simp
  exact backward_step_of_forward hmode halt hride hboard hlong hfwd hes (by simpa using hv)

end Backward

/-! ### The forward search follows the backward one -/

section Forward

variable {r : Request} {es es₁ es₂ : List PathEdge} {v₀ vₙ : VertexId} {T T' : Int64} {u : State}

/-- Where the backward search goes through the path in reverse, an edge that is not a loop
lets the forward search through: both travel it in one mode and rent both or neither, and a
link has no link before it. -/
theorem forward_nonloop_of_backward {m₀ : TravelMode} (hmode : r.initialMode = some m₀)
    (halt : RentalsAlternate es) (hride : RidesInOneMode es)
    (hbwd : ((State.origin vₙ T' { r with direction := .arriveBy }).run es.reverse).isSome)
    {e : PathEdge} (hsplit : es = es₁ ++ e :: es₂) (he : e.isLoop = false)
    (hu : (State.origin v₀ T { r with direction := .departAt }).run es₁ = some u) :
    (e.traverse u).isSome := by
  have hrev : es.reverse = es₂.reverse ++ e :: es₁.reverse := by simp [hsplit]
  obtain ⟨v, v', hv, hv'⟩ := State.exists_step_of_run_isSome hbwd hrev
  have hqu : u.request = { r with direction := .departAt } := State.request_of_run hu
  have hqv : v.request = { r with direction := .arriveBy } := State.request_of_run hv
  cases e with
  | graph e =>
    cases e with
    | street e =>
      have hr : v.rental.renting = u.rental.renting := by
        simpa [PathEdge.loop?] using (renting_at_split halt hsplit hu hv).1
      exact StreetEdge.traverse_isSome_of_same (Option.isSome_iff_exists.2 ⟨v', hv'⟩)
        (mode_at_split hmode halt hride hsplit he hu hv) hr.symm (by rw [hqv, hqu]; rfl)
        (by rw [hqv, hqu]; rfl)
    | link e =>
      have hallow := (LinkEdge.traverse_eq_some.1 hv').1
      rw [hqv] at hallow
      refine LinkEdge.traverse_isSome_iff.2 ⟨by rw [hqu]; exact hallow, ?_⟩
      -- the edge before the link, which the forward search took last, is no link
      rw [State.cameByLink_of_run hu]
      rcases List.eq_nil_or_concat es₁ with rfl | ⟨L, a, rfl⟩
      · rfl
      · have hrev' : es.reverse = es₂.reverse ++ .graph (.link e) :: a :: L.reverse := by
          simp [hrev]
        simpa using State.not_isLink_of_run hbwd hrev' rfl
    | pickup e => simp [PathEdge.isLoop, PathEdge.loop?] at he
    | dropoff e => simp [PathEdge.isLoop, PathEdge.loop?] at he
  | transit e =>
    exact TransitEdge.traverse_isSome_iff.2 (TransitEdge.traverse_eq_some.1 hv').1

/-- Where the backward search goes through the path in reverse, a pick-up lets the forward
search through: forward it begins a rental where none is open, at a station picked up at
nowhere else, on a side of transit where none ended, since backward a boarding separates it
from every earlier drop-off and none precedes that drop-off. -/
theorem forward_pickup_of_backward (halt : RentalsAlternate es) (hboard : BoardingsTogether es)
    (hbwd : ((State.origin vₙ T' { r with direction := .arriveBy }).run es.reverse).isSome)
    {p : PickupEdge} (hsplit : es = es₁ ++ .graph (.pickup p) :: es₂)
    (hu : (State.origin v₀ T { r with direction := .departAt }).run es₁ = some u) :
    (p.traverse u).isSome := by
  obtain ⟨t', ht'⟩ := Option.isSome_iff_exists.1 hbwd
  have hrev : es.reverse = es₂.reverse ++ .graph (.pickup p) :: es₁.reverse := by simp [hsplit]
  obtain ⟨v, v', hv, hv'⟩ := State.exists_step_of_run_isSome hbwd hrev
  have hqu : u.request = { r with direction := .departAt } := State.request_of_run hu
  have hqv : v.request = { r with direction := .arriveBy } := State.request_of_run hv
  obtain ⟨hmay, -, -, -, -, -, -, hcost, htime, -⟩ :=
    (PickupEdge.traverse_arriveBy_eq_some (by rw [hqv])).1 hv'
  rw [hqv] at hmay hcost htime
  have hur : u.rental.renting = false := (renting_at_split halt hsplit hu hv).2 true rfl
  have hfresh : p.station.id ∉ u.rental.rentedVehicles := by
    have hnodup := (State.pickupIds_of_run ht').1
    rw [pickupIds_reverse, List.nodup_reverse, hsplit] at hnodup
    rw [(State.pickupIds_of_run hu).2.2]
    simpa using (pickupId_fresh hnodup).1
  have hclear : u.completedOnCurrentSide = false := by
    cases hc : u.completedOnCurrentSide with
    | false => rfl
    | true =>
      obtain ⟨A, x, B, hA, hx, hside⟩ := (State.completedOnCurrentSide_of_run hu).1 hc
      have hrev' : es.reverse = es₂.reverse ++ .graph (.pickup p) :: B.reverse ++ x :: A.reverse := by
        simp [hsplit, hA]
      have hx' : x.rentalMove ({ r with direction := .arriveBy } : Request).isArriveBy =
          some true := by
        rw [PathEdge.rentalMove_eq_some_iff] at hx ⊢
        simpa using hx
      obtain ⟨hB, hA'⟩ := State.boarding_between_of_run hbwd hboard.reverse hrev' rfl hx'
      simp only [List.any_reverse] at hB hA'
      exact absurd (hA'.symm.trans (hside hB)) Bool.false_ne_true
  exact Option.isSome_iff_exists.2 ⟨_, (PickupEdge.traverse_departAt_eq_some (by rw [hqu])).2
    ⟨by rw [hqu]; exact hmay, hfresh, hur, hclear, by rw [hqu]; exact hcost,
      by rw [hqu]; exact htime, rfl⟩⟩

/-- Where the backward search goes through the path in reverse, a drop-off lets the forward
search through: forward it ends the rental that began at the last pick-up, which the
backward search checked against the drop-off, and the ride is long enough as the forward
search checks it. -/
theorem forward_dropoff_of_backward (halt : RentalsAlternate es)
    (hlong : RidesLongEnough false r.minimumRentalDistance es)
    (hbwd : ((State.origin vₙ T' { r with direction := .arriveBy }).run es.reverse).isSome)
    {d : DropoffEdge} (hsplit : es = es₁ ++ .graph (.dropoff d) :: es₂)
    (hu : (State.origin v₀ T { r with direction := .departAt }).run es₁ = some u) :
    (d.traverse u).isSome := by
  have hrev : es.reverse = es₂.reverse ++ .graph (.dropoff d) :: es₁.reverse := by simp [hsplit]
  obtain ⟨v, v', hv, hv'⟩ := State.exists_step_of_run_isSome hbwd hrev
  have hqu : u.request = { r with direction := .departAt } := State.request_of_run hu
  have hqv : v.request = { r with direction := .arriveBy } := State.request_of_run hv
  obtain ⟨hmay, -, -, hcost, htime, -⟩ :=
    (DropoffEdge.traverse_arriveBy_eq_some (by rw [hqv])).1 hv'
  rw [hqv] at hmay hcost htime
  have hur : u.rental.renting = true := (renting_at_split halt hsplit hu hv).2 false rfl
  obtain ⟨A, p, mid, hA, hmid, -, hkind, hnet, hfloat, hdist⟩ :=
    State.forward_rental_of_renting rfl hu hur
  have hes : es = A ++ .graph (.pickup p) :: mid ++ .graph (.dropoff d) :: es₂ := by
    simp [hsplit, hA]
  -- backward, the pick-up that ends this rental checked it against the drop-off
  obtain ⟨hrules, -⟩ := State.episodeRules_of_backward rfl hbwd hes hmid
  have hallowed : u.dropoffAllowed d.station.isBorderDropoff = true := by
    cases hb : d.station.isBorderDropoff with
    | false =>
      have hride := hlong A p mid d es₂ hes hmid hb
      simpa [State.dropoffAllowed, hqu, hur, rideLongEnough, hdist] using hride
    | true =>
      simpa [State.dropoffAllowed, hqu, hur, hfloat] using hrules.floating hb
  exact Option.isSome_iff_exists.2 ⟨_, (DropoffEdge.traverse_departAt_eq_some (by rw [hqu])).2
    ⟨by rw [hqu]; exact hmay, hallowed, by rw [hkind]; exact hrules.compatible,
      by rw [hnet]; exact hrules.networks, by rw [hqu]; exact hcost, by rw [hqu]; exact htime,
      rfl⟩⟩

/-- Where the backward search goes through the path in reverse, every edge lets the forward
search through from the state the path before it leads it to. -/
theorem forward_step_of_backward {m₀ : TravelMode} (hmode : r.initialMode = some m₀)
    (halt : RentalsAlternate es) (hride : RidesInOneMode es) (hboard : BoardingsTogether es)
    (hlong : RidesLongEnough false r.minimumRentalDistance es)
    (hbwd : ((State.origin vₙ T' { r with direction := .arriveBy }).run es.reverse).isSome)
    {e : PathEdge} (hsplit : es = es₁ ++ e :: es₂)
    (hu : (State.origin v₀ T { r with direction := .departAt }).run es₁ = some u) :
    (e.traverse u).isSome := by
  cases hl : e.loop? with
  | none =>
    exact forward_nonloop_of_backward hmode halt hride hbwd hsplit
      (PathEdge.loop?_eq_none_iff.1 hl) hu
  | some b =>
    cases b with
    | true =>
      obtain ⟨p, rfl⟩ := PathEdge.loop?_eq_some_true_iff.1 hl
      exact forward_pickup_of_backward halt hboard hbwd hsplit hu
    | false =>
      obtain ⟨d, rfl⟩ := PathEdge.loop?_eq_some_false_iff.1 hl
      exact forward_dropoff_of_backward halt hlong hbwd hsplit hu

/-- Where the backward search goes through the path in reverse, the forward search goes
through it, when its rides are long enough as the forward search checks them. -/
theorem forward_run_of_backward {m₀ : TravelMode} (hmode : r.initialMode = some m₀)
    (halt : RentalsAlternate es) (hride : RidesInOneMode es) (hboard : BoardingsTogether es)
    (hlong : RidesLongEnough false r.minimumRentalDistance es)
    (hbwd : ((State.origin vₙ T' { r with direction := .arriveBy }).run es.reverse).isSome) :
    ((State.origin v₀ T { r with direction := .departAt }).run es).isSome :=
  State.run_isSome_iff.2 fun _ _ _ _ hsplit hu =>
    forward_step_of_backward hmode halt hride hboard hlong hbwd hsplit hu

end Forward

end RentalRouting
