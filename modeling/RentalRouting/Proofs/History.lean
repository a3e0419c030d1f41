/-
RentalRouting/Proofs/History.lean

What the last state of a run remembers of the path it came along, in either direction of
search.  A run goes through exactly when each edge lets through the state that the part of
the path before it leads to (`State.run_isSome_iff`).  Of that part the last state knows:

* whether its last edge was a link (`State.cameByLink_of_run`);
* whether it rents: the last rental loop began a rental (`State.renting_of_run`), and then
  its rental is the one that loop recorded, ridden along the streets since
  (`State.run_since_begin`);
* on which sides of transit a rental ended: a side is flagged once a loop ended a rental on
  it, the side being read off the boardings before that loop (`State.sideFlag_of_run`);
* its mode: off a rented vehicle the mode the search started in, which an open rental keeps
  to go back to (`ModeKept`).
-/
import RentalRouting.Proofs.Episode

namespace RentalRouting

namespace PathEdge

variable {e : PathEdge} {s s' : State}

theorem rentalMove_eq_none_iff {arriveBy : Bool} : e.rentalMove arriveBy = none ↔ e.isLoop = false := by
  simp [rentalMove, isLoop]

/-- Every edge is the back edge of the state it leads to. -/
theorem backEdge_of_traverse (h : e.traverse s = some s') :
    s'.backEdge = some ⟨e.info.id, e.info.kind⟩ := by
  match e, h with
  | .transit e, h => exact (e.frame_of_traverse h).2.2.2.2.1
  | .graph (.street e), h =>
    obtain ⟨_, _, -, -, -, -, -, -, -, rfl⟩ := StreetEdge.traverse_eq_some.1 h
    split_ifs <;> simp [Editor.apply, info, Edge.info]
  | .graph (.link e), h =>
    obtain ⟨-, -, rfl⟩ := LinkEdge.traverse_eq_some.1 h
    simp [Editor.apply, info, Edge.info]
  | .graph (.pickup e), h =>
    cases hdir : s.request.direction with
    | departAt =>
      obtain ⟨-, -, -, -, -, -, rfl⟩ := (PickupEdge.traverse_departAt_eq_some hdir).1 h
      simp [Editor.apply, info, Edge.info]
    | arriveBy =>
      obtain ⟨-, -, -, -, -, -, -, -, -, rfl⟩ := (PickupEdge.traverse_arriveBy_eq_some hdir).1 h
      simp [Editor.apply, info, Edge.info]
  | .graph (.dropoff e), h =>
    cases hdir : s.request.direction with
    | departAt =>
      obtain ⟨-, -, -, -, -, -, rfl⟩ := (DropoffEdge.traverse_departAt_eq_some hdir).1 h
      simp [Editor.apply, info, Edge.info]
    | arriveBy =>
      obtain ⟨-, -, -, -, -, rfl⟩ := (DropoffEdge.traverse_arriveBy_eq_some hdir).1 h
      simp [info, Edge.info]

end PathEdge

namespace State

variable {s t : State} {es : List PathEdge}

/-- A run goes through exactly when every edge lets through the state the path before it
leads to. -/
theorem run_isSome_iff :
    (s.run es).isSome ↔ ∀ es₁ e es₂ u, es = es₁ ++ e :: es₂ → s.run es₁ = some u →
      (e.traverse u).isSome := by
  constructor
  · intro h es₁ e es₂ u hsplit hu
    rw [hsplit, run_append, hu, Option.bind_some, run_cons] at h
    cases ht : e.traverse u
    · simp [ht] at h
    · rfl
  · intro h
    induction es generalizing s with
    | nil => rfl
    | cons e es ih =>
      obtain ⟨s₁, hs₁⟩ := Option.isSome_iff_exists.1 (h [] e es s rfl rfl)
      rw [run_cons, hs₁, Option.bind_some]
      exact ih fun es₁ e' es₂ u hsplit hu =>
        h (e :: es₁) e' es₂ u (by rw [hsplit, List.cons_append]) (by rw [run_cons, hs₁]; exact hu)

/-- Where a run goes through, the state the path before an edge leads to is one the edge
lets through. -/
theorem exists_step_of_run_isSome {es₁ es₂ : List PathEdge} {e : PathEdge}
    (h : (s.run es).isSome) (hsplit : es = es₁ ++ e :: es₂) :
    ∃ u u', s.run es₁ = some u ∧ e.traverse u = some u' := by
  obtain ⟨t, ht⟩ := Option.isSome_iff_exists.1 h
  obtain ⟨u, hu, hrest⟩ := run_append_eq_some.1 (hsplit ▸ ht)
  obtain ⟨u', hu', -⟩ := run_cons_eq_some.1 hrest
  exact ⟨u, u', hu, hu'⟩

/-! ### Links -/

/-- The state came along a link. -/
def cameByLink (s : State) : Bool := s.backEdge.any (·.kind == .rentalLink)

theorem cameByLink_of_traverse {e : PathEdge} {s' : State} (h : e.traverse s = some s') :
    s'.cameByLink = e.isLink := by
  rw [cameByLink, PathEdge.backEdge_of_traverse h]
  match e with
  | .graph (.street _) | .graph (.pickup _) | .graph (.dropoff _) | .graph (.link _)
  | .transit _ => rfl

/-- A state came along a link when the last edge of its run was one. -/
theorem cameByLink_of_run (h : s.run es = some t) :
    t.cameByLink = es.getLast?.elim s.cameByLink PathEdge.isLink := by
  induction es generalizing s with
  | nil => cases h; rfl
  | cons e es ih =>
    obtain ⟨u, hu, hrest⟩ := run_cons_eq_some.1 h
    rw [ih hrest, cameByLink_of_traverse hu]
    cases es with
    | nil => rfl
    | cons e' es => simp [List.getLast?_cons]

/-! ### The open rental -/

/-- The rental flag after a run is the last rental move, or the first flag when there was
none. -/
theorem renting_of_run (h : s.run es = some t) :
    t.rental.renting = (rentalMoves s.isArriveBy es).getLast?.getD s.rental.renting := by
  induction es generalizing s with
  | nil => cases h; rfl
  | cons e es ih =>
    obtain ⟨u, hu, hrest⟩ := run_cons_eq_some.1 h
    rw [ih hrest, PathEdge.isArriveBy_of_traverse hu, (PathEdge.renting_of_traverse hu).1,
      rentalMoves_cons, List.getLast?_append]
    cases (rentalMoves s.isArriveBy es).getLast? <;> cases e.rentalMove s.isArriveBy <;> rfl

/-- A run that ends renting from a state that was not took a loop that began the rental and
no loop since: the last state rides on the rental that loop recorded, in its mode, and has
ridden the streets since. -/
theorem run_since_begin (h : s.run es = some t) (hs : s.rental.renting = false)
    (ht : t.rental.renting = true) :
    ∃ A x mid u₀ u₁, es = A ++ x :: mid ∧ (∀ e ∈ mid, e.isLoop = false) ∧
      x.rentalMove s.isArriveBy = some true ∧ s.run A = some u₀ ∧ x.traverse u₀ = some u₁ ∧
      t.rental = u₁.rental ∧ t.mode = u₁.mode ∧
      t.rentalDistance = (streetLengths mid).foldl (· + ·) u₁.rentalDistance := by
  -- the last move is the begin: read the moves backward and split at the first
  have hlast : (rentalMoves s.isArriveBy es).getLast? = some true := by
    rw [renting_of_run h, hs] at ht
    cases hl : (rentalMoves s.isArriveBy es).getLast? <;> simp_all
  obtain ⟨bs, hbs⟩ : ∃ bs, rentalMoves s.isArriveBy es.reverse = true :: bs := by
    rw [rentalMoves, List.filterMap_reverse, ← rentalMoves]
    cases hm : rentalMoves s.isArriveBy es using List.reverseRecOn with
    | nil => simp [hm] at hlast
    | append_singleton l b => simp_all
  obtain ⟨l₁, x, l₂, hsplit, hnone, hx, -⟩ := List.filterMap_eq_cons_iff.1 hbs
  have hes : es = l₂.reverse ++ x :: l₁.reverse := by
    rw [← List.reverse_reverse es, hsplit]
    simp
  obtain ⟨u₀, h₀, hrest⟩ := run_append_eq_some.1 (hes ▸ h)
  obtain ⟨u₁, h₁, hmid⟩ := run_cons_eq_some.1 hrest
  have hab₀ : u₀.isArriveBy = s.isArriveBy := isArriveBy_of_run h₀
  have hr₁ : u₁.rental.renting = true := by
    simpa [hab₀, hx] using (PathEdge.renting_of_traverse h₁).1
  have hmid_none : ∀ e ∈ l₁.reverse, e.rentalMove u₁.isArriveBy = none := by
    intro e he
    rw [PathEdge.isArriveBy_of_traverse h₁, hab₀]
    exact hnone e (List.mem_reverse.1 he)
  obtain ⟨hrental, hmode, -, hdist, -⟩ :=
    run_while_renting hmid hr₁ fun e he => by simp [hmid_none e he]
  exact ⟨l₂.reverse, x, l₁.reverse, u₀, u₁, hes,
    fun e he => PathEdge.rentalMove_eq_none_iff.1 (hab₀ ▸ PathEdge.isArriveBy_of_traverse h₁ ▸
      hmid_none e he), hx, h₀, h₁, hrental, hmode, hdist⟩

/-! ### The sides of transit -/

/-- The flag of one side of transit: the post-transit one when `post`, else the
pre-transit one. -/
def sideFlag (s : State) (post : Bool) : Bool :=
  if post then s.rental.rentedPostTransit else s.rental.rentedPreTransit

theorem completedOnCurrentSide_eq_sideFlag (s : State) :
    s.completedOnCurrentSide = s.sideFlag s.isPostTransit := rfl

end State

/-- A step flags a side of transit when it ends a rental on it, and keeps every flag. -/
theorem PathEdge.sideFlag_of_traverse {e : PathEdge} {s s' : State}
    (h : e.traverse s = some s') (post : Bool) :
    s'.sideFlag post = true ↔
      s.sideFlag post = true ∨ (e.rentalMove s.isArriveBy = some false ∧ s.isPostTransit = post) := by
  cases rentalStep_of_traverse h with
  | keep hmove hrental => simp [State.sideFlag, hmove, hrental]
  | begin _ _ _ hmove _ _ hrental => simp [State.sideFlag, hmove, hrental]
  | finish _ _ hmove _ hrental =>
    cases hp : s.isPostTransit <;> cases post <;> simp [State.sideFlag, hmove, hrental, hp]

namespace State

variable {s t : State} {es : List PathEdge}

/-- After a run a side of transit is flagged when it was before, or some loop of the run
ended a rental while the boardings so far put the search on that side. -/
theorem sideFlag_of_run (h : s.run es = some t) (post : Bool) :
    t.sideFlag post = true ↔ s.sideFlag post = true ∨
      ∃ A x B, es = A ++ x :: B ∧ x.rentalMove s.isArriveBy = some false ∧
        ((s.ride.everBoarded || A.any PathEdge.boards) != s.isArriveBy) = post := by
  induction es generalizing s with
  | nil => cases h; simp
  | cons e es ih =>
    obtain ⟨u, hu, hrest⟩ := run_cons_eq_some.1 h
    rw [ih hrest, PathEdge.sideFlag_of_traverse hu, PathEdge.isArriveBy_of_traverse hu,
      PathEdge.everBoarded_of_traverse hu]
    simp only [List.cons_eq_append_iff, isPostTransit, isArriveBy]
    constructor
    · rintro ((hs | ⟨hmove, hpost⟩) | ⟨A, x, B, rfl, hmove, hpost⟩)
      · exact .inl hs
      · exact .inr ⟨[], e, es, .inl ⟨rfl, rfl⟩, hmove, by simpa using hpost⟩
      · exact .inr ⟨e :: A, x, B, .inr ⟨A, rfl, rfl⟩, hmove, by simpa [Bool.or_assoc] using hpost⟩
    · rintro (hs | ⟨A, x, B, (⟨rfl, hx⟩ | ⟨A', rfl, rfl⟩), hmove, hpost⟩)
      · exact .inl (.inl hs)
      · obtain ⟨rfl, rfl⟩ := List.cons_eq_cons.1 hx
        exact .inl (.inr ⟨hmove, by simpa using hpost⟩)
      · exact .inr ⟨A', x, B, rfl, hmove, by simpa [Bool.or_assoc] using hpost⟩

/-- A state a run leads to from a first state has completed a rental on its side of transit
exactly when some loop of the run ended one with no boarding after it, or with one before
it as well. -/
theorem completedOnCurrentSide_of_run {vertex : VertexId} {time : Int64} {request : Request}
    (h : (origin vertex time request).run es = some t) :
    t.completedOnCurrentSide = true ↔
      ∃ A x B, es = A ++ x :: B ∧ x.rentalMove request.isArriveBy = some false ∧
        (B.any PathEdge.boards = true → A.any PathEdge.boards = true) := by
  have hpost : t.isPostTransit = (es.any PathEdge.boards != request.isArriveBy) := by
    simp [isPostTransit, everBoarded_of_run h, isArriveBy_of_run h]
  have hflag : ∀ post, (origin vertex time request).sideFlag post = false := by
    intro post
    unfold sideFlag
    split <;> rfl
  rw [completedOnCurrentSide_eq_sideFlag, sideFlag_of_run h, hpost, hflag]
  simp only [Bool.false_eq_true, false_or, origin_ride, origin_isArriveBy]
  -- the loop ended its rental on the state's side when no boarding comes between them
  constructor
  · rintro ⟨A, x, B, rfl, hmove, hside⟩
    refine ⟨A, x, B, rfl, hmove, fun hB => ?_⟩
    have hx := PathEdge.boards_eq_false_of_rentalMove hmove
    revert hside
    cases A.any PathEdge.boards <;> cases request.isArriveBy <;> simp [hx, hB]
  · rintro ⟨A, x, B, rfl, hmove, hside⟩
    refine ⟨A, x, B, rfl, hmove, ?_⟩
    have hx := PathEdge.boards_eq_false_of_rentalMove hmove
    cases hB : B.any PathEdge.boards
    · simp [hx, hB]
    · simp [hx, hB, hside hB]

end State

/-! ### The mode -/

/-- Off a rented vehicle a search travels in the mode it started in, and an open rental
keeps that mode to go back to. -/
structure ModeKept (mode : TravelMode) (s : State) : Prop where
  idle : s.rental.renting = false → s.mode = some mode
  riding : s.rental.renting = true → s.rental.preRentalMode = some mode

namespace ModeKept

variable {mode : TravelMode} {s s' : State}

theorem origin {vertex : VertexId} {time : Int64} {request : Request}
    (h : request.initialMode = some mode) : ModeKept mode (State.origin vertex time request) where
  idle _ := h
  riding hr := by simp at hr

/-- A rental begins from the mode it will go back to, and ends in it. -/
theorem step (hs : ModeKept mode s) {e : PathEdge} (h : e.traverse s = some s') :
    ModeKept mode s' := by
  cases PathEdge.rentalStep_of_traverse h with
  | keep _ hrental hmode => exact ⟨by simpa [hrental, hmode] using hs.idle,
      by simpa [hrental] using hs.riding⟩
  | begin _ _ _ _ hr _ hrental => exact ⟨by simp [hrental], fun _ => by simp [hrental, hs.idle hr]⟩
  | finish _ _ _ hr hrental hmode => exact ⟨fun _ => by simp [hmode, hs.riding hr],
      by simp [hrental]⟩

theorem run (hs : ModeKept mode s) {es : List PathEdge} {t : State} (h : s.run es = some t) :
    ModeKept mode t := by
  induction es generalizing s with
  | nil => cases h; exact hs
  | cons e es ih =>
    obtain ⟨u, hu, hrest⟩ := State.run_cons_eq_some.1 h
    exact ih (hs.step hu) hrest

end ModeKept

end RentalRouting
