/-
RentalRouting/Proofs/PathRecovery.lean

What the path of the last state of a run recovers of the run.  Its states are the back chain,
each once; it weighs what the last state weighs; and its rental episodes are the pick-ups of
the run, in path order, each at the station of its edge with the kind of vehicle kept there.
A path that ends not renting has every episode dropped off; one searched forward that ends
renting has all but its last episode dropped off, and the last open.

The times are 64-bit words, and a step's sum may wrap the clock around.  Where no step of the
run does (`State.timeFitsAlong`), the states are in time order (`State.pairwise_time_trail`),
so are the pick-ups, and every episode is dropped off no earlier than picked up; where the
time under way is also less than a word's reach (`State.elapsedFits`), the path lasts as long
as the last state has been under way.  Whatever wraps, the time under way is the absolute
value of the path's duration.  The sample ride started a hundred seconds before the largest
time wraps around on its street, and its episode is dropped off before it was picked up
(`late_ride_drops_off_before_pickup`).

The weight is the largest along the path: the last state's, since no step lowers a weight and
no weight is negative zero, which is the one number that ties with another it is not.
Episodes are read by one pass over the states (`Path.collectEpisodes`); what it opens is read
state by state (`Path.map_opening_collectEpisodes`), and it drops off every episode it opens
when pick-ups and drop-offs alternate (`Path.collectEpisodes_closes`), which the rental moves
of a run do.
-/
import RentalRouting.Proofs.FloatSign
import RentalRouting.Proofs.History
import RentalRouting.Proofs.Increments
import RentalRouting.Proofs.Progress
import RentalRouting.Proofs.Reconstruction
import RentalRouting.Proofs.RentalCount

namespace RentalRouting

/-! ### Weights are never negative zero -/

/-- Adding numbers not below zero to a number not below zero that is not negative zero never
gives negative zero. -/
theorem Float.not_isNegZero_foldl_add {a : Float} {ws : List Float} (ha : 0 ≤ a)
    (ha0 : ¬ a.IsNegZero) (hws : ∀ w ∈ ws, 0 ≤ w) : ¬ (ws.foldl (· + ·) a).IsNegZero := by
  induction ws generalizing a with
  | nil => exact ha0
  | cons w ws ih =>
    have hw := hws w (List.mem_cons_self ..)
    exact ih (Float.add_nonneg ha hw) (Float.not_isNegZero_add ha ha0 hw)
      fun x hx => hws x (List.mem_cons_of_mem _ hx)

/-- What a step adds to the weight is not below zero. -/
theorem Edit.zero_le_of_adds_weight {x : Edit} {w : Float} (h : x.adds? .weight = some w) :
    0 ≤ w := by
  cases x <;> simp only [Edit.adds?, reduceCtorEq] at h
  split at h
  · next hw =>
    cases h
    exact Editor.zero_le_of_acceptsWeight hw
  · cases h

/-- No step makes negative zero of a weight: it adds increments not below zero. -/
theorem PathEdge.not_isNegZero_weight_of_traverse {e : PathEdge} {s s' : State} (hs : s.Sound)
    (hz : ¬ s.weight.IsNegZero) (h : e.traverse s = some s') : ¬ s'.weight.IsNegZero := by
  obtain ⟨edits, rfl⟩ := exists_edits_of_traverse h
  rw [Editor.weight_applyAll, Editor.edit_child]
  refine Float.not_isNegZero_foldl_add hs.weight hz fun w hw => ?_
  obtain ⟨x, -, hx⟩ := List.mem_filterMap.1 hw
  exact Edit.zero_le_of_adds_weight hx

/-! ### Along the states of a run -/

namespace State

variable {s t : State} {es : List PathEdge}

/-- A property each step keeps holds of every state along a trail. -/
theorem forall_mem_trail {P : State → Prop}
    (hstep : ∀ (e : PathEdge) (s s' : State), P s → e.traverse s = some s' → P s')
    (hs : P s) : ∀ x ∈ s.trail es, P x := by
  induction es generalizing s with
  | nil => simpa [trail] using hs
  | cons e es ih =>
    cases hs' : e.traverse s with
    | none => simpa [trail, hs'] using hs
    | some s' =>
      rw [trail_cons_of_traverse hs']
      exact List.forall_mem_cons.2 ⟨hs, ih (hstep e s s' hs hs')⟩

/-- A transitive relation that each step makes between its two ends, among states with a
property of the rest of the path that each step keeps, orders the whole trail. -/
theorem pairwise_trail {P : State → List PathEdge → Prop} {R : State → State → Prop}
    (htrans : ∀ x y z, R x y → R y z → R x z)
    (hstep : ∀ (e : PathEdge) (es : List PathEdge) (s s' : State), P s (e :: es) →
      e.traverse s = some s' → P s' es ∧ R s s')
    (hs : P s es) :
    (s.trail es).Pairwise R := by
  induction es generalizing s with
  | nil => simp [trail]
  | cons e es ih =>
    cases hs' : e.traverse s with
    | none => simp [trail, hs']
    | some s' =>
      obtain ⟨hP, hR⟩ := hstep e es s s' hs hs'
      have hrest := ih hP
      rw [trail_cons_of_traverse hs', List.pairwise_cons]
      refine ⟨?_, hrest⟩
      -- the states after `s'` are related to `s'`, hence to `s`
      rw [trail_eq_cons s'] at hrest ⊢
      intro x hx
      rcases List.mem_cons.1 hx with rfl | hx
      · exact hR
      · exact htrans s s' x hR (List.rel_of_pairwise_cons hrest hx)

/-- The last state of a trail is where the run ends. -/
theorem getLast?_trail (h : s.run es = some t) : (s.trail es).getLast? = some t := by
  induction es generalizing s with
  | nil => cases h; rfl
  | cons e es ih =>
    obtain ⟨s₁, hs₁, hrest⟩ := run_cons_eq_some.1 h
    rw [trail_cons_of_traverse hs₁, trail_eq_cons s₁, List.getLast?_cons_cons,
      ← trail_eq_cons, ih hrest]

theorem mem_trail_of_run (h : s.run es = some t) : t ∈ s.trail es :=
  List.mem_of_getLast? (getLast?_trail h)

/-- No state of a trail is one it came back to: each stands on the one before it. -/
theorem nodup_trail : (s.trail es).Nodup := by
  have hsize : (s.trail es).Pairwise fun x y => sizeOf x < sizeOf y :=
    pairwise_trail (P := fun _ _ => True) (fun _ _ _ => Nat.lt_trans)
      (fun _ _ _ _ _ h => ⟨trivial, sizeOf_back_lt (PathEdge.position_of_traverse h).2⟩) trivial
  exact hsize.imp fun hlt => ne_of_apply_ne sizeOf (Nat.ne_of_lt hlt)

/-- Time moves one way along the trail of a sound state where no step wraps the clock around:
forward in a depart-at search, backward in an arrive-by one. -/
theorem pairwise_time_trail (hs : s.Sound) (hfit : s.timeFitsAlong es = true) :
    (s.trail es).Pairwise fun x y =>
      if s.isArriveBy then y.time ≤ x.time else x.time ≤ y.time := by
  -- the invariant carries the rest of the run's check along with the state
  refine pairwise_trail
    (P := fun x rest => x.Sound ∧ x.isArriveBy = s.isArriveBy ∧ x.timeFitsAlong rest = true)
    (fun x y z hxy hyz => ?_) (fun e rest x x' hx h => ?_) ⟨hs, rfl, hfit⟩
  · cases hab : s.isArriveBy <;>
      simp only [hab, Bool.false_eq_true, if_false, if_true] at hxy hyz ⊢
    · exact Int64.le_trans hxy hyz
    · exact Int64.le_trans hyz hxy
  · obtain ⟨hsound, hdir, hfits⟩ := hx
    rw [timeFitsAlong_cons_of_traverse h, Bool.and_eq_true] at hfits
    refine ⟨⟨(PathEdge.advances_of_traverse hsound h).sound hsound,
      (PathEdge.isArriveBy_of_traverse h).trans hdir, hfits.2⟩, ?_⟩
    simpa [hdir] using PathEdge.time_le_of_traverse h hfits.1

/-- Every state of a trail of a sound state is sound, and its weight is not negative zero
if the first one's is not. -/
theorem weight_of_mem_trail (hs : s.Sound) (hz : ¬ s.weight.IsNegZero) :
    ∀ x ∈ s.trail es, x.Sound ∧ ¬ x.weight.IsNegZero :=
  forall_mem_trail (fun _ _ _ hx h =>
    ⟨(PathEdge.advances_of_traverse hx.1 h).sound hx.1,
      PathEdge.not_isNegZero_weight_of_traverse hx.1 hx.2 h⟩) ⟨hs, hz⟩

/-- No state along a run from a sound state weighs more than the last one. -/
theorem weight_le_of_run (hs : s.Sound) (h : s.run es = some t) :
    ∀ x ∈ s.trail es, x.weight ≤ t.weight := by
  induction es generalizing s with
  | nil =>
    cases h
    simpa [trail] using Float.le_refl (Float.isNaN_of_le hs.weight).2
  | cons e es ih =>
    obtain ⟨s₁, hs₁, hrest⟩ := run_cons_eq_some.1 h
    have hadv := PathEdge.advances_of_traverse hs hs₁
    have ih₁ := ih (hadv.sound hs) hrest
    rw [trail_cons_of_traverse hs₁]
    intro x hx
    rcases List.mem_cons.1 hx with rfl | hx
    · have hs₁ : s₁ ∈ s₁.trail es := by
        rw [trail_eq_cons]
        exact List.mem_cons_self ..
      exact Float.le_trans hadv.weight (ih₁ s₁ hs₁)
    · exact ih₁ x hx

/-- A run from a sound state in which no step wraps the clock around ends no earlier than it
starts forward, no later backward. -/
theorem time_of_run (hs : s.Sound) (hfit : s.timeFitsAlong es = true) (h : s.run es = some t) :
    if s.isArriveBy then t.time ≤ s.time else s.time ≤ t.time := by
  have htime : (s.trail es).Pairwise _ := pairwise_time_trail hs hfit
  have hmem := mem_trail_of_run h
  rw [trail_eq_cons] at htime hmem
  rcases List.mem_cons.1 hmem with rfl | ht
  · split <;> exact Int64.le_refl _
  · exact List.rel_of_pairwise_cons htime ht

end State

/-! ### The weight of a path -/

namespace Path

variable {a b : Float}

theorem maxWeight_of_le (hab : a ≤ b) (ha : ¬ a.IsNegZero) (hb : ¬ b.IsNegZero) :
    maxWeight a b = b := by
  obtain ⟨ha', hb'⟩ := Float.isNaN_of_le hab
  simp only [maxWeight, ha', hb', Bool.false_eq_true, ↓reduceIte]
  split
  · rfl
  · -- not below and at most: the same number, as neither is negative zero
    next hlt => exact Float.eq_of_le_of_not_lt hab hlt ha hb

theorem maxWeight_of_ge (hba : b ≤ a) : maxWeight a b = a := by
  obtain ⟨hb', ha'⟩ := Float.isNaN_of_le hba
  simp only [maxWeight, ha', hb', Bool.false_eq_true, ↓reduceIte, if_neg (Float.not_lt_of_le hba)]

theorem maxWeight_eq_or (ha : a.isNaN = false) (hb : b.isNaN = false) :
    maxWeight a b = a ∨ maxWeight a b = b := by
  unfold maxWeight
  split_ifs <;> simp_all

/-- Folding in weights none above the start leaves the start. -/
theorem foldl_maxWeight_of_le {xs : List State} (h : ∀ x ∈ xs, x.weight ≤ a) :
    xs.foldl (fun w s => maxWeight w s.weight) a = a := by
  induction xs with
  | nil => rfl
  | cons x xs ih =>
    rw [List.foldl_cons, maxWeight_of_ge (h x (List.mem_cons_self ..))]
    exact ih fun y hy => h y (List.mem_cons_of_mem _ hy)

/-- Folding in weights of which the one of `m` is the largest gives that one, from a start
not above it, when no weight is negative zero. -/
theorem foldl_maxWeight_of_max {xs : List State} {m : State} (hm : m ∈ xs)
    (hle : ∀ x ∈ xs, x.weight ≤ m.weight) (hz : ∀ x ∈ xs, ¬ x.weight.IsNegZero)
    (ha : a ≤ m.weight) (ha0 : ¬ a.IsNegZero) :
    xs.foldl (fun w s => maxWeight w s.weight) a = m.weight := by
  induction xs generalizing a with
  | nil => cases hm
  | cons x xs ih =>
    rw [List.foldl_cons]
    by_cases hmem : m ∈ xs
    · -- the fold so far is the start or `x`'s weight, both at most `m`'s
      refine ih hmem (fun y hy => hle y (List.mem_cons_of_mem _ hy))
        (fun y hy => hz y (List.mem_cons_of_mem _ hy)) ?_ ?_ <;>
      rcases maxWeight_eq_or (Float.isNaN_of_le ha).1
          (Float.isNaN_of_le (hle x (List.mem_cons_self ..))).1 with h | h <;>
        rw [h]
      exacts [ha, hle x (List.mem_cons_self ..), ha0, hz x (List.mem_cons_self ..)]
    · obtain rfl : x = m := (List.mem_cons.1 hm).resolve_right hmem |>.symm
      rw [maxWeight_of_le ha ha0 (hz x (List.mem_cons_self ..))]
      exact foldl_maxWeight_of_le fun y hy => hle y (List.mem_cons_of_mem _ hy)

end Path

/-! ### Reading the episodes -/

/-- What an episode records when it opens: the station, the kind of vehicle and the time. -/
def Episode.opening (ep : Episode) : Option String × VehicleKind × Int64 :=
  (ep.pickupStation, ep.kind, ep.pickupTime)

namespace Path

/-- What a state reached by a pick-up opens: the station it added, the kind of vehicle it
holds and its time. -/
def opened (x : State) : Option (Option String × VehicleKind × Int64) :=
  match x.backEdge with
  | some ⟨_, .rentOn⟩ => some (addedStation x, x.rental.kind, x.time)
  | _ => none

/-- The rental loop a state was reached by: `true` after a pick-up, `false` after a
drop-off. -/
def loopFlag (x : State) : Option Bool :=
  match x.backEdge with
  | some ⟨_, .rentOn⟩ => some true
  | some ⟨_, .rentOff⟩ => some false
  | _ => none

theorem time_of_opened {x : State} {o : Option String × VehicleKind × Int64}
    (h : opened x = some o) : o.2.2 = x.time := by
  unfold opened at h
  split at h
  · cases h; rfl
  · cases h

/-- The episodes read off states open, in order, the episodes read before them and then one
at each state reached by a pick-up. -/
theorem map_opening_collectEpisodes (xs : List State) (current : Option Episode)
    (done : List Episode) :
    (collectEpisodes xs current done).map Episode.opening =
      (done.reverse ++ current.toList).map Episode.opening ++ xs.filterMap opened := by
  fun_induction collectEpisodes xs current done with
  | case1 current done => cases current <;> simp
  | case2 x rest current done _ hx ih =>
    rw [ih]
    cases current <;> simp [opened, hx, Episode.opening]
  | case3 x rest done _ hx ep ih => simp [ih, opened, hx, Episode.opening]
  | case4 x rest done _ hx ih => simp [ih, opened, hx]
  | case5 x rest current done hon _ ih =>
    have hx : opened x = none := by
      unfold opened
      split
      · next h => exact absurd h (hon _)
      · rfl
    rw [List.filterMap_cons_none hx, ih]

/-- Reading states whose pick-ups and drop-offs alternate, the first of them closing the open
episode if there is one, drops off every episode but one left open at the end, which there is
when the last of them is a pick-up. -/
theorem collectEpisodes_closes {xs : List State} {current : Option Episode}
    {done : List Episode} (hcur : ∀ ep ∈ current, ep.dropoffTime = none)
    (hdone : ∀ ep ∈ done, ep.dropoffTime.isSome)
    (hflags : (current.isSome :: xs.filterMap loopFlag).IsChain (· ≠ ·)) :
    ∃ closed last, collectEpisodes xs current done = closed ++ Option.toList last ∧
      (∀ ep ∈ closed, ep.dropoffTime.isSome) ∧ (∀ ep ∈ last, ep.dropoffTime = none) ∧
      last.isSome = (xs.filterMap loopFlag).getLast?.getD current.isSome := by
  fun_induction collectEpisodes xs current done with
  | case1 current done =>
    refine ⟨done.reverse, current, by cases current <;> simp, ?_, hcur, ?_⟩
    · exact fun ep h => hdone ep (List.mem_reverse.1 h)
    · simp
  | case2 x rest current done _ hx ih =>
    have hflag : loopFlag x = some true := by simp [loopFlag, hx]
    rw [List.filterMap_cons_some hflag] at hflags ⊢
    -- a pick-up follows no open episode
    obtain rfl : current = none := by
      cases current with
      | none => rfl
      | some _ => simp at hflags
    obtain ⟨closed, last, heq, hclosed, hlast, hsome⟩ :=
      ih (fun ep hep => by obtain rfl := Option.mem_some_iff.1 hep; rfl)
        (by simpa using hdone) hflags.tail
    exact ⟨closed, last, heq, hclosed, hlast, by simpa [List.getLast?_cons] using hsome⟩
  | case3 x rest done _ hx ep ih =>
    have hflag : loopFlag x = some false := by simp [loopFlag, hx]
    rw [List.filterMap_cons_some hflag] at hflags ⊢
    -- the drop-off closes the open episode
    obtain ⟨closed, last, heq, hclosed, hlast, hsome⟩ :=
      ih (fun e h => absurd h (Option.not_mem_none e)) (List.forall_mem_cons.2 ⟨rfl, hdone⟩)
        hflags.tail
    exact ⟨closed, last, heq, hclosed, hlast, by simpa [List.getLast?_cons] using hsome⟩
  | case4 x rest done _ hx ih =>
    -- a drop-off with no open episode breaks the alternation
    have hflag : loopFlag x = some false := by simp [loopFlag, hx]
    simp [List.filterMap_cons_some hflag] at hflags
  | case5 x rest current done hon hoff ih =>
    have hflag : loopFlag x = none := by
      unfold loopFlag
      split
      · next h => exact absurd h (hon _)
      · next h => exact absurd h (hoff _)
      · rfl
    rw [List.filterMap_cons_none hflag] at hflags ⊢
    exact ih hcur hdone hflags

/-- Reading states in time order, every episode is dropped off no earlier than it was picked
up: it opens at one state and closes at a later one. -/
theorem collectEpisodes_ordered {xs : List State} {current : Option Episode}
    {done : List Episode} (htime : xs.Pairwise fun x y => x.time ≤ y.time)
    (hcur : ∀ ep ∈ current, ep.dropoffTime = none ∧ ∀ x ∈ xs, ep.pickupTime ≤ x.time)
    (hdone : ∀ ep ∈ done, ∀ d ∈ ep.dropoffTime, ep.pickupTime ≤ d) :
    ∀ ep ∈ collectEpisodes xs current done, ∀ d ∈ ep.dropoffTime, ep.pickupTime ≤ d := by
  -- an open episode has no drop-off, so it joins the closed ones as they are
  have hopen : ∀ (c : Option Episode) (dn : List Episode), (∀ ep ∈ c, ep.dropoffTime = none) →
      (∀ ep ∈ dn, ∀ d ∈ ep.dropoffTime, ep.pickupTime ≤ d) →
      ∀ ep ∈ c.toList ++ dn, ∀ d ∈ ep.dropoffTime, ep.pickupTime ≤ d := by
    intro c dn hc hdn ep hep d hd
    rcases List.mem_append.1 hep with hep | hep
    · rw [hc ep (Option.mem_toList.1 hep)] at hd
      cases hd
    · exact hdn ep hep d hd
  fun_induction collectEpisodes xs current done with
  | case1 current done =>
    intro ep hep
    exact hopen current done (fun ep h => (hcur ep h).1) hdone ep (List.mem_reverse.1 hep)
  | case2 x rest current done _ hx ih =>
    obtain ⟨hlater, hrest⟩ := List.pairwise_cons.1 htime
    exact ih hrest (fun ep hep => by obtain rfl := Option.mem_some_iff.1 hep; exact ⟨rfl, hlater⟩)
      (hopen current done (fun ep h => (hcur ep h).1) hdone)
  | case3 x rest done _ hx ep ih =>
    refine ih (List.pairwise_cons.1 htime).2 (fun e h => absurd h (Option.not_mem_none e)) ?_
    intro ep' hep' d hd
    rcases List.mem_cons.1 hep' with rfl | hep'
    · -- the drop-off at `x` closes the episode, which opened before every state from `x` on
      obtain rfl := Option.mem_some_iff.1 hd
      exact (hcur ep rfl).2 x List.mem_cons_self
    · exact hdone ep' hep' d hd
  | case4 x rest done _ hx ih =>
    exact ih (List.pairwise_cons.1 htime).2 (fun e h => absurd h (Option.not_mem_none e)) hdone
  | case5 x rest current done hon hoff ih =>
    exact ih (List.pairwise_cons.1 htime).2
      (fun ep h => ⟨(hcur ep h).1, fun y hy => (hcur ep h).2 y (List.mem_cons_of_mem _ hy)⟩) hdone

end Path

/-! ### The rental loops of a run -/

/-- The station a pick-up takes a vehicle from. -/
def PathEdge.pickupStation? : PathEdge → Option Station
  | .graph (.pickup e) => some e.station
  | _ => none

/-- Forward, a pick-up begins a rental and a drop-off ends one. -/
theorem rentalMoves_false (es : List PathEdge) :
    rentalMoves false es = es.filterMap PathEdge.loop? := by
  unfold rentalMoves
  congr 1
  funext e
  simp [PathEdge.rentalMove]

/-- Backward, a drop-off begins a rental and a pick-up ends one. -/
theorem rentalMoves_true (es : List PathEdge) :
    rentalMoves true es = (es.filterMap PathEdge.loop?).map not := by
  rw [rentalMoves, List.map_filterMap]
  congr 1
  funext e
  simp [PathEdge.rentalMove]

/-- Loops met backward that begin and end rentals in turn, from not renting back to not
renting, are met forward as pick-ups and drop-offs in turn, the last a drop-off. -/
theorem isChain_reverse_of_rentalMoves {L : List Bool}
    (hchain : (false :: L.map not).IsChain (· ≠ ·))
    (hend : (L.map not).getLast?.getD false = false) :
    (false :: L.reverse).IsChain (· ≠ ·) ∧ L.reverse.getLast?.getD false = false := by
  -- backward, the first loop met is a drop-off and the last a pick-up
  have hfirst : ∀ b ∈ L.head?, b = false := by
    intro b hb
    cases L with
    | nil => cases hb
    | cons c L =>
      obtain rfl := Option.mem_some_iff.1 hb
      simpa using (List.isChain_cons_cons.1 hchain).1
  have hlast : ∀ b ∈ L.getLast?, b = true := by
    intro b hb
    rw [List.getLast?_map, hb] at hend
    simpa using hend
  have hL : L.IsChain (· ≠ ·) :=
    ((List.isChain_map not).1 hchain.tail).imp fun a b hab h => hab (h ▸ rfl)
  refine ⟨?_, ?_⟩
  · rw [show false :: L.reverse = (L ++ [false]).reverse by simp, List.isChain_reverse,
      List.isChain_append]
    refine ⟨hL.imp fun a b h => Ne.symm h, List.isChain_singleton _, ?_⟩
    intro x hx y hy
    obtain rfl := Option.mem_some_iff.1 hy
    simp [hlast x hx]
  · rw [List.getLast?_reverse]
    cases hh : L.head? with
    | none => rfl
    | some b => exact hfirst b hh

namespace PathEdge

variable {e : PathEdge} {s s' : State}

/-- A step leaves the state it leads to flagged with the edge's rental loop, if any. -/
theorem loopFlag_of_traverse (h : e.traverse s = some s') : Path.loopFlag s' = e.loop? := by
  rw [Path.loopFlag, backEdge_of_traverse h]
  rcases e with (e | e | e | e) | e <;> rfl

/-- A step opens an episode at the state it leads to where it is a pick-up, at the edge's
station with the kind of vehicle kept there. -/
theorem opened_of_traverse (h : e.traverse s = some s') :
    (Path.opened s').map (fun o => (o.1, o.2.1)) =
      e.pickupStation?.map fun st => (some st.id, st.kind) := by
  rw [Path.opened, backEdge_of_traverse h]
  rcases e with (e | p | e | e) | e
  case graph.pickup =>
    simp only [info, Edge.info, PickupEdge.info, Option.map_some, pickupStation?]
    rw [addedStation_of_traverse h, kind_of_pickup h]
    rfl
  all_goals rfl

end PathEdge

namespace State

variable {s t : State} {es : List PathEdge}

/-- A reading of states that each step fixes from the edge alone, and that reads nothing at
the first state, reads along the trail of a run what it reads along the path. -/
theorem filterMap_trail {α : Type} {f : State → Option α} {g : PathEdge → Option α}
    (hf : ∀ e s s', e.traverse s = some s' → f s' = g e) (h : s.run es = some t)
    (hs : f s = none) : (s.trail es).filterMap f = es.filterMap g := by
  have hmap := map_trail (f := f) (g := g) (fun e s s' _ h => hf e s s' h) h rfl
  calc (s.trail es).filterMap f
      = ((s.trail es).map f).filterMap id := by rw [List.filterMap_map]; rfl
    _ = es.filterMap g := by rw [hmap]; simp [hs, List.filterMap_map]

end State

/-! ### The path of a run -/

namespace Path

/-- A path lists the states of the back chain of its last state. -/
theorem ofState_perm_chain (t : State) : (ofState t).states.Perm t.chain := by
  unfold ofState
  split
  · exact List.Perm.refl _
  · exact List.reverse_perm _

/-- The episodes of a path read, state by state, what the states reached by a pick-up open. -/
theorem map_episodes {α : Type} (p : Path) (f : Option String × VehicleKind × Int64 → α) :
    p.episodes.map (fun ep => f ep.opening) = p.states.filterMap fun x => (opened x).map f := by
  rw [episodes, show (fun ep => f ep.opening) = f ∘ Episode.opening from rfl, ← List.map_map,
    map_opening_collectEpisodes]
  simp [List.map_filterMap]

section Runs

variable {vertex : VertexId} {time : Int64} {request : Request} {es : List PathEdge} {t : State}
  (h : (State.origin vertex time request).run es = some t)
include h

theorem mem_ofState_of_run {x : State} :
    x ∈ (ofState t).states ↔ x ∈ (State.origin vertex time request).trail es := by
  rw [ofState_of_run h]
  split <;> simp

theorem nodup_ofState_of_run : (ofState t).states.Nodup := by
  rw [ofState_of_run h]
  split
  · exact List.nodup_reverse.2 State.nodup_trail
  · exact State.nodup_trail

/-- The states of the path of a run in which no step wraps the clock around are in time
order, forward as they come and backward reversed. -/
theorem pairwise_time_ofState_of_run
    (hfit : (State.origin vertex time request).timeFitsAlong es = true) :
    (ofState t).states.Pairwise fun x y => x.time ≤ y.time := by
  have htime : ((State.origin vertex time request).trail es).Pairwise _ :=
    State.pairwise_time_trail (State.sound_origin vertex time request) hfit
  rw [State.origin_isArriveBy] at htime
  rw [ofState_of_run h]
  cases hab : request.isArriveBy
  · simpa [hab] using htime
  · simpa [hab, List.pairwise_reverse] using htime

/-- A path lasts from the time of its first state to that of its last, as 64-bit words: from
the origin to the last state forward, the other way backward. -/
theorem duration_ofState_of_run_eq :
    (ofState t).duration = if request.isArriveBy then time - t.time else t.time - time := by
  have hfirst : ((State.origin vertex time request).trail es).head? =
      some (State.origin vertex time request) := by
    rw [State.trail_eq_cons]
    rfl
  have hlast := State.getLast?_trail h
  unfold duration startTime endTime
  rw [ofState_of_run h]
  cases hab : request.isArriveBy
  · simp only [Bool.false_eq_true, if_false]
    rw [hfirst, hlast]
    rfl
  · simp only [if_true, List.head?_reverse, List.getLast?_reverse]
    rw [hfirst, hlast]
    rfl

/-- The last state of a run has been under way for the absolute value of its path's duration,
whether or not the clock wrapped around. -/
theorem elapsed_eq_abs_duration_of_run : t.elapsed = (ofState t).duration.abs := by
  have hstart : t.startTime = time := State.startTime_of_run h
  rw [duration_ofState_of_run_eq h, State.elapsed, hstart]
  split
  · rw [show t.time - time = -(time - t.time) by grind, Int64.abs_neg]
  · rfl

/-- Where no step of a run wraps the clock around and the time under way is less than a word's
reach, the path lasts as long as the last state has been under way. -/
theorem duration_ofState_of_run
    (hfit : (State.origin vertex time request).timeFitsAlong es = true)
    (hel : t.elapsedFits = true) : (ofState t).duration = t.elapsed := by
  have horder := State.time_of_run (State.sound_origin vertex time request) hfit h
  have hstart : t.startTime = time := State.startTime_of_run h
  simp only [State.elapsedFits, hstart, Bool.and_eq_true, decide_eq_true_eq] at hel
  rw [State.origin_isArriveBy] at horder
  rw [elapsed_eq_abs_duration_of_run h, eq_comm]
  apply Int64.abs_of_toInt_nonneg
  rw [duration_ofState_of_run_eq h]
  -- the two times are in search order and a word apart, so their difference is not negative
  cases hab : request.isArriveBy <;>
    simp only [hab, Bool.false_eq_true, if_false, if_true] at horder ⊢ <;>
    exact Int64.toInt_sub_nonneg horder (by omega)

/-- A path weighs what its last state weighs: the largest weight along it. -/
theorem weight_ofState_of_run : (ofState t).weight = t.weight := by
  have hsound := State.sound_origin vertex time request
  have hstates : ∀ x ∈ (State.origin vertex time request).trail es, _ :=
    State.weight_of_mem_trail hsound Float.not_isNegZero_zero
  have hle := State.weight_le_of_run hsound h
  have ht := State.mem_trail_of_run h
  exact foldl_maxWeight_of_max ((mem_ofState_of_run h).2 ht)
    (fun x hx => hle x ((mem_ofState_of_run h).1 hx))
    (fun x hx => (hstates x ((mem_ofState_of_run h).1 hx)).2) (hstates t ht).1.weight
    Float.not_isNegZero_zero

/-- The episodes of the path of a run are its pick-ups in time order, each at the station of
its edge with the kind of vehicle kept there. -/
theorem episodes_stations_of_run :
    (ofState t).episodes.map (fun ep => (ep.pickupStation, ep.kind)) =
      ((if request.isArriveBy then es.reverse else es).filterMap PathEdge.pickupStation?).map
        fun st => (some st.id, st.kind) := by
  have hread : ((State.origin vertex time request).trail es).filterMap
      (fun x => (opened x).map fun o => (o.1, o.2.1)) =
      es.filterMap fun e => e.pickupStation?.map fun st => (some st.id, st.kind) :=
    State.filterMap_trail (fun _ _ _ h => PathEdge.opened_of_traverse h) h rfl
  refine (map_episodes (ofState t) (fun o => (o.1, o.2.1))).trans ?_
  rw [ofState_of_run h, List.map_filterMap]
  split
  · rw [List.filterMap_reverse, hread, List.filterMap_reverse]
  · exact hread

/-- The episodes of the path of a run in which no step wraps the clock around are picked up
in time order. -/
theorem pairwise_pickupTime_of_run
    (hfit : (State.origin vertex time request).timeFitsAlong es = true) :
    ((ofState t).episodes.map (·.pickupTime)).Pairwise (· ≤ ·) := by
  rw [show (ofState t).episodes.map (·.pickupTime) = _ from map_episodes (ofState t) (·.2.2),
    List.pairwise_filterMap]
  refine (pairwise_time_ofState_of_run h hfit).imp fun {x y} hxy a ha b hb => ?_
  obtain ⟨o, hx, rfl⟩ := Option.map_eq_some_iff.1 ha
  obtain ⟨o', hy, rfl⟩ := Option.map_eq_some_iff.1 hb
  rw [time_of_opened hx, time_of_opened hy]
  exact hxy

/-- Along the path of a depart-at run, or of a run that ends not renting, pick-ups and
drop-offs alternate from not renting, and the last of them leaves the path renting as the last
state is. -/
theorem loopFlags_ofState_of_run
    (hclose : request.isArriveBy = false ∨ t.rental.renting = false) :
    (false :: (ofState t).states.filterMap loopFlag).IsChain (· ≠ ·) ∧
      ((ofState t).states.filterMap loopFlag).getLast?.getD false = t.rental.renting := by
  have hmoves : (false :: rentalMoves request.isArriveBy es).IsChain (· ≠ ·) :=
    State.rentalMoves_isChain h
  have hrenting : t.rental.renting = (rentalMoves request.isArriveBy es).getLast?.getD false :=
    State.renting_of_run h
  have hflags := State.filterMap_trail (f := loopFlag)
    (fun _ _ _ h => PathEdge.loopFlag_of_traverse h) h rfl
  rw [ofState_of_run h]
  cases hab : request.isArriveBy
  · -- forward the loops come in path order
    rw [hab, rentalMoves_false] at hmoves hrenting
    simp only [Bool.false_eq_true, if_false]
    rw [hflags]
    exact ⟨hmoves, hrenting.symm⟩
  · -- backward they come reversed, and a run that ends not renting ends on a drop-off
    have hnot : t.rental.renting = false := hclose.resolve_left (by simp [hab])
    rw [hab, rentalMoves_true] at hmoves hrenting
    obtain ⟨hchain, hend⟩ := isChain_reverse_of_rentalMoves hmoves (hrenting.symm.trans hnot)
    simp only [if_true]
    rw [List.filterMap_reverse, hflags]
    exact ⟨hchain, hend.trans hnot.symm⟩

/-- The episodes of a depart-at run, or of a run that ends not renting, are dropped off but for
one left open at the end, which there is when the run ends renting. -/
theorem episodes_closed_of_run (hclose : request.isArriveBy = false ∨ t.rental.renting = false) :
    ∃ closed last, (ofState t).episodes = closed ++ Option.toList last ∧
      (∀ ep ∈ closed, ep.dropoffTime.isSome) ∧ (∀ ep ∈ last, ep.dropoffTime = none) ∧
      last.isSome = t.rental.renting := by
  obtain ⟨hchain, hend⟩ := loopFlags_ofState_of_run h hclose
  obtain ⟨closed, last, heq, hclosed, hopen, hsome⟩ :=
    collectEpisodes_closes (fun ep h => absurd h (Option.not_mem_none ep))
      (fun _ h => (List.not_mem_nil h).elim) hchain
  exact ⟨closed, last, heq, hclosed, hopen, hsome.trans hend⟩

/-- Where no step of a run wraps the clock around, every episode of its path is dropped off no
earlier than it was picked up. -/
theorem episodes_ordered_of_run
    (hfit : (State.origin vertex time request).timeFitsAlong es = true) :
    ∀ ep ∈ (ofState t).episodes, ∀ d ∈ ep.dropoffTime, ep.pickupTime ≤ d :=
  collectEpisodes_ordered (pairwise_time_ofState_of_run h hfit)
    (fun ep h => absurd h (Option.not_mem_none ep)) (fun _ h => (List.not_mem_nil h).elim)

end Runs

end Path

/-! ### What the path of a run recovers -/

/-- The path of the last state of a run from an origin, in either direction, lists the back
chain once and weighs what the last state weighs.  Its episodes are the run's pick-ups in path
order, at their stations with the kinds of vehicle kept there; all are dropped off when the
run ends not renting, and all but the last, which is open, when a depart-at run ends renting.
The last state has been under way for the absolute value of the path's duration.

The times are 64-bit words.  Where no step of the run wraps the clock around, the path is in
time order and so are the pick-ups, and every episode is dropped off no earlier than it was
picked up; where the time under way is also less than a word's reach, the path lasts as long
as the last state has been under way. -/
theorem path_recovers_run {vertex : VertexId} {time : Int64} {request : Request}
    {es : List PathEdge} {t : State} (h : (State.origin vertex time request).run es = some t) :
    (Path.ofState t).states.Perm t.chain ∧ (Path.ofState t).states.Nodup ∧
      (Path.ofState t).weight = t.weight ∧
      (Path.ofState t).episodes.map (fun ep => (ep.pickupStation, ep.kind)) =
        ((if request.isArriveBy then es.reverse else es).filterMap PathEdge.pickupStation?).map
          (fun st => (some st.id, st.kind)) ∧
      (t.rental.renting = false → ∀ ep ∈ (Path.ofState t).episodes, ep.dropoffTime.isSome) ∧
      (request.isArriveBy = false → t.rental.renting = true →
        ∃ closed ep, (Path.ofState t).episodes = closed ++ [ep] ∧
          (∀ c ∈ closed, c.dropoffTime.isSome) ∧ ep.dropoffTime = none) ∧
      t.elapsed = (Path.ofState t).duration.abs ∧
      ((State.origin vertex time request).timeFitsAlong es = true →
        (Path.ofState t).states.Pairwise (fun x y => x.time ≤ y.time) ∧
        ((Path.ofState t).episodes.map (·.pickupTime)).Pairwise (· ≤ ·) ∧
        (∀ ep ∈ (Path.ofState t).episodes, ∀ d ∈ ep.dropoffTime, ep.pickupTime ≤ d) ∧
        (t.elapsedFits = true → (Path.ofState t).duration = t.elapsed)) := by
  refine ⟨Path.ofState_perm_chain t, Path.nodup_ofState_of_run h, Path.weight_ofState_of_run h,
    Path.episodes_stations_of_run h, fun hnot => ?_, fun hdir hrent => ?_,
    Path.elapsed_eq_abs_duration_of_run h, fun hfit => ⟨Path.pairwise_time_ofState_of_run h hfit,
      Path.pairwise_pickupTime_of_run h hfit, Path.episodes_ordered_of_run h hfit,
      Path.duration_ofState_of_run h hfit⟩⟩
  · obtain ⟨closed, last, heq, hclosed, -, hsome⟩ := Path.episodes_closed_of_run h (.inr hnot)
    -- ending not renting, no episode is left open
    cases last with
    | none => simpa [heq] using hclosed
    | some ep => simp [hnot] at hsome
  · obtain ⟨closed, last, heq, hclosed, hopen, hsome⟩ :=
      Path.episodes_closed_of_run h (.inl hdir)
    obtain ⟨ep, rfl⟩ := Option.isSome_iff_exists.1 (hsome.trans hrent)
    exact ⟨closed, ep, heq, hclosed, hopen ep rfl⟩

/-- Searched backward, the sample ride's path has one episode, at the first station with its
kind of vehicle; no step wraps the clock around, so the episode is dropped off no earlier than
it was picked up and the path lasts as long as its last state has been under way. -/
theorem sampleRide_backward_episode_closed :
    ∃ t, (State.origin 2 290 { sampleRequest with direction := .arriveBy }).run
        sampleRide.reverse = some t ∧
      (Path.ofState t).episodes.map (fun ep => (ep.pickupStation, ep.kind)) =
        [(some "a", sampleStationA.kind)] ∧
      (∀ ep ∈ (Path.ofState t).episodes, ∃ d, ep.dropoffTime = some d ∧ ep.pickupTime ≤ d) ∧
      (Path.ofState t).duration = t.elapsed := by
  obtain ⟨t, ht⟩ := Option.isSome_iff_exists.1
    (by decide +kernel : ((State.origin 2 290 { sampleRequest with direction := .arriveBy }).run
      sampleRide.reverse).isSome)
  have hfacts : ((State.origin 2 290 { sampleRequest with direction := .arriveBy }).run
      sampleRide.reverse).map (fun t => (t.rental.renting, t.elapsedFits)) = some (false, true) := by
    decide +kernel
  have hfit : (State.origin 2 290 { sampleRequest with direction := .arriveBy }).timeFitsAlong
      sampleRide.reverse = true := by decide +kernel
  rw [ht, Option.map_some, Option.some.injEq, Prod.mk.injEq] at hfacts
  obtain ⟨-, -, -, hstations, hclosed, -, -, htimes⟩ := path_recovers_run ht
  obtain ⟨-, -, hordered, hduration⟩ := htimes hfit
  refine ⟨t, ht, hstations.trans rfl, fun ep hep => ?_, hduration hfacts.2⟩
  obtain ⟨d, hd⟩ := Option.isSome_iff_exists.1 (hclosed hfacts.1 ep hep)
  exact ⟨d, hd, hordered ep hep d hd⟩

/-- The sample ride searched forward from a hundred seconds before the largest time: the clock
wraps around on the street, so the path's times go down and its episode is dropped off before
it was picked up. -/
theorem late_ride_drops_off_before_pickup :
    ∃ t, (State.origin 1 9223372036854775707 sampleRequest).run sampleRide = some t ∧
      t.rental.renting = false ∧
      ¬ (Path.ofState t).states.Pairwise (fun x y => x.time ≤ y.time) ∧
      ∃ ep ∈ (Path.ofState t).episodes, ∃ d, ep.dropoffTime = some d ∧ d < ep.pickupTime := by
  obtain ⟨t, ht⟩ := Option.isSome_iff_exists.1
    (by decide +kernel : ((State.origin 1 9223372036854775707 sampleRequest).run
      sampleRide).isSome)
  have hfacts : ((State.origin 1 9223372036854775707 sampleRequest).run sampleRide).map
      (fun t => (t.rental.renting, (Path.ofState t).states.map (·.time),
        (Path.ofState t).episodes.map fun ep => (ep.pickupTime, ep.dropoffTime))) =
      some (false, [9223372036854775707, 9223372036854775767, -9223372036854775649,
        -9223372036854775619], [(9223372036854775767, some (-9223372036854775619))]) := by
    decide +kernel
  rw [ht, Option.map_some, Option.some.injEq, Prod.mk.injEq, Prod.mk.injEq] at hfacts
  obtain ⟨hrent, htimes, hepisodes⟩ := hfacts
  refine ⟨t, ht, hrent, fun hpair => ?_, ?_⟩
  · -- the second state is later than the third
    have hmap := (List.pairwise_map (R := (· ≤ ·))).2 hpair
    rw [htimes] at hmap
    exact absurd hmap (by decide)
  · have hmem : (9223372036854775767, some (-9223372036854775619)) ∈
        (Path.ofState t).episodes.map fun ep => (ep.pickupTime, ep.dropoffTime) := by
      rw [hepisodes]
      exact List.mem_singleton_self _
    obtain ⟨ep, hep, hpd⟩ := List.mem_map.1 hmem
    rw [Prod.mk.injEq] at hpd
    exact ⟨ep, hep, -9223372036854775619, hpd.2, by rw [hpd.1]; decide⟩

end RentalRouting
