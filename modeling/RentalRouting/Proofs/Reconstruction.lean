/-
RentalRouting/Proofs/Reconstruction.lean

The path recovered from the last state of a search, for the two searches of one ride: the
depart-at search along the path, and the arrive-by search along it reversed, started at the
time the first one ends.  The states of a run, in path order, are its trail
(`State.trail`); the path of the last state lists them in time order either way, the
arrive-by trail reversed (`Path.ofState_of_run`).

Where both searches go through, as in the direction symmetry, and the path is connected, the
two paths list the same vertices at the same times and the same back edges, and they last as
long.  Their rental episodes pick up at the same stations vehicles of the same kinds, but
the times differ: the depart-at path reads each pick-up and drop-off at the state after it,
the arrive-by path at the state its edge leads to backward, which is the one before it.

    episodes (arrive-by) = (episodes (depart-at)).map (Episode.shift pickupSeconds dropoffSeconds)

So the arrive-by episodes are earlier by the rounded pick-up and drop-off times
(`episode_times_differ_by_direction`).
-/
import RentalRouting.Proofs.Symmetry
import RentalRouting.Search.Path

namespace RentalRouting

/-! ### Where a step leads -/

namespace PathEdge

variable {e : PathEdge} {s s' : State}

/-- A step leads to the edge's far end, its source backward and its target forward, and
remembers the state it came from. -/
theorem position_of_traverse (h : e.traverse s = some s') :
    s'.vertex = (if s.isArriveBy then e.info.source else e.info.target) ∧ s'.back = some s := by
  obtain ⟨edits, rfl⟩ := exists_edits_of_traverse h
  obtain ⟨hv, -, hb⟩ := Editor.applyAll_position (s.edit e.info) edits
  exact ⟨hv, hb⟩

/-- The station a step adds to the rented vehicles is the one it picks up at, if any. -/
theorem addedStation_of_traverse (h : e.traverse s = some s') :
    Path.addedStation s' = e.pickupId? := by
  obtain ⟨hnew, hrv⟩ := rentedVehicles_of_traverse h
  rw [Path.addedStation, (position_of_traverse h).2, Option.bind_some, hrv]
  cases hid : e.pickupId? with
  | none => simp [List.find?_eq_none]
  | some id =>
    -- of the stations after a pick-up, only the one picked up at is new
    have hfresh : ∀ y ∈ insertName id s.rental.rentedVehicles,
        (!s.rental.rentedVehicles.contains y) = true ↔ y = id := by
      intro y hy
      rcases (mem_insertName id y _).1 hy with rfl | hy
      · simp [hnew y hid]
      · have hne : y ≠ id := fun h => hnew id hid (h ▸ hy)
        simp [hy, hne]
    have hmem : id ∈ insertName id s.rental.rentedVehicles := (mem_insertName id id _).2 (.inl rfl)
    simp only [Option.elim]
    rcases hy : (insertName id s.rental.rentedVehicles).find?
        (fun y => !s.rental.rentedVehicles.contains y) with _ | y
    · exact absurd ((hfresh id hmem).2 rfl) (List.find?_eq_none.1 hy id hmem)
    · have hp := List.find?_some hy
      rw [(hfresh y (List.mem_of_find?_eq_some hy)).1 hp]

/-- A pick-up leaves the state with the kind of the station's vehicle, in either direction:
forward it begins riding it, backward it ends the ride traced. -/
theorem kind_of_pickup {p : PickupEdge} (h : (graph (.pickup p)).traverse s = some s') :
    s'.rental.kind = p.station.kind := by
  cases hdir : s.request.direction with
  | departAt => rw [(PickupEdge.rental_of_traverse_departAt hdir h).1]
  | arriveBy => rw [(PickupEdge.rental_of_traverse_arriveBy hdir h).1]

/-- The edges a state records as reached by a pick-up are the pick-ups. -/
theorem exists_pickup_of_kind (h : e.info.kind = .rentOn) : ∃ p, e = .graph (.pickup p) := by
  rcases e with (e | e | e | e) | e <;>
    simp_all [info, Edge.info, StreetEdge.info, PickupEdge.info, DropoffEdge.info, LinkEdge.info,
      TransitEdge.info]

/-- The edges a state records as reached by a drop-off are the drop-offs. -/
theorem exists_dropoff_of_kind (h : e.info.kind = .rentOff) : ∃ d, e = .graph (.dropoff d) := by
  rcases e with (e | e | e | e) | e <;>
    simp_all [info, Edge.info, StreetEdge.info, PickupEdge.info, DropoffEdge.info, LinkEdge.info,
      TransitEdge.info]

end PathEdge

/-! ### The states along a run -/

namespace State

/-- The states along a path from a state, in path order: the state, then those the edges
lead to, as far as the path goes through. -/
def trail (s : State) : List PathEdge → List State
  | [] => [s]
  | e :: es =>
    match e.traverse s with
    | some t => s :: t.trail es
    | none => [s]

variable {s t u : State} {e : PathEdge} {es : List PathEdge}

theorem trail_cons_of_traverse (h : e.traverse s = some t) :
    s.trail (e :: es) = s :: t.trail es := by
  simp [trail, h]

theorem trail_eq_cons (s : State) (es : List PathEdge) :
    s.trail es = s :: (s.trail es).tail := by
  cases es with
  | nil => rfl
  | cons e es => unfold trail; split <;> rfl

/-- Going one edge further adds the state it leads to at the end of the trail. -/
theorem trail_concat (h : s.run es = some u) (he : e.traverse u = some t) :
    s.trail (es ++ [e]) = s.trail es ++ [t] := by
  induction es generalizing s with
  | nil =>
    cases h
    simp [trail, he]
  | cons e' es ih =>
    obtain ⟨s₁, hs₁, hrest⟩ := run_cons_eq_some.1 h
    rw [List.cons_append, trail_cons_of_traverse hs₁, trail_cons_of_traverse hs₁, ih hrest,
      List.cons_append]

theorem chain_of_back {b : State} (h : s.back = some b) : s.chain = s :: b.chain := by
  rw [chain]
  split
  · next b' h' => rw [h] at h'; cases h'; rfl
  · next h' => rw [h] at h'; cases h'

theorem chain_eq_cons (s : State) : s.chain = s :: s.chain.tail := by
  rw [chain]
  split <;> rfl

theorem chain_origin (vertex : VertexId) (time : Int64) (request : Request) :
    (origin vertex time request).chain = [origin vertex time request] := by
  rw [chain]
  split
  · next b h => cases h
  · rfl

/-- The states back from the last state of a run are its trail backward, then those back
from the first state. -/
theorem chain_of_run (h : s.run es = some t) : t.chain = (s.trail es).reverse ++ s.chain.tail := by
  induction es generalizing s with
  | nil =>
    cases h
    exact chain_eq_cons _
  | cons e es ih =>
    obtain ⟨s₁, hs₁, hrest⟩ := run_cons_eq_some.1 h
    rw [ih hrest, chain_of_back (PathEdge.position_of_traverse hs₁).2, trail_cons_of_traverse hs₁,
      List.reverse_cons, List.append_assoc, List.singleton_append, ← chain_eq_cons]
    rfl

/-- A reading of states that each step fixes, on the state it leads to, from the edge alone,
reads a trail as the first state's reading and then the edges'. -/
theorem map_trail {α : Type} {f : State → α} {g : PathEdge → α} {b : Bool}
    (hf : ∀ e s s', s.isArriveBy = b → e.traverse s = some s' → f s' = g e)
    (h : s.run es = some t) (hb : s.isArriveBy = b) :
    (s.trail es).map f = f s :: es.map g := by
  induction es generalizing s with
  | nil => rfl
  | cons e es ih =>
    obtain ⟨s₁, hs₁, hrest⟩ := run_cons_eq_some.1 h
    rw [trail_cons_of_traverse hs₁, List.map_cons, List.map_cons,
      ih hrest ((PathEdge.isArriveBy_of_traverse hs₁).trans hb), hf e s s₁ hb hs₁]

/-- The back edges along a trail are those of the path, after the first state's. -/
theorem filterMap_backEdge_trail (h : s.run es = some t) :
    (s.trail es).filterMap (·.backEdge) =
      s.backEdge.toList ++ es.map fun e => ⟨e.info.id, e.info.kind⟩ := by
  have hmap := map_trail (f := (·.backEdge)) (g := fun e => some ⟨e.info.id, e.info.kind⟩)
    (fun _ _ _ _ h => PathEdge.backEdge_of_traverse h) h rfl
  calc (s.trail es).filterMap (·.backEdge)
      = ((s.trail es).map (·.backEdge)).filterMap id := by rw [List.filterMap_map]; rfl
    _ = s.backEdge.toList ++ es.map fun e => ⟨e.info.id, e.info.kind⟩ := by
      rw [hmap]
      cases s.backEdge <;> simp [List.filterMap_map]

/-! ### Two runs along one path, state by state -/

variable {v t' : State}

/-- A run along a path and a run along its reverse pair their states in time order: the
state the first reaches after a part of the path with the one the second reaches after the
rest, reversed.  A relation that holds of every such pair holds along the first trail and
the second one reversed. -/
theorem forall₂_trail {R : State → State → Prop}
    (ht : s.run es = some t) (ht' : v.run es.reverse = some t')
    (hR : ∀ es₁ es₂ u w, es = es₁ ++ es₂ → s.run es₁ = some u → v.run es₂.reverse = some w →
      R u w) :
    List.Forall₂ R (s.trail es) (v.trail es.reverse).reverse := by
  induction es generalizing s t' with
  | nil => exact .cons (hR [] [] s v rfl rfl rfl) .nil
  | cons e es ih =>
    obtain ⟨s₁, hs₁, hrest⟩ := run_cons_eq_some.1 ht
    obtain ⟨w, hw, hlast⟩ := run_append_eq_some.1 (by simpa using ht')
    rw [run_singleton] at hlast
    -- the first edge is crossed last backward: its state there comes first in time
    rw [trail_cons_of_traverse hs₁, List.reverse_cons, trail_concat hw hlast,
      List.reverse_append, List.reverse_singleton, List.singleton_append]
    refine .cons (hR [] (e :: es) s t' rfl rfl ht') (ih hrest hw fun es₁ es₂ u w' hsplit hu hw' => ?_)
    exact hR (e :: es₁) es₂ u w' (by rw [hsplit, List.cons_append]) (run_cons_eq_some.2 ⟨s₁, hs₁, hu⟩)
      hw'

/-- The same pairing edge by edge: the state the first run reaches across an edge with the
one the second reaches across it, leaving out the two first states. -/
theorem forall₂_trail_tail {R : State → State → Prop}
    (ht : s.run es = some t) (ht' : v.run es.reverse = some t')
    (hR : ∀ es₁ e es₂ u w u' w', es = es₁ ++ e :: es₂ → s.run es₁ = some u →
      v.run es₂.reverse = some w → e.traverse u = some u' → e.traverse w = some w' → R u' w') :
    List.Forall₂ R (s.trail es).tail (v.trail es.reverse).tail.reverse := by
  induction es generalizing s t' with
  | nil => exact .nil
  | cons e es ih =>
    obtain ⟨s₁, hs₁, hrest⟩ := run_cons_eq_some.1 ht
    obtain ⟨w, hw, hlast⟩ := run_append_eq_some.1 (by simpa using ht')
    rw [run_singleton] at hlast
    rw [trail_cons_of_traverse hs₁, List.tail_cons, List.reverse_cons, trail_concat hw hlast,
      trail_eq_cons v, List.cons_append, List.tail_cons, List.reverse_append,
      List.reverse_singleton, List.singleton_append, trail_eq_cons s₁]
    refine .cons (hR [] e es s w s₁ t' rfl rfl hw hs₁ hlast) ?_
    exact ih hrest hw fun es₁ e' es₂ u w' u' w'' hsplit hu hw' hu' hw'' =>
      hR (e :: es₁) e' es₂ u w' u' w'' (by rw [hsplit, List.cons_append])
        (run_cons_eq_some.2 ⟨s₁, hs₁, hu⟩) hw' hu' hw''

end State

/-! ### Reading the episodes -/

/-- The episode with its pick-up read `p` seconds and its drop-off `d` seconds earlier, on
the 64-bit clock. -/
def Episode.shift (p d : Int) (ep : Episode) : Episode :=
  { ep with
    pickupTime := ep.pickupTime - Int64.ofInt p
    dropoffTime := ep.dropoffTime.map (· - Int64.ofInt d) }

namespace Path

/-- Two states that episodes read alike but for the times: the second came by the same edge
and, where that edge is a pick-up, added the same station and holds the same kind of
vehicle; it stands `p` seconds before the first after a pick-up and `d` seconds before it
after a drop-off. -/
structure ReadAlike (p d : Int) (x y : State) : Prop where
  backEdge : y.backEdge = x.backEdge
  atPickup : x.backEdge.map (·.kind) = some .rentOn →
    addedStation y = addedStation x ∧ y.rental.kind = x.rental.kind ∧
      y.time = x.time - Int64.ofInt p
  atDropoff : x.backEdge.map (·.kind) = some .rentOff → y.time = x.time - Int64.ofInt d

/-- A state reached by no edge opens or closes no episode. -/
theorem collectEpisodes_cons_of_backEdge {s : State} (h : s.backEdge = none) (rest : List State)
    (current : Option Episode) (done : List Episode) :
    collectEpisodes (s :: rest) current done = collectEpisodes rest current done := by
  simp [collectEpisodes, h]

theorem collectEpisodes_concat_of_backEdge {s : State} (h : s.backEdge = none) (xs : List State)
    (current : Option Episode) (done : List Episode) :
    collectEpisodes (xs ++ [s]) current done = collectEpisodes xs current done := by
  fun_induction collectEpisodes xs current done with
  | case1 current done => exact collectEpisodes_cons_of_backEdge h [] current done
  | case2 x rest current done _ hx ih => simp [collectEpisodes, hx, ih]
  | case3 x rest done _ hx ep ih => simp [collectEpisodes, hx, ih]
  | case4 x rest done _ hx ih => simp [collectEpisodes, hx, ih]
  | case5 x rest current done _ _ ih => simp [collectEpisodes, ih]

/-- States read alike but for the times give the episodes with their times moved, the open
one and the closed ones alike: by induction along the two lists of states. -/
theorem collectEpisodes_shift {p d : Int} {xs ys : List State} (h : List.Forall₂ (ReadAlike p d) xs ys)
    (current : Option Episode) (done : List Episode) :
    collectEpisodes ys (current.map (Episode.shift p d)) (done.map (Episode.shift p d)) =
      (collectEpisodes xs current done).map (Episode.shift p d) := by
  induction h generalizing current done with
  | nil => cases current <;> simp [collectEpisodes]
  | @cons x y xs ys hxy hrest ih =>
    -- an episode opened or closed here goes to the closed ones, moved like the rest
    have hclose : (current.map (Episode.shift p d)).toList ++ done.map (Episode.shift p d) =
        (current.toList ++ done).map (Episode.shift p d) := by
      cases current <;> rfl
    rcases hx : x.backEdge with _ | ⟨id, kind⟩
    · have hy : y.backEdge = none := hxy.backEdge.trans hx
      rw [collectEpisodes_cons_of_backEdge hx, collectEpisodes_cons_of_backEdge hy, ih]
    · have hy : y.backEdge = some ⟨id, kind⟩ := hxy.backEdge.trans hx
      cases kind with
      | rentOn =>
        obtain ⟨hst, hkind, htime⟩ := hxy.atPickup (by rw [hx]; rfl)
        simp only [collectEpisodes, hx, hy]
        rw [hst, hkind, htime, hclose]
        exact ih (some ⟨addedStation x, x.rental.kind, x.time, none⟩) (current.toList ++ done)
      | rentOff =>
        have htime := hxy.atDropoff (by rw [hx]; rfl)
        cases current with
        | none => simpa [collectEpisodes, hx, hy] using ih none done
        | some ep =>
          simp only [collectEpisodes, hx, hy, Option.map_some]
          rw [htime]
          exact ih none ({ ep with dropoffTime := some x.time } :: done)
      | street | transit | rentalLink => simp [collectEpisodes, hx, hy, ih]

end Path

/-- The path of the last state of a run from a first state lists the run's trail in time
order: as it is forward, reversed backward. -/
theorem Path.ofState_of_run {vertex : VertexId} {time : Int64} {request : Request} {t : State}
    {es : List PathEdge} (h : (State.origin vertex time request).run es = some t) :
    (Path.ofState t).states =
      if request.isArriveBy then ((State.origin vertex time request).trail es).reverse
      else (State.origin vertex time request).trail es := by
  have hab : t.isArriveBy = request.isArriveBy := State.isArriveBy_of_run h
  rw [Path.ofState, hab, State.chain_of_run h, State.chain_origin, List.tail_cons, List.append_nil]
  split <;> simp

/-- A path's duration reads its times only. -/
theorem Path.duration_eq_of_times {p q : Path}
    (h : p.states.map (·.time) = q.states.map (·.time)) : p.duration = q.duration := by
  have hstart : p.startTime = q.startTime := by simp only [Path.startTime, ← List.head?_map, h]
  have hend : p.endTime = q.endTime := by simp only [Path.endTime, ← List.getLast?_map, h]
  simp only [Path.duration, hstart, hend]

/-! ### The two searches of one ride -/

/-- A path runs from `v₀` to `vₙ` when each edge starts where the one before it ends: after
`v₀` come the vertices the edges end at, and these are the ones they start at, then `vₙ`. -/
def Connects (v₀ vₙ : VertexId) (es : List PathEdge) : Prop :=
  v₀ :: es.map (·.info.target) = es.map (·.info.source) ++ [vₙ]

instance (v₀ vₙ : VertexId) (es : List PathEdge) : Decidable (Connects v₀ vₙ es) :=
  inferInstanceAs (Decidable (_ = _))

section Searches

variable {r : Request} {es es₁ es₂ : List PathEdge} {e : PathEdge} {v₀ vₙ : VertexId} {T : Int64}
  {t t' u w u' w' : State} {m₀ : TravelMode}

/-- Where both searches go through, the backward one started when the forward one ends, the
two stand at each point of the path at the same time: the steps after it move the forward
time up by what they move the backward time down. -/
theorem time_at_split (hmode : r.initialMode = some m₀) (halt : RentalsAlternate es)
    (hride : RidesInOneMode es)
    (ht : (State.origin v₀ T { r with direction := .departAt }).run es = some t)
    (ht' : (State.origin vₙ t.time { r with direction := .arriveBy }).run es.reverse = some t')
    (hsplit : es = es₁ ++ es₂)
    (hu : (State.origin v₀ T { r with direction := .departAt }).run es₁ = some u)
    (hw : (State.origin vₙ t.time { r with direction := .arriveBy }).run es₂.reverse = some w) :
    u.time = w.time := by
  have hfwd := Option.isSome_iff_exists.2 ⟨t, ht⟩
  have hbwd := Option.isSome_iff_exists.2 ⟨t', ht'⟩
  have hut : u.run es₂ = some t := by
    rw [hsplit, State.run_append, hu, Option.bind_some] at ht
    exact ht
  have htime := State.time_opposite_of_steps hut hw
    fun es₁' e es₂' u₁ v₁ u₁' v₁' hsplit' hu₁ hv₁ hu₁' hv₁' => by
      obtain ⟨u'', v'', -, hu'', hv'', hdt, -⟩ := step_costs_at_split hmode halt hride hfwd hbwd
        (by rw [hsplit, hsplit', List.append_assoc] : es = (es₁ ++ es₁') ++ e :: es₂')
        (by rw [State.run_append, hu, Option.bind_some, hu₁]) hv₁
      obtain rfl := Option.some.inj (hu''.symm.trans hu₁')
      obtain rfl := Option.some.inj (hv''.symm.trans hv₁')
      exact hdt
  simp only [State.origin] at htime
  grind

/-- Across each edge the two searches reach states that episodes read alike, the backward
one at the time before the edge and the forward one at the time after it: a pick-up apart
by its rounded time, a drop-off by its. -/
theorem readAlike_at_split (hmode : r.initialMode = some m₀) (halt : RentalsAlternate es)
    (hride : RidesInOneMode es)
    (ht : (State.origin v₀ T { r with direction := .departAt }).run es = some t)
    (ht' : (State.origin vₙ t.time { r with direction := .arriveBy }).run es.reverse = some t')
    (hsplit : es = es₁ ++ e :: es₂)
    (hu : (State.origin v₀ T { r with direction := .departAt }).run es₁ = some u)
    (hw : (State.origin vₙ t.time { r with direction := .arriveBy }).run es₂.reverse = some w)
    (hu' : e.traverse u = some u') (hw' : e.traverse w = some w') :
    Path.ReadAlike (Double.roundToWord r.pickupTime) (Double.roundToWord r.dropoffTime) u' w' := by
  have hbe : u'.backEdge = some ⟨e.info.id, e.info.kind⟩ := PathEdge.backEdge_of_traverse hu'
  -- backward, the state across the edge stands where the forward one stood before it
  have hw'' : (State.origin vₙ t.time { r with direction := .arriveBy }).run (e :: es₂).reverse =
      some w' := by
    rw [List.reverse_cons, State.run_append, hw, Option.bind_some, State.run_singleton, hw']
  have hbefore : w'.time = u.time := (time_at_split hmode halt hride ht ht' hsplit hu hw'').symm
  have hq : u.request = { r with direction := .departAt } := State.request_of_run hu
  have hafter : u'.time = u.time + Int64.ofInt (e.seconds u.request u.mode) := by
    have h := (PathEdge.cost_of_traverse hu').1
    rwa [if_neg (by simp [State.isArriveBy, hq, Request.isArriveBy])] at h
  refine ⟨(PathEdge.backEdge_of_traverse hw').trans hbe.symm, fun hk => ?_, fun hk => ?_⟩
  · rw [hbe] at hk
    obtain ⟨p, rfl⟩ := PathEdge.exists_pickup_of_kind (Option.some.inj hk)
    refine ⟨?_, ?_, ?_⟩
    · rw [PathEdge.addedStation_of_traverse hu', PathEdge.addedStation_of_traverse hw']
    · rw [PathEdge.kind_of_pickup hu', PathEdge.kind_of_pickup hw']
    · rw [hbefore, hafter, hq]
      simp [PathEdge.seconds]
  · rw [hbe] at hk
    obtain ⟨d, rfl⟩ := PathEdge.exists_dropoff_of_kind (Option.some.inj hk)
    rw [hbefore, hafter, hq]
    simp [PathEdge.seconds]

/-- The depart-at search of a request along a connected path, and the arrive-by search
along it reversed, started at the time the first ends.  Where the search starts in a mode,
the rental loops alternate from a pick-up to a drop-off and each rental is ridden in one
mode, and both go through, their paths list the same vertices at the same times and the same
back edges, and last as long.  Their episodes pick up at the same stations vehicles of the
same kinds, but the arrive-by path reads each pick-up earlier by the rounded pick-up time
and each drop-off earlier by the rounded drop-off time. -/
theorem reconstructed_paths_agree (hmode : r.initialMode = some m₀)
    (halt : RentalsAlternate es) (hride : RidesInOneMode es) (hconn : Connects v₀ vₙ es)
    (ht : (State.origin v₀ T { r with direction := .departAt }).run es = some t)
    (ht' : (State.origin vₙ t.time { r with direction := .arriveBy }).run es.reverse = some t') :
    (Path.ofState t').states.map (fun s => (s.vertex, s.time)) =
        (Path.ofState t).states.map (fun s => (s.vertex, s.time)) ∧
      (Path.ofState t').backEdges = (Path.ofState t).backEdges ∧
      (Path.ofState t').duration = (Path.ofState t).duration ∧
      (Path.ofState t').episodes = (Path.ofState t).episodes.map
        (Episode.shift (Double.roundToWord r.pickupTime) (Double.roundToWord r.dropoffTime)) := by
  have hp : (Path.ofState t).states = (State.origin v₀ T { r with direction := .departAt }).trail es := by
    rw [Path.ofState_of_run ht]
    rfl
  have hp' : (Path.ofState t').states =
      ((State.origin vₙ t.time { r with direction := .arriveBy }).trail es.reverse).reverse := by
    rw [Path.ofState_of_run ht']
    rfl
  -- the times, state by state
  have htimes : (Path.ofState t').states.map (·.time) = (Path.ofState t).states.map (·.time) := by
    have h := State.forall₂_trail (R := fun u w => u.time = w.time) ht ht'
      fun _ _ _ _ hsplit hu hw => time_at_split hmode halt hride ht ht' hsplit hu hw
    rw [hp, hp', eq_comm, ← List.forall₂_eq_eq_eq, List.forall₂_map_left_iff,
      List.forall₂_map_right_iff]
    exact h
  -- the vertices, read off the ends of the edges
  have hverts : (Path.ofState t').states.map (·.vertex) = (Path.ofState t).states.map (·.vertex) := by
    have hf := State.map_trail (f := (·.vertex)) (g := (·.info.target)) (b := false)
      (fun _ _ _ hb h => by rw [(PathEdge.position_of_traverse h).1, hb]; rfl) ht rfl
    have hb := State.map_trail (f := (·.vertex)) (g := (·.info.source)) (b := true)
      (fun _ _ _ hb h => by rw [(PathEdge.position_of_traverse h).1, hb]; rfl) ht' rfl
    rw [hp, hp', List.map_reverse, hb, hf, List.map_reverse, List.reverse_cons,
      List.reverse_reverse]
    exact hconn.symm
  refine ⟨?_, ?_, Path.duration_eq_of_times htimes, ?_⟩
  · rw [← List.zip_map', ← List.zip_map', htimes, hverts]
  · rw [Path.backEdges, Path.backEdges, hp, hp', List.filterMap_reverse,
      State.filterMap_backEdge_trail ht, State.filterMap_backEdge_trail ht']
    simp [State.origin]
  · -- the two first states open no episode; the others pair up edge by edge
    have h := State.forall₂_trail_tail
      (R := Path.ReadAlike (Double.roundToWord r.pickupTime) (Double.roundToWord r.dropoffTime))
      ht ht' fun _ _ _ _ _ _ _ hsplit hu hw hu' hw' =>
        readAlike_at_split hmode halt hride ht ht' hsplit hu hw hu' hw'
    rw [Path.episodes, Path.episodes, hp, hp', State.trail_eq_cons _ es.reverse, List.reverse_cons,
      Path.collectEpisodes_concat_of_backEdge rfl, State.trail_eq_cons _ es,
      Path.collectEpisodes_cons_of_backEdge rfl]
    simpa using Path.collectEpisodes_shift h none []

end Searches

/-! ### The sample ride both ways -/

/-- Both searches go through the sample ride: forward from vertex 1 at 0 s it ends at
290 s, and backward from vertex 2 at 290 s. -/
theorem sampleRide_runs_both_ways :
    ∃ t t', (State.origin 1 0 { sampleRequest with direction := .departAt }).run sampleRide = some t ∧
      t.time = 290 ∧
      (State.origin 2 290 { sampleRequest with direction := .arriveBy }).run sampleRide.reverse =
        some t' := by
  obtain ⟨t, ht⟩ := Option.isSome_iff_exists.1
    (by decide +kernel :
      ((State.origin 1 0 { sampleRequest with direction := .departAt }).run sampleRide).isSome)
  obtain ⟨t', ht'⟩ := Option.isSome_iff_exists.1
    (by decide +kernel :
      ((State.origin 2 290 { sampleRequest with direction := .arriveBy }).run
        sampleRide.reverse).isSome)
  have htime : ((State.origin 1 0 { sampleRequest with direction := .departAt }).run
      sampleRide).map State.time = some 290 := by decide +kernel
  rw [ht] at htime
  exact ⟨t, t', ht, Option.some.inj htime, ht'⟩

/-- The sample ride meets the conditions, and its two paths agree but for the episode
times. -/
theorem sampleRide_paths_agree :
    ∃ t t', (State.origin 1 0 { sampleRequest with direction := .departAt }).run sampleRide = some t ∧
      (State.origin 2 t.time { sampleRequest with direction := .arriveBy }).run sampleRide.reverse =
        some t' ∧
      RentalsAlternate sampleRide ∧ RidesInOneMode sampleRide ∧ Connects 1 2 sampleRide ∧
      ((Path.ofState t').states.map (fun s => (s.vertex, s.time)) =
          (Path.ofState t).states.map (fun s => (s.vertex, s.time)) ∧
        (Path.ofState t').backEdges = (Path.ofState t).backEdges ∧
        (Path.ofState t').duration = (Path.ofState t).duration ∧
        (Path.ofState t').episodes = (Path.ofState t).episodes.map
          (Episode.shift (Double.roundToWord sampleRequest.pickupTime)
            (Double.roundToWord sampleRequest.dropoffTime))) := by
  obtain ⟨t, t', ht, htime, ht'⟩ := sampleRide_runs_both_ways
  have halt : RentalsAlternate sampleRide := by decide
  have hride : RidesInOneMode sampleRide := RidesInOneMode.of_travelMode (m := .micromobility)
    (by intro p hp; simp [sampleRide] at hp; rw [hp]; rfl)
    (by intro d hd; simp [sampleRide] at hd; rw [hd]; rfl)
  have hconn : Connects 1 2 sampleRide := by decide
  rw [← htime] at ht'
  exact ⟨t, t', ht, ht', halt, hride, hconn, reconstructed_paths_agree rfl halt hride hconn ht ht'⟩

/-- The two paths of the sample ride read its one rental differently: forward it is picked
up at 60 s and dropped off at 290 s; backward, from 290 s, picked up at 0 s and dropped off
at 260 s, each the state before the action instead of the one after. -/
theorem episode_times_differ_by_direction :
    ∃ t t', (State.origin 1 0 { sampleRequest with direction := .departAt }).run sampleRide = some t ∧
      (State.origin 2 t.time { sampleRequest with direction := .arriveBy }).run sampleRide.reverse =
        some t' ∧
      (Path.ofState t).episodes.map (fun ep => (ep.pickupStation, ep.pickupTime, ep.dropoffTime)) =
        [(some "a", 60, some 290)] ∧
      (Path.ofState t').episodes.map (fun ep => (ep.pickupStation, ep.pickupTime, ep.dropoffTime)) =
        [(some "a", 0, some 260)] := by
  obtain ⟨t, t', ht, htime, ht'⟩ := sampleRide_runs_both_ways
  refine ⟨t, t', ht, htime ▸ ht', ?_, ?_⟩
  · rw [Path.episodes, Path.ofState_of_run ht]
    decide +kernel
  · rw [Path.episodes, Path.ofState_of_run ht']
    decide +kernel

end RentalRouting
