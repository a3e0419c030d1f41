/-
RentalRouting/Proofs/Updater.lean

What one update does to the service it keeps, read through the service's maps.  A batch of
puts leaves each id with the last station put under it, and a batch of removals empties the
ids removed; so an update whose refresh succeeded with changed stations `B` leaves

    station? k = if k ∈ ids B then last? k B
                 else if k ∈ knownIds then none else (what the service held),

and afterwards knows the ids of `B`; regions go the same way by network.  An update whose
refresh failed touches neither the service nor what the updater knows.  The summary counts
the batch and the stale ids that were in the service.
-/
import RentalRouting.Proofs.Service

namespace RentalRouting

open Table

/-! ### Sets of names -/

theorem pairwise_insertName (name : String) {names : List String}
    (h : names.Pairwise (· < ·)) : (insertName name names).Pairwise (· < ·) := by
  induction names with
  | nil => simp [insertName]
  | cons n rest ih =>
    obtain ⟨hn, hrest⟩ := List.pairwise_cons.1 h
    unfold insertName
    split
    · next hlt =>
      refine List.Pairwise.cons (fun x hx => ?_) h
      rcases List.mem_cons.1 hx with rfl | hx
      · exact hlt
      · exact lt_trans hlt (hn x hx)
    · split
      · exact h
      · -- the name goes after `n`, which is below it and below the rest
        next hlt heq =>
        have hgt : n < name := lt_of_le_of_ne (not_lt.1 hlt) (Ne.symm heq)
        refine List.Pairwise.cons (fun x hx => ?_) (ih hrest)
        rcases (mem_insertName name x rest).1 hx with rfl | hx
        · exact hgt
        · exact hn x hx

theorem mem_foldl_insertName {n : String} (names acc : List String) :
    n ∈ names.foldl (fun acc m => insertName m acc) acc ↔ n ∈ acc ∨ n ∈ names := by
  induction names generalizing acc with
  | nil => simp
  | cons m rest ih =>
    rw [List.foldl_cons, ih, mem_insertName]
    simp only [List.mem_cons]
    tauto

theorem pairwise_foldl_insertName (names : List String) {acc : List String}
    (h : acc.Pairwise (· < ·)) :
    (names.foldl (fun acc m => insertName m acc) acc).Pairwise (· < ·) := by
  induction names generalizing acc with
  | nil => exact h
  | cons m rest ih => exact ih (pairwise_insertName m h)

@[simp] theorem mem_nameSet {n : String} {names : List String} : n ∈ nameSet names ↔ n ∈ names := by
  simp [nameSet, mem_foldl_insertName]

theorem nodup_nameSet (names : List String) : (nameSet names).Nodup :=
  (pairwise_foldl_insertName names List.Pairwise.nil).imp ne_of_lt

namespace RentalUpdater

variable {σ ε : Type} [RentalSource σ ε] {sv : Service}

/-! ### Batches of puts and removals -/

theorem putStations_cons (sv : Service) (st : Station) (rest : List Station) :
    putStations sv (st :: rest) =
      let r := putStations (sv.addStation st).1 rest
      (r.1, if (sv.addStation st).2.isSome then (r.2.1, r.2.2 + 1) else (r.2.1 + 1, r.2.2)) := by
  simp only [putStations]
  split <;> rfl

/-- After a batch of puts an id holds the last station put under it, if any. -/
theorem station?_putStations (sv : Service) (stations : List Station) (k : String) :
    (putStations sv stations).1.station? k = (last? Station.id k stations).or (sv.station? k) := by
  induction stations generalizing sv with
  | nil => rfl
  | cons st rest ih =>
    rw [putStations_cons, ih, Service.station?_addStation, last?_cons]
    by_cases h : st.id = k <;> simp [h]

theorem region?_putStations (sv : Service) (stations : List Station) (n : String) :
    (putStations sv stations).1.region? n = sv.region? n := by
  induction stations generalizing sv with
  | nil => rfl
  | cons st rest ih => rw [putStations_cons, ih, Service.region?_addStation]

theorem putStations_counts (sv : Service) (stations : List Station) :
    (putStations sv stations).2.1 + (putStations sv stations).2.2 = stations.length := by
  induction stations generalizing sv with
  | nil => rfl
  | cons st rest ih =>
    rw [putStations_cons]
    have := ih (sv.addStation st).1
    split <;> simp only [List.length_cons] <;> omega

theorem wellFormed_putStations (hwf : sv.WellFormed) (stations : List Station) :
    (putStations sv stations).1.WellFormed := by
  induction stations generalizing sv with
  | nil => exact hwf
  | cons st rest ih => rw [putStations_cons]; exact ih (hwf.addStation st)

theorem removeStations_cons (sv : Service) (id : String) (rest : List String) :
    removeStations sv (id :: rest) =
      let r := removeStations (sv.removeStation id).1 rest
      (r.1, if (sv.removeStation id).2.isSome then r.2 + 1 else r.2) := rfl

theorem wellFormed_removeStations (hwf : sv.WellFormed) (ids : List String) :
    (removeStations sv ids).1.WellFormed := by
  induction ids generalizing sv with
  | nil => exact hwf
  | cons id rest ih => rw [removeStations_cons]; exact ih (hwf.removeStation id)

/-- After a batch of removals the ids removed hold nothing and the others what they held. -/
theorem station?_removeStations (hwf : sv.WellFormed) (ids : List String) (k : String) :
    (removeStations sv ids).1.station? k = if k ∈ ids then none else sv.station? k := by
  induction ids generalizing sv with
  | nil => simp [removeStations]
  | cons id rest ih =>
    rw [removeStations_cons, ih (hwf.removeStation id), Service.station?_removeStation hwf]
    by_cases h : id = k
    · simp [h]
    · simp [h, Ne.symm h]

theorem region?_removeStations (ids : List String) (n : String) :
    (removeStations sv ids).1.region? n = sv.region? n := by
  induction ids generalizing sv with
  | nil => rfl
  | cons id rest ih => rw [removeStations_cons, ih, Service.region?_removeStation]

/-- Removing distinct ids counts those that were there. -/
theorem removeStations_count (hwf : sv.WellFormed) {ids : List String} (hnd : ids.Nodup) :
    (removeStations sv ids).2 = (ids.filter fun k => (sv.station? k).isSome).length := by
  induction ids generalizing sv with
  | nil => rfl
  | cons id rest ih =>
    obtain ⟨hid, hrest⟩ := List.nodup_cons.1 hnd
    rw [removeStations_cons]
    dsimp only
    rw [ih (hwf.removeStation id) hrest, Service.removeStation_snd]
    -- the later ids are not the one removed, so they are there as before
    have hsame : (rest.filter fun k => ((sv.removeStation id).1.station? k).isSome) =
        rest.filter fun k => (sv.station? k).isSome := by
      refine List.filter_congr fun k hk => ?_
      rw [Service.station?_removeStation hwf, if_neg (fun (h : id = k) => hid (h ▸ hk))]
    rw [hsame, List.filter_cons]
    split <;> simp_all

theorem removeRegions_cons (sv : Service) (network : String) (rest : List String) :
    removeRegions sv (network :: rest) =
      let r := removeRegions (sv.removeRegion network).1 rest
      (r.1, if (sv.removeRegion network).2.isSome then r.2 + 1 else r.2) := rfl

theorem wellFormed_removeRegions (hwf : sv.WellFormed) (networks : List String) :
    (removeRegions sv networks).1.WellFormed := by
  induction networks generalizing sv with
  | nil => exact hwf
  | cons n rest ih => rw [removeRegions_cons]; exact ih (hwf.removeRegion n)

theorem region?_removeRegions (hwf : sv.WellFormed) (networks : List String) (n : String) :
    (removeRegions sv networks).1.region? n = if n ∈ networks then none else sv.region? n := by
  induction networks generalizing sv with
  | nil => simp [removeRegions]
  | cons m rest ih =>
    rw [removeRegions_cons, ih (hwf.removeRegion m), Service.region?_removeRegion hwf]
    by_cases h : m = n
    · simp [h]
    · simp [h, Ne.symm h]

theorem station?_removeRegions (networks : List String) (k : String) :
    (removeRegions sv networks).1.station? k = sv.station? k := by
  induction networks generalizing sv with
  | nil => rfl
  | cons m rest ih => rw [removeRegions_cons, ih, Service.station?_removeRegion]

theorem removeRegions_count (hwf : sv.WellFormed) {networks : List String}
    (hnd : networks.Nodup) :
    (removeRegions sv networks).2 = (networks.filter fun n => (sv.region? n).isSome).length := by
  induction networks generalizing sv with
  | nil => rfl
  | cons m rest ih =>
    obtain ⟨hm, hrest⟩ := List.nodup_cons.1 hnd
    rw [removeRegions_cons]
    dsimp only
    rw [ih (hwf.removeRegion m) hrest, Service.removeRegion_snd]
    have hsame : (rest.filter fun n => ((sv.removeRegion m).1.region? n).isSome) =
        rest.filter fun n => (sv.region? n).isSome := by
      refine List.filter_congr fun n hn => ?_
      rw [Service.region?_removeRegion hwf, if_neg (fun (h : m = n) => hm (h ▸ hn))]
    rw [hsame, List.filter_cons]
    split <;> simp_all

theorem region?_foldl_addRegion (sv : Service) (regions : List Region) (n : String) :
    (regions.foldl Service.addRegion sv).region? n =
      (last? Region.network n regions).or (sv.region? n) := by
  induction regions generalizing sv with
  | nil => rfl
  | cons r rest ih =>
    rw [List.foldl_cons, ih, Service.region?_addRegion, last?_cons]
    by_cases h : r.network = n <;> simp [h]

theorem station?_foldl_addRegion (sv : Service) (regions : List Region) (k : String) :
    (regions.foldl Service.addRegion sv).station? k = sv.station? k := by
  induction regions generalizing sv with
  | nil => rfl
  | cons r rest ih => rw [List.foldl_cons, ih, Service.station?_addRegion]

theorem wellFormed_foldl_addRegion (hwf : sv.WellFormed) (regions : List Region) :
    (regions.foldl Service.addRegion sv).WellFormed := by
  induction regions generalizing sv with
  | nil => exact hwf
  | cons r rest ih => exact ih (hwf.addRegion r)

/-! ### Putting the stations of a source -/

/-- The ids an updater knows that its source no longer reports. -/
def staleIds (u : RentalUpdater σ) : List String :=
  u.knownIds.filter fun k => !(nameSet ((RentalSource.stations u.source).map Station.id)).contains k

/-- The networks an updater knows that its source no longer reports. -/
def staleNetworks (u : RentalUpdater σ) : List String :=
  u.knownNetworks.filter fun n => !(nameSet ((RentalSource.regions u.source).map Region.network)).contains n

theorem mem_staleIds {u : RentalUpdater σ} {k : String} :
    k ∈ u.staleIds ↔ k ∈ u.knownIds ∧ k ∉ (RentalSource.stations u.source).map Station.id := by
  simp [staleIds]

theorem mem_staleNetworks {u : RentalUpdater σ} {n : String} :
    n ∈ u.staleNetworks ↔
      n ∈ u.knownNetworks ∧ n ∉ (RentalSource.regions u.source).map Region.network := by
  simp [staleNetworks]

variable (u : RentalUpdater σ) (summary : UpdateSummary)

theorem updateStations_eq :
    u.updateStations sv summary =
      let put := putStations sv (RentalSource.stations u.source)
      let removal := removeStations put.1 u.staleIds
      ({ u with knownIds := nameSet ((RentalSource.stations u.source).map Station.id) }, removal.1,
        { summary with added := put.2.1, replaced := put.2.2, removed := removal.2 }) := rfl

/-- Putting the source's stations: its ids hold their last station, the stale ids nothing,
and every other id what it held. -/
theorem station?_updateStations (hwf : sv.WellFormed) (k : String) :
    (u.updateStations sv summary).2.1.station? k =
      if k ∈ (RentalSource.stations u.source).map Station.id then
        last? Station.id k (RentalSource.stations u.source)
      else if k ∈ u.knownIds then none else sv.station? k := by
  rw [updateStations_eq]
  simp only
  rw [station?_removeStations (wellFormed_putStations hwf _), station?_putStations]
  by_cases hk : k ∈ (RentalSource.stations u.source).map Station.id
  · have hlast : last? Station.id k (RentalSource.stations u.source) ≠ none :=
      fun h => (last?_eq_none_iff.1 h) hk
    obtain ⟨st, hst⟩ := Option.ne_none_iff_exists'.1 hlast
    simp [mem_staleIds, hk, hst]
  · simp [mem_staleIds, hk, last?_eq_none_iff.2 hk]

theorem region?_updateStations (n : String) :
    (u.updateStations sv summary).2.1.region? n = sv.region? n := by
  rw [updateStations_eq]
  simp only
  rw [region?_removeStations, region?_putStations]

theorem wellFormed_updateStations (hwf : sv.WellFormed) :
    (u.updateStations sv summary).2.1.WellFormed :=
  wellFormed_removeStations (wellFormed_putStations hwf _) _

/-- The summary counts every station put, and the stale ids that were in the service. -/
theorem updateStations_summary (hwf : sv.WellFormed) (hnd : u.knownIds.Nodup) :
    let s := (u.updateStations sv summary).2.2
    s.added + s.replaced = (RentalSource.stations u.source).length ∧
      s.removed = (u.staleIds.filter fun k => (sv.station? k).isSome).length ∧
      s.regions = summary.regions ∧ s.removedRegions = summary.removedRegions := by
  rw [updateStations_eq]
  refine ⟨putStations_counts _ _, ?_, rfl, rfl⟩
  simp only
  rw [removeStations_count (wellFormed_putStations hwf _) (show u.staleIds.Nodup from hnd.filter _)]
  -- a stale id is not put, so it is there after the puts exactly when it was before
  congr 1
  refine List.filter_congr fun k hk => ?_
  rw [station?_putStations, last?_eq_none_iff.2 (mem_staleIds.1 hk).2, Option.none_or]

/-! ### Putting the regions of a source -/

theorem updateRegions_eq :
    u.updateRegions sv =
      let removal := removeRegions ((RentalSource.regions u.source).foldl Service.addRegion sv)
        u.staleNetworks
      ({ u with knownNetworks := nameSet ((RentalSource.regions u.source).map Region.network) },
        removal.1,
        { regions := (RentalSource.regions u.source).length, removedRegions := removal.2 }) := rfl

theorem region?_updateRegions (hwf : sv.WellFormed) (n : String) :
    (u.updateRegions sv).2.1.region? n =
      if n ∈ (RentalSource.regions u.source).map Region.network then
        last? Region.network n (RentalSource.regions u.source)
      else if n ∈ u.knownNetworks then none else sv.region? n := by
  rw [updateRegions_eq]
  simp only
  rw [region?_removeRegions (wellFormed_foldl_addRegion hwf _), region?_foldl_addRegion]
  by_cases hn : n ∈ (RentalSource.regions u.source).map Region.network
  · have hlast : last? Region.network n (RentalSource.regions u.source) ≠ none :=
      fun h => (last?_eq_none_iff.1 h) hn
    obtain ⟨r, hr⟩ := Option.ne_none_iff_exists'.1 hlast
    simp [mem_staleNetworks, hn, hr]
  · simp [mem_staleNetworks, hn, last?_eq_none_iff.2 hn]

theorem station?_updateRegions (k : String) :
    (u.updateRegions sv).2.1.station? k = sv.station? k := by
  rw [updateRegions_eq]
  simp only
  rw [station?_removeRegions, station?_foldl_addRegion]

theorem wellFormed_updateRegions (hwf : sv.WellFormed) : (u.updateRegions sv).2.1.WellFormed :=
  wellFormed_removeRegions (wellFormed_foldl_addRegion hwf _) _

theorem updateRegions_summary (hwf : sv.WellFormed) (hnd : u.knownNetworks.Nodup) :
    let s := (u.updateRegions sv).2.2
    s.regions = (RentalSource.regions u.source).length ∧
      s.removedRegions = (u.staleNetworks.filter fun n => (sv.region? n).isSome).length ∧
      s.added = 0 ∧ s.replaced = 0 ∧ s.removed = 0 := by
  rw [updateRegions_eq]
  refine ⟨rfl, ?_, rfl, rfl, rfl⟩
  simp only
  rw [removeRegions_count (wellFormed_foldl_addRegion hwf _)
    (show u.staleNetworks.Nodup from hnd.filter _)]
  congr 1
  refine List.filter_congr fun n hn => ?_
  rw [region?_foldl_addRegion, last?_eq_none_iff.2 (mem_staleNetworks.1 hn).2, Option.none_or]

@[simp] theorem updateStations_source : (u.updateStations sv summary).1.source = u.source := rfl

@[simp] theorem updateStations_knownIds :
    (u.updateStations sv summary).1.knownIds =
      nameSet ((RentalSource.stations u.source).map Station.id) := rfl

@[simp] theorem updateStations_knownNetworks :
    (u.updateStations sv summary).1.knownNetworks = u.knownNetworks := rfl

@[simp] theorem updateRegions_source : (u.updateRegions sv).1.source = u.source := rfl

@[simp] theorem updateRegions_knownIds : (u.updateRegions sv).1.knownIds = u.knownIds := rfl

@[simp] theorem updateRegions_knownNetworks :
    (u.updateRegions sv).1.knownNetworks =
      nameSet ((RentalSource.regions u.source).map Region.network) := rfl

@[simp] theorem staleIds_updateRegions : (u.updateRegions sv).1.staleIds = u.staleIds := rfl

/-! ### One update -/

section Update

variable {world : ε} {src : σ}

theorem runOnce_of_failure {e : RentalError}
    (h : RentalSource.refresh u.source world = (src, some e)) :
    u.runOnce world sv = ({ u with source := src }, sv, .error e) := by
  simp [runOnce, h]

/-- A refresh that succeeds puts the changed regions, then the changed stations. -/
theorem runOnce_of_success (h : RentalSource.refresh u.source world = (src, none)) :
    u.runOnce world sv =
      let u₁ : RentalUpdater σ := { u with source := src }
      let r := if RentalSource.regionsChanged src then u₁.updateRegions sv else (u₁, sv, {})
      let r := if RentalSource.stationsChanged src then r.1.updateStations r.2.1 r.2.2 else r
      (r.1, r.2.1, .ok r.2.2) := by
  simp only [runOnce, h]
  cases RentalSource.stationsChanged src <;> cases RentalSource.regionsChanged src <;> simp

/-- Every update leaves the source as its refresh left it. -/
theorem source_runOnce : (u.runOnce world sv).1.source = (RentalSource.refresh u.source world).1 := by
  rcases hsrc : RentalSource.refresh u.source world with ⟨src, _ | e⟩
  · rw [runOnce_of_success u hsrc]
    cases RentalSource.stationsChanged src <;> cases RentalSource.regionsChanged src <;> rfl
  · rw [runOnce_of_failure u hsrc]

/-- An update succeeds exactly when its refresh does. -/
theorem isOk_runOnce :
    (u.runOnce world sv).2.2.isOk = (RentalSource.refresh u.source world).2.isNone := by
  rcases hsrc : RentalSource.refresh u.source world with ⟨src, _ | e⟩
  · rw [runOnce_of_success u hsrc]
    cases RentalSource.stationsChanged src <;> cases RentalSource.regionsChanged src <;> rfl
  · rw [runOnce_of_failure u hsrc]
    rfl

theorem wellFormed_runOnce (hwf : sv.WellFormed) : (u.runOnce world sv).2.1.WellFormed := by
  rcases hsrc : RentalSource.refresh u.source world with ⟨src, _ | e⟩
  · rw [runOnce_of_success u hsrc]
    cases RentalSource.stationsChanged src <;> cases RentalSource.regionsChanged src <;>
      simp [wellFormed_updateStations, wellFormed_updateRegions, hwf]
  · rw [runOnce_of_failure u hsrc]
    exact hwf

/-- A failed update answers the error and changes nothing but the source. -/
theorem runOnce_of_failure_eq (sv : Service) (e : RentalError)
    (h : RentalSource.refresh u.source world = (src, some e)) :
    (u.runOnce world sv).1.knownIds = u.knownIds ∧
      (u.runOnce world sv).1.knownNetworks = u.knownNetworks ∧
      (u.runOnce world sv).2.1 = sv ∧ (u.runOnce world sv).2.2 = .error e := by
  simp [runOnce_of_failure u h]

variable (h : RentalSource.refresh u.source world = (src, none))
include h

/-- After an update that succeeds, the ids of changed stations hold their last station, the
stale ids nothing, and every other id what it held. -/
theorem station?_runOnce_of_success (hwf : sv.WellFormed) (k : String) :
    (u.runOnce world sv).2.1.station? k =
      if RentalSource.stationsChanged src then
        if k ∈ (RentalSource.stations src).map Station.id then
          last? Station.id k (RentalSource.stations src)
        else if k ∈ u.knownIds then none else sv.station? k
      else sv.station? k := by
  rw [runOnce_of_success u h]
  cases RentalSource.stationsChanged src <;> cases RentalSource.regionsChanged src <;>
    simp [station?_updateStations _ _ (wellFormed_updateRegions _ hwf), station?_updateStations _ _ hwf,
      station?_updateRegions]

theorem region?_runOnce_of_success (hwf : sv.WellFormed) (n : String) :
    (u.runOnce world sv).2.1.region? n =
      if RentalSource.regionsChanged src then
        if n ∈ (RentalSource.regions src).map Region.network then
          last? Region.network n (RentalSource.regions src)
        else if n ∈ u.knownNetworks then none else sv.region? n
      else sv.region? n := by
  rw [runOnce_of_success u h]
  cases RentalSource.stationsChanged src <;> cases RentalSource.regionsChanged src <;>
    simp [region?_updateStations, region?_updateRegions _ hwf]

theorem knownIds_runOnce_of_success :
    (u.runOnce world sv).1.knownIds =
      if RentalSource.stationsChanged src then nameSet ((RentalSource.stations src).map Station.id)
      else u.knownIds := by
  rw [runOnce_of_success u h]
  cases RentalSource.stationsChanged src <;> cases RentalSource.regionsChanged src <;> simp

theorem knownNetworks_runOnce_of_success :
    (u.runOnce world sv).1.knownNetworks =
      if RentalSource.regionsChanged src then nameSet ((RentalSource.regions src).map Region.network)
      else u.knownNetworks := by
  rw [runOnce_of_success u h]
  cases RentalSource.stationsChanged src <;> cases RentalSource.regionsChanged src <;> simp

/-- The summary of an update that succeeds counts the stations and regions it put and the
stale ones that were in the service. -/
theorem summary_runOnce_of_success (hwf : sv.WellFormed) (hids : u.knownIds.Nodup)
    (hnets : u.knownNetworks.Nodup) :
    ∃ s, (u.runOnce world sv).2.2 = .ok s ∧
      s.added + s.replaced =
        (if RentalSource.stationsChanged src then (RentalSource.stations src).length else 0) ∧
      s.removed = (if RentalSource.stationsChanged src then
        (({ u with source := src } : RentalUpdater σ).staleIds.filter
          fun k => (sv.station? k).isSome).length else 0) ∧
      s.regions =
        (if RentalSource.regionsChanged src then (RentalSource.regions src).length else 0) ∧
      s.removedRegions = (if RentalSource.regionsChanged src then
        (({ u with source := src } : RentalUpdater σ).staleNetworks.filter
          fun n => (sv.region? n).isSome).length else 0) := by
  rw [runOnce_of_success u h]
  cases hs : RentalSource.stationsChanged src <;> cases hr : RentalSource.regionsChanged src
  · exact ⟨{}, rfl, rfl, rfl, rfl, rfl⟩
  · obtain ⟨h1, h2, h3, h4, h5⟩ := updateRegions_summary { u with source := src } hwf hnets
    simp_all
  · obtain ⟨h1, h2, h3, h4⟩ := updateStations_summary { u with source := src } {} hwf hids
    simp_all
  · -- the stations are put after the regions, which leave every station as it was
    have hwf₁ := wellFormed_updateRegions { u with source := src } hwf
    obtain ⟨h1, h2, h3, h4, h5⟩ := updateRegions_summary { u with source := src } hwf hnets
    obtain ⟨g1, g2, g3, g4⟩ := updateStations_summary
      (({ u with source := src } : RentalUpdater σ).updateRegions sv).1
      (({ u with source := src } : RentalUpdater σ).updateRegions sv).2.2 hwf₁ hids
    simp only [station?_updateRegions, staleIds_updateRegions, updateRegions_source] at g1 g2 g3 g4
    simp_all

end Update

/-! ### One update, whether it succeeds or not -/

section Uniform

variable {world : ε}

/-- An update that succeeds ran a refresh that succeeded, into the source it keeps. -/
theorem refresh_of_isOk (hok : (u.runOnce world sv).2.2.isOk = true) :
    RentalSource.refresh u.source world = ((u.runOnce world sv).1.source, none) := by
  rw [isOk_runOnce, Option.isNone_iff_eq_none] at hok
  rw [source_runOnce]
  exact Prod.ext rfl hok

variable (world sv) in
/-- An update either succeeded, its refresh succeeding into the source it keeps, or failed
and changed neither the service nor what the updater knows. -/
theorem runOnce_succeeds_or_fails :
    let r := u.runOnce world sv
    (r.2.2.isOk = true ∧ RentalSource.refresh u.source world = (r.1.source, none)) ∨
      (r.2.2.isOk = false ∧ r.1.knownIds = u.knownIds ∧ r.1.knownNetworks = u.knownNetworks ∧
        r.2.1 = sv) := by
  intro r
  by_cases hok : r.2.2.isOk = true
  · exact .inl ⟨hok, refresh_of_isOk u hok⟩
  · -- an update fails only where its refresh fails
    rcases hrefresh : RentalSource.refresh u.source world with ⟨src, _ | e⟩
    · exact absurd ((isOk_runOnce u).trans (by rw [hrefresh]; rfl)) hok
    · obtain ⟨hids, hnets, hsv, -⟩ := runOnce_of_failure_eq u sv e hrefresh
      exact .inr ⟨Bool.eq_false_iff.2 hok, hids, hnets, hsv⟩

/-- What an update leaves at an id: where it succeeded with changed stations, the last
station reported under the id, or nothing at another id it knew; elsewhere what was there. -/
theorem station?_runOnce (hwf : sv.WellFormed) (k : String) :
    let r := u.runOnce world sv
    r.2.1.station? k =
      if (r.2.2.isOk && RentalSource.stationsChanged r.1.source) = true then
        if k ∈ (RentalSource.stations r.1.source).map Station.id then
          last? Station.id k (RentalSource.stations r.1.source)
        else if k ∈ u.knownIds then none else sv.station? k
      else sv.station? k := by
  dsimp only
  rcases runOnce_succeeds_or_fails sv u world with ⟨hok, hrefresh⟩ | ⟨hok, -, -, hsv⟩
  · rw [hok, Bool.true_and]
    exact station?_runOnce_of_success u hrefresh hwf k
  · rw [hok, Bool.false_and, if_neg Bool.false_ne_true]
    exact congrArg (·.station? k) hsv

theorem region?_runOnce (hwf : sv.WellFormed) (n : String) :
    let r := u.runOnce world sv
    r.2.1.region? n =
      if (r.2.2.isOk && RentalSource.regionsChanged r.1.source) = true then
        if n ∈ (RentalSource.regions r.1.source).map Region.network then
          last? Region.network n (RentalSource.regions r.1.source)
        else if n ∈ u.knownNetworks then none else sv.region? n
      else sv.region? n := by
  dsimp only
  rcases runOnce_succeeds_or_fails sv u world with ⟨hok, hrefresh⟩ | ⟨hok, -, -, hsv⟩
  · rw [hok, Bool.true_and]
    exact region?_runOnce_of_success u hrefresh hwf n
  · rw [hok, Bool.false_and, if_neg Bool.false_ne_true]
    exact congrArg (·.region? n) hsv

/-- After an update the updater knows the ids of the stations it put, when it put any. -/
theorem knownIds_runOnce :
    let r := u.runOnce world sv
    r.1.knownIds = if (r.2.2.isOk && RentalSource.stationsChanged r.1.source) = true then
      nameSet ((RentalSource.stations r.1.source).map Station.id) else u.knownIds := by
  dsimp only
  rcases runOnce_succeeds_or_fails sv u world with ⟨hok, hrefresh⟩ | ⟨hok, hids, -, -⟩
  · rw [hok, Bool.true_and]
    exact knownIds_runOnce_of_success u hrefresh
  · rw [hok, Bool.false_and, if_neg Bool.false_ne_true]
    exact hids

theorem knownNetworks_runOnce :
    let r := u.runOnce world sv
    r.1.knownNetworks = if (r.2.2.isOk && RentalSource.regionsChanged r.1.source) = true then
      nameSet ((RentalSource.regions r.1.source).map Region.network) else u.knownNetworks := by
  dsimp only
  rcases runOnce_succeeds_or_fails sv u world with ⟨hok, hrefresh⟩ | ⟨hok, -, hnets, -⟩
  · rw [hok, Bool.true_and]
    exact knownNetworks_runOnce_of_success u hrefresh
  · rw [hok, Bool.false_and, if_neg Bool.false_ne_true]
    exact hnets

end Uniform

end RentalUpdater

end RentalRouting
