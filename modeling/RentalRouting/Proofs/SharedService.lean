/-
RentalRouting/Proofs/SharedService.lean

Several updaters sharing one service, with other writers beside them.  Each updater owns a
domain of station ids and a domain of region networks, the domains of different updaters
are disjoint, each source reports only stations and regions of its own updater's domains,
and the other writers write only outside every domain.  Then, in any order of updates and
writes (`Shared.run`):

* each updater's domains hold exactly the stations and regions it last put there, the last
  of each id or network winning (`Shared.Owns`);
* everything outside the domains is what the other writers alone would have made it;
* an update changes the service only at the ids its source reports and the ids it last put
  there, and its summary counts every station put and every stale id that was in the
  service (`Shared.UpdateRules`).

An updater needs no knowledge of the others: it removes only ids it knows, and it knows
exactly the ids of the stations it last put (`Owns.knownIds`).
-/
import RentalRouting.Proofs.Updater

namespace RentalRouting

open Table

/-- What happens to a shared service: an update by one updater, refreshing from the world its
source reads, or a write by someone else. -/
inductive SharedEvent (ι : Type) (ε : ι → Type) where
  | update (i : ι) (world : ε i)
  | addStation (st : Station)
  | removeStation (id : String)
  | addRegion (r : Region)
  | removeRegion (network : String)

namespace SharedEvent

variable {ι : Type} {ε : ι → Type}

/-- What the event writes when someone other than an updater writes; an update writes
nothing here. -/
def write : SharedEvent ι ε → Service → Service
  | .update .., sv => sv
  | .addStation st, sv => (sv.addStation st).1
  | .removeStation id, sv => (sv.removeStation id).1
  | .addRegion r, sv => sv.addRegion r
  | .removeRegion network, sv => (sv.removeRegion network).1

/-- The service that the other writers alone make of `sv`. -/
def writeAll (sv : Service) (events : List (SharedEvent ι ε)) : Service :=
  events.foldl (fun sv e => e.write sv) sv

theorem wellFormed_write {sv : Service} (hwf : sv.WellFormed) (e : SharedEvent ι ε) :
    (e.write sv).WellFormed := by
  cases e with
  | update => exact hwf
  | addStation st => exact hwf.addStation st
  | removeStation id => exact hwf.removeStation id
  | addRegion r => exact hwf.addRegion r
  | removeRegion network => exact hwf.removeRegion network

end SharedEvent

/-- Updaters sharing a service, with the stations and regions each last put there. -/
structure Shared {ι : Type} (σ : ι → Type) where
  updaters : (i : ι) → RentalUpdater (σ i)
  service : Service
  /-- The stations of the last update of each updater that succeeded with changed stations. -/
  appliedStations : ι → List Station
  /-- The regions of the last update of each updater that succeeded with changed regions. -/
  appliedRegions : ι → List Region

namespace Shared

variable {ι : Type} {σ ε : ι → Type} [∀ i, RentalSource (σ i) (ε i)]

/-- New updaters of the sources over an empty service. -/
def start (sources : (i : ι) → σ i) : Shared σ :=
  ⟨fun i => { source := sources i }, {}, fun _ => [], fun _ => []⟩

/-! ### Domains -/

variable (ids networks : ι → String → Prop)

/-- Each updater's domains hold exactly what it last put there, it knows the ids and networks
of that, and outside the domains the service is `others`. -/
structure Owns (others : Service) (w : Shared σ) : Prop where
  wellFormed : w.service.WellFormed
  othersWellFormed : others.WellFormed
  knownIds : ∀ i, (w.updaters i).knownIds = nameSet ((w.appliedStations i).map Station.id)
  knownNetworks : ∀ i,
    (w.updaters i).knownNetworks = nameSet ((w.appliedRegions i).map Region.network)
  appliedIds : ∀ i, ∀ st ∈ w.appliedStations i, ids i st.id
  appliedNetworks : ∀ i, ∀ r ∈ w.appliedRegions i, networks i r.network
  stations : ∀ i k, ids i k → w.service.station? k = last? Station.id k (w.appliedStations i)
  regions : ∀ i n, networks i n →
    w.service.region? n = last? Region.network n (w.appliedRegions i)
  otherStations : ∀ k, (∀ i, ¬ ids i k) → w.service.station? k = others.station? k
  otherRegions : ∀ n, (∀ i, ¬ networks i n) → w.service.region? n = others.region? n

/-- The ids that an update finds stale: those of the stations `old` that `new` lacks, each
once. -/
def staleIds (old new : List Station) : List String :=
  (nameSet (old.map Station.id)).filter fun k => !(new.map Station.id).contains k

/-- The networks that an update finds stale. -/
def staleNetworks (old new : List Region) : List String :=
  (nameSet (old.map Region.network)).filter fun n => !(new.map Region.network).contains n

/-- What an update of `i` does from `w`: it changes the service only at the ids and networks
its source reports and those `i` last put there, it removes only ids and networks it put
there last time that the source no longer reports, and its summary counts the stations and
regions it put and the stale ids and networks that were in the service. -/
structure UpdateRules (w : Shared σ) (i : ι) (world : ε i) : Prop where
  stations : ∀ k,
    k ∉ (RentalSource.stations ((w.updaters i).runOnce world w.service).1.source).map Station.id →
      k ∉ (w.appliedStations i).map Station.id →
        ((w.updaters i).runOnce world w.service).2.1.station? k = w.service.station? k
  removesStations : ∀ k, ((w.updaters i).runOnce world w.service).2.1.station? k = none →
    w.service.station? k ≠ none →
      k ∈ (w.appliedStations i).map Station.id ∧
        k ∉ (RentalSource.stations ((w.updaters i).runOnce world w.service).1.source).map
          Station.id
  regions : ∀ n,
    n ∉ (RentalSource.regions ((w.updaters i).runOnce world w.service).1.source).map
        Region.network →
      n ∉ (w.appliedRegions i).map Region.network →
        ((w.updaters i).runOnce world w.service).2.1.region? n = w.service.region? n
  removesRegions : ∀ n, ((w.updaters i).runOnce world w.service).2.1.region? n = none →
    w.service.region? n ≠ none →
      n ∈ (w.appliedRegions i).map Region.network ∧
        n ∉ (RentalSource.regions ((w.updaters i).runOnce world w.service).1.source).map
          Region.network
  summary : ∀ s, ((w.updaters i).runOnce world w.service).2.2 = .ok s →
    let src := ((w.updaters i).runOnce world w.service).1.source
    s.added + s.replaced =
        (if RentalSource.stationsChanged src then (RentalSource.stations src).length else 0) ∧
      s.removed = (if RentalSource.stationsChanged src then
        ((staleIds (w.appliedStations i) (RentalSource.stations src)).filter
          fun k => (w.service.station? k).isSome).length else 0) ∧
      s.regions =
        (if RentalSource.regionsChanged src then (RentalSource.regions src).length else 0) ∧
      s.removedRegions = (if RentalSource.regionsChanged src then
        ((staleNetworks (w.appliedRegions i) (RentalSource.regions src)).filter
          fun n => (w.service.region? n).isSome).length else 0)

variable {ids networks}

theorem owns_start (sources : (i : ι) → σ i) :
    (start sources : Shared σ).Owns ids networks {} where
  wellFormed := Service.wellFormed_empty
  othersWellFormed := Service.wellFormed_empty
  knownIds _ := rfl
  knownNetworks _ := rfl
  appliedIds _ _ h := absurd h List.not_mem_nil
  appliedNetworks _ _ h := absurd h List.not_mem_nil
  stations _ _ _ := rfl
  regions _ _ _ := rfl
  otherStations _ _ := rfl
  otherRegions _ _ := rfl

/-! ### One update -/

section Update

variable {others : Service} {w : Shared σ} (hown : w.Owns ids networks others) (i : ι)
  (world : ε i)
include hown

theorem Owns.staleIds_eq (src : σ i) :
    ({ w.updaters i with source := src } : RentalUpdater (σ i)).staleIds =
      staleIds (w.appliedStations i) (RentalSource.stations src) := by
  simp only [RentalUpdater.staleIds, staleIds, hown.knownIds i]
  refine List.filter_congr fun k _ => ?_
  simp

theorem Owns.staleNetworks_eq (src : σ i) :
    ({ w.updaters i with source := src } : RentalUpdater (σ i)).staleNetworks =
      staleNetworks (w.appliedRegions i) (RentalSource.regions src) := by
  simp only [RentalUpdater.staleNetworks, staleNetworks, hown.knownNetworks i]
  refine List.filter_congr fun n _ => ?_
  simp

/-- What an update leaves at an id: where it put stations and the id is reported now or was
put there last time, the last station reported under it; elsewhere what was there. -/
theorem Owns.station?_runOnce (k : String) :
    let r := (w.updaters i).runOnce world w.service
    r.2.1.station? k =
      if (r.2.2.isOk && RentalSource.stationsChanged r.1.source) = true ∧
          (k ∈ (RentalSource.stations r.1.source).map Station.id ∨
            k ∈ (w.appliedStations i).map Station.id)
      then last? Station.id k (RentalSource.stations r.1.source)
      else w.service.station? k := by
  dsimp only
  refine (RentalUpdater.station?_runOnce _ hown.wellFormed k).trans ?_
  generalize (w.updaters i).runOnce world w.service = r
  rw [hown.knownIds i]
  by_cases hB : k ∈ (RentalSource.stations r.1.source).map Station.id
  · simp [hB]
  · -- a stale id was put last time and is not reported now, so it reads as not there
    simp [hB, last?_eq_none_iff.2 hB, ite_and]

/-- What an update leaves at a network, as for stations. -/
theorem Owns.region?_runOnce (n : String) :
    let r := (w.updaters i).runOnce world w.service
    r.2.1.region? n =
      if (r.2.2.isOk && RentalSource.regionsChanged r.1.source) = true ∧
          (n ∈ (RentalSource.regions r.1.source).map Region.network ∨
            n ∈ (w.appliedRegions i).map Region.network)
      then last? Region.network n (RentalSource.regions r.1.source)
      else w.service.region? n := by
  dsimp only
  refine (RentalUpdater.region?_runOnce _ hown.wellFormed n).trans ?_
  generalize (w.updaters i).runOnce world w.service = r
  rw [hown.knownNetworks i]
  by_cases hB : n ∈ (RentalSource.regions r.1.source).map Region.network
  · simp [hB]
  · simp [hB, last?_eq_none_iff.2 hB, ite_and]

/-- After an update the updater knows the ids of what it put there last: the source's
stations when the update put them, else the ones before. -/
theorem Owns.knownIds_runOnce :
    let r := (w.updaters i).runOnce world w.service
    r.1.knownIds = nameSet ((if (r.2.2.isOk && RentalSource.stationsChanged r.1.source) = true
      then RentalSource.stations r.1.source else w.appliedStations i).map Station.id) := by
  dsimp only
  refine (RentalUpdater.knownIds_runOnce _).trans ?_
  generalize (w.updaters i).runOnce world w.service = r
  rw [hown.knownIds i]
  split <;> rfl

theorem Owns.knownNetworks_runOnce :
    let r := (w.updaters i).runOnce world w.service
    r.1.knownNetworks = nameSet ((if (r.2.2.isOk && RentalSource.regionsChanged r.1.source) = true
      then RentalSource.regions r.1.source else w.appliedRegions i).map Region.network) := by
  dsimp only
  refine (RentalUpdater.knownNetworks_runOnce _).trans ?_
  generalize (w.updaters i).runOnce world w.service = r
  rw [hown.knownNetworks i]
  split <;> rfl

/-- An update keeps to its rules. -/
theorem Owns.updateRules : w.UpdateRules i world := by
  have hst := hown.station?_runOnce i world
  have hrg := hown.region?_runOnce i world
  refine ⟨fun k hB hA => ?_, fun k hafter hbefore => ?_, fun n hB hA => ?_,
    fun n hafter hbefore => ?_, fun s hs => ?_⟩
  · rw [hst k]
    simp [hB, hA]
  · -- an id reported now holds a station afterwards, and any other id that was not put
    -- there last time holds what it held
    have hB : k ∉ (RentalSource.stations ((w.updaters i).runOnce world w.service).1.source).map
        Station.id := by
      intro hB
      rw [hst k] at hafter
      split at hafter
      · exact (last?_eq_none_iff.1 hafter) hB
      · exact hbefore hafter
    refine ⟨by_contra fun hA => hbefore ?_, hB⟩
    rw [← hafter, hst k]
    simp [hB, hA]
  · rw [hrg n]
    simp [hB, hA]
  · have hB : n ∉ (RentalSource.regions ((w.updaters i).runOnce world w.service).1.source).map
        Region.network := by
      intro hB
      rw [hrg n] at hafter
      split at hafter
      · exact (last?_eq_none_iff.1 hafter) hB
      · exact hbefore hafter
    refine ⟨by_contra fun hA => hbefore ?_, hB⟩
    rw [← hafter, hrg n]
    simp [hB, hA]
  · -- the counts of the summary, with the stale ids read off what was applied
    rcases RentalUpdater.runOnce_succeeds_or_fails w.service (w.updaters i) world with
      ⟨-, hrefresh⟩ | ⟨hok, -⟩
    · obtain ⟨s', hs', hcounts⟩ := RentalUpdater.summary_runOnce_of_success _ hrefresh
        hown.wellFormed (hown.knownIds i ▸ nodup_nameSet _)
        (hown.knownNetworks i ▸ nodup_nameSet _)
      rw [hs] at hs'
      cases hs'
      simpa only [hown.staleIds_eq i, hown.staleNetworks_eq i] using hcounts
    · rw [hs] at hok
      cases hok

end Update

/-! ### Events that keep to the domains -/

variable (ids networks)

/-- An event keeps to the domains: an update whose refresh succeeds reports changed stations
and regions of its updater's domains, and another writer writes outside every domain. -/
def InDomain (w : Shared σ) : SharedEvent ι ε → Prop
  | .update i world =>
    (RentalSource.refresh (w.updaters i).source world).2 = none →
      (RentalSource.stationsChanged (RentalSource.refresh (w.updaters i).source world).1 = true →
        ∀ st ∈ RentalSource.stations (RentalSource.refresh (w.updaters i).source world).1,
          ids i st.id) ∧
      (RentalSource.regionsChanged (RentalSource.refresh (w.updaters i).source world).1 = true →
        ∀ r ∈ RentalSource.regions (RentalSource.refresh (w.updaters i).source world).1,
          networks i r.network)
  | .addStation st => ∀ i, ¬ ids i st.id
  | .removeStation id => ∀ i, ¬ ids i id
  | .addRegion r => ∀ i, ¬ networks i r.network
  | .removeRegion network => ∀ i, ¬ networks i network

variable {ids networks}

/-! ### Writes by others -/

section Write

variable {w : Shared σ} {e : SharedEvent ι ε} {sv : Service}

/-- A write that keeps to the domains leaves every id of a domain as it was. -/
theorem InDomain.station?_write (hin : w.InDomain ids networks e) (hwf : sv.WellFormed)
    {j : ι} {k : String} (hk : ids j k) : (e.write sv).station? k = sv.station? k := by
  cases e with
  | update => rfl
  | addStation st => simp [SharedEvent.write, show st.id ≠ k from fun h => hin j (h ▸ hk)]
  | removeStation id => simp [SharedEvent.write, hwf, show id ≠ k from fun h => hin j (h ▸ hk)]
  | addRegion => simp [SharedEvent.write]
  | removeRegion => simp [SharedEvent.write]

theorem InDomain.region?_write (hin : w.InDomain ids networks e) (hwf : sv.WellFormed)
    {j : ι} {n : String} (hn : networks j n) : (e.write sv).region? n = sv.region? n := by
  cases e with
  | update => rfl
  | addStation => simp [SharedEvent.write]
  | removeStation => simp [SharedEvent.write]
  | addRegion r => simp [SharedEvent.write, show r.network ≠ n from fun h => hin j (h ▸ hn)]
  | removeRegion network =>
    simp [SharedEvent.write, hwf, show network ≠ n from fun h => hin j (h ▸ hn)]

/-- A write changes what an id holds in the same way whatever else the service holds. -/
theorem station?_write_congr (e : SharedEvent ι ε) {sv' : Service} (hwf : sv.WellFormed)
    (hwf' : sv'.WellFormed) {k : String} (h : sv.station? k = sv'.station? k) :
    (e.write sv).station? k = (e.write sv').station? k := by
  cases e <;> simp [SharedEvent.write, hwf, hwf', h]

theorem region?_write_congr (e : SharedEvent ι ε) {sv' : Service} (hwf : sv.WellFormed)
    (hwf' : sv'.WellFormed) {n : String} (h : sv.region? n = sv'.region? n) :
    (e.write sv).region? n = (e.write sv').region? n := by
  cases e <;> simp [SharedEvent.write, hwf, hwf', h]

variable {others : Service}

/-- A write by someone else that keeps to the domains leaves every updater's domains and
ledger alone and writes outside them what it writes to `others`. -/
theorem Owns.write (hown : w.Owns ids networks others) (hin : w.InDomain ids networks e) :
    ({ w with service := e.write w.service } : Shared σ).Owns ids networks (e.write others) where
  wellFormed := SharedEvent.wellFormed_write hown.wellFormed e
  othersWellFormed := SharedEvent.wellFormed_write hown.othersWellFormed e
  knownIds := hown.knownIds
  knownNetworks := hown.knownNetworks
  appliedIds := hown.appliedIds
  appliedNetworks := hown.appliedNetworks
  stations j k hk := (hin.station?_write hown.wellFormed hk).trans (hown.stations j k hk)
  regions j n hn := (hin.region?_write hown.wellFormed hn).trans (hown.regions j n hn)
  otherStations k hk :=
    station?_write_congr e hown.wellFormed hown.othersWellFormed (hown.otherStations k hk)
  otherRegions n hn :=
    region?_write_congr e hown.wellFormed hown.othersWellFormed (hown.otherRegions n hn)

end Write

/-! ### Updates -/

section Domain

variable {others : Service} {w : Shared σ} {i : ι} {world : ε i}

/-- What a successful update that changes stations reports lies in its updater's domain. -/
theorem InDomain.stations_runOnce (hin : w.InDomain ids networks (.update i world)) :
    let r := (w.updaters i).runOnce world w.service
    (r.2.2.isOk && RentalSource.stationsChanged r.1.source) = true →
      ∀ st ∈ RentalSource.stations r.1.source, ids i st.id := by
  intro r hc
  rw [Bool.and_eq_true] at hc
  have hr := RentalUpdater.refresh_of_isOk _ hc.1
  have h := hin (by rw [hr])
  rw [hr] at h
  exact h.1 hc.2

theorem InDomain.regions_runOnce (hin : w.InDomain ids networks (.update i world)) :
    let r := (w.updaters i).runOnce world w.service
    (r.2.2.isOk && RentalSource.regionsChanged r.1.source) = true →
      ∀ g ∈ RentalSource.regions r.1.source, networks i g.network := by
  intro r hc
  rw [Bool.and_eq_true] at hc
  have hr := RentalUpdater.refresh_of_isOk _ hc.1
  have h := hin (by rw [hr])
  rw [hr] at h
  exact h.2 hc.2

/-- An update touches no id outside its updater's domain. -/
theorem Owns.untouched_station (hown : w.Owns ids networks others)
    (hin : w.InDomain ids networks (.update i world)) {k : String} (hk : ¬ ids i k) :
    let r := (w.updaters i).runOnce world w.service
    ¬ ((r.2.2.isOk && RentalSource.stationsChanged r.1.source) = true ∧
      (k ∈ (RentalSource.stations r.1.source).map Station.id ∨
        k ∈ (w.appliedStations i).map Station.id)) := by
  rintro r ⟨hc, hB | hA⟩
  · obtain ⟨st, hst, rfl⟩ := List.mem_map.1 hB
    exact hk (hin.stations_runOnce hc st hst)
  · obtain ⟨st, hst, rfl⟩ := List.mem_map.1 hA
    exact hk (hown.appliedIds i st hst)

theorem Owns.untouched_region (hown : w.Owns ids networks others)
    (hin : w.InDomain ids networks (.update i world)) {n : String} (hn : ¬ networks i n) :
    let r := (w.updaters i).runOnce world w.service
    ¬ ((r.2.2.isOk && RentalSource.regionsChanged r.1.source) = true ∧
      (n ∈ (RentalSource.regions r.1.source).map Region.network ∨
        n ∈ (w.appliedRegions i).map Region.network)) := by
  rintro r ⟨hc, hB | hA⟩
  · obtain ⟨g, hg, rfl⟩ := List.mem_map.1 hB
    exact hn (hin.regions_runOnce hc g hg)
  · obtain ⟨g, hg, rfl⟩ := List.mem_map.1 hA
    exact hn (hown.appliedNetworks i g hg)

end Domain

/-! ### Runs -/

section Run

variable [DecidableEq ι]

/-- Let one event happen. -/
def step (w : Shared σ) : SharedEvent ι ε → Shared σ
  | .update i world =>
    let r := (w.updaters i).runOnce world w.service
    { updaters := Function.update w.updaters i r.1
      service := r.2.1
      appliedStations :=
        if (r.2.2.isOk && RentalSource.stationsChanged r.1.source) = true then
          Function.update w.appliedStations i (RentalSource.stations r.1.source)
        else w.appliedStations
      appliedRegions :=
        if (r.2.2.isOk && RentalSource.regionsChanged r.1.source) = true then
          Function.update w.appliedRegions i (RentalSource.regions r.1.source)
        else w.appliedRegions }
  | e => { w with service := e.write w.service }

/-- Let events happen in order. -/
def run (w : Shared σ) (events : List (SharedEvent ι ε)) : Shared σ := events.foldl step w

variable (ids networks) in
/-- Every event of a run keeps to the domains, each at the point where it happens. -/
def InDomains : Shared σ → List (SharedEvent ι ε) → Prop
  | _, [] => True
  | w, e :: rest => w.InDomain ids networks e ∧ InDomains (w.step e) rest

variable {others : Service} {w : Shared σ}

/-- An update keeps every updater's domains holding what it last put there, and leaves the
service outside the domains alone. -/
theorem Owns.step_update (hids : ∀ i j k, ids i k → ids j k → i = j)
    (hnets : ∀ i j n, networks i n → networks j n → i = j)
    (hown : w.Owns ids networks others) {i : ι} {world : ε i}
    (hin : w.InDomain ids networks (.update i world)) :
    (w.step (.update i world)).Owns ids networks others := by
  have hst := hown.station?_runOnce i world
  have hrg := hown.region?_runOnce i world
  have hkn := hown.knownIds_runOnce i world
  have hkr := hown.knownNetworks_runOnce i world
  have hnewIds := hin.stations_runOnce
  have hnewNets := hin.regions_runOnce
  have hut : ∀ k, ¬ ids i k → _ := fun _ hk => hown.untouched_station hin hk
  have hur : ∀ n, ¬ networks i n → _ := fun _ hn => hown.untouched_region hin hn
  have hwf : ((w.updaters i).runOnce world w.service).2.1.WellFormed :=
    RentalUpdater.wellFormed_runOnce _ hown.wellFormed
  simp only [step]
  generalize (w.updaters i).runOnce world w.service = r at *
  dsimp only at *
  -- what the update did, abstracted: whether it put stations and regions, and which
  generalize (r.2.2.isOk && RentalSource.stationsChanged r.1.source) = cs at hst hkn hnewIds hut ⊢
  generalize (r.2.2.isOk && RentalSource.regionsChanged r.1.source) = cr at hrg hkr hnewNets hur ⊢
  generalize RentalSource.stations r.1.source = B at hst hkn hnewIds hut ⊢
  generalize RentalSource.regions r.1.source = G at hrg hkr hnewNets hur ⊢
  obtain ⟨u', sv', res⟩ := r
  dsimp only at hst hrg hkn hkr hwf ⊢
  refine ⟨hwf, hown.othersWellFormed, fun j => ?_, fun j => ?_, fun j => ?_, fun j => ?_,
    fun j k hk => ?_, fun j n hn => ?_, fun k hk => ?_, fun n hn => ?_⟩
  · by_cases hj : j = i
    · subst hj
      cases cs <;> simp [hkn]
    · cases cs <;> simp [Function.update_of_ne hj, hown.knownIds j]
  · by_cases hj : j = i
    · subst hj
      cases cr <;> simp [hkr]
    · cases cr <;> simp [Function.update_of_ne hj, hown.knownNetworks j]
  · by_cases hj : j = i
    · subst hj
      cases cs
      · simpa using hown.appliedIds j
      · simpa using hnewIds rfl
    · cases cs <;> simpa [Function.update_of_ne hj] using hown.appliedIds j
  · by_cases hj : j = i
    · subst hj
      cases cr
      · simpa using hown.appliedNetworks j
      · simpa using hnewNets rfl
    · cases cr <;> simpa [Function.update_of_ne hj] using hown.appliedNetworks j
  · rw [hst k]
    by_cases hj : j = i
    · subst hj
      cases cs
      · simpa using hown.stations j k hk
      · -- an id the update put neither now nor last time held nothing and holds nothing
        simp only [true_and, if_true, Function.update_self]
        by_cases h : k ∈ B.map Station.id ∨ k ∈ (w.appliedStations j).map Station.id
        · rw [if_pos h]
        · obtain ⟨hB, hA⟩ := not_or.1 h
          rw [if_neg h, hown.stations j k hk, last?_eq_none_iff.2 hB, last?_eq_none_iff.2 hA]
    · have hki : ¬ ids i k := fun hki => hj (hids j i k hk hki)
      rw [if_neg (hut k hki)]
      cases cs <;> simpa [Function.update_of_ne hj] using hown.stations j k hk
  · rw [hrg n]
    by_cases hj : j = i
    · subst hj
      cases cr
      · simpa using hown.regions j n hn
      · simp only [true_and, if_true, Function.update_self]
        by_cases h : n ∈ G.map Region.network ∨ n ∈ (w.appliedRegions j).map Region.network
        · rw [if_pos h]
        · obtain ⟨hB, hA⟩ := not_or.1 h
          rw [if_neg h, hown.regions j n hn, last?_eq_none_iff.2 hB, last?_eq_none_iff.2 hA]
    · have hni : ¬ networks i n := fun hni => hj (hnets j i n hn hni)
      rw [if_neg (hur n hni)]
      cases cr <;> simpa [Function.update_of_ne hj] using hown.regions j n hn
  · rw [hst k, if_neg (hut k (hk i))]
    exact hown.otherStations k hk
  · rw [hrg n, if_neg (hur n (hn i))]
    exact hown.otherRegions n hn

/-- Every event that keeps to the domains keeps each updater's domains holding what it last
put there, and writes outside them what it writes to `others`. -/
theorem Owns.step (hids : ∀ i j k, ids i k → ids j k → i = j)
    (hnets : ∀ i j n, networks i n → networks j n → i = j)
    (hown : w.Owns ids networks others) {e : SharedEvent ι ε} (hin : w.InDomain ids networks e) :
    (w.step e).Owns ids networks (e.write others) := by
  cases e with
  | update => exact hown.step_update hids hnets hin
  | addStation => exact hown.write hin
  | removeStation => exact hown.write hin
  | addRegion => exact hown.write hin
  | removeRegion => exact hown.write hin

/-- A run of events that keep to the domains: by induction on the events, each step keeping
`Owns` with the other writers' service advanced by the same write. -/
theorem Owns.run (hids : ∀ i j k, ids i k → ids j k → i = j)
    (hnets : ∀ i j n, networks i n → networks j n → i = j)
    (hown : w.Owns ids networks others) (events : List (SharedEvent ι ε))
    (hin : w.InDomains ids networks events) :
    (w.run events).Owns ids networks (SharedEvent.writeAll others events) := by
  induction events generalizing w others with
  | nil => exact hown
  | cons e rest ih => exact ih (hown.step hids hnets hin.1) hin.2

/-- Updaters sharing one service, started over an empty service, through any interleaving of
updates and other writes in which the updaters' domains of ids and of networks are pairwise
disjoint, every successful update reports only its own domains, and the other writers write
outside every domain.  After the run each updater's domains hold the last of the stations and
regions it last put there, everything outside the domains is what the other writers alone
make of an empty service, and the next update of any updater, whatever its source then reads,
touches only the ids its source reports and those it put there last, removes only those of
the latter its source no longer reports, and sums up what it put and removed. -/
theorem shared_service_updates (hids : ∀ i j k, ids i k → ids j k → i = j)
    (hnets : ∀ i j n, networks i n → networks j n → i = j) (sources : (i : ι) → σ i)
    (events : List (SharedEvent ι ε)) (hin : (start sources).InDomains ids networks events) :
    let w := (start sources).run events
    w.Owns ids networks (SharedEvent.writeAll {} events) ∧ ∀ i world, w.UpdateRules i world := by
  intro w
  have hown : w.Owns ids networks (SharedEvent.writeAll {} events) :=
    (owns_start sources).run hids hnets events hin
  exact ⟨hown, fun i world => hown.updateRules i world⟩

/-- A directory with one docked station. -/
def oneStationFolder (id : String) : Folder :=
  [("station_information.json", .file ("\x7b\"data\":\x7b\"stations\":[\x7b\"lat\":45,\"lon\":-122,\"name\":\"S\",\"station_id\":\"" ++ id ++ "\"\x7d]\x7d,\"last_updated\":1\x7d")),
   ("station_status.json", .file ("\x7b\"data\":\x7b\"stations\":[\x7b\"num_bikes_available\":3,\"station_id\":\"" ++ id ++ "\"\x7d]\x7d,\"last_updated\":1\x7d"))]

/-- Two GBFS networks sharing a service, `LIME` with station `a` and `ZIP` with station `b`,
and a station `c` added by someone else between their updates. -/
theorem shared_service_two_networks :
    let sources : Bool → Source := fun b =>
      if b then { network := "LIME", directory := "lime", kind := .bicycle }
      else { network := "ZIP", directory := "zip", kind := .scooter }
    let events : List (SharedEvent Bool fun _ => Folder) :=
      [.update true (oneStationFolder "a"), .addStation ⟨"c", ⟨"C", []⟩, 1, 1, true, true, none,
        none, none, false, .unknown, false⟩, .update false (oneStationFolder "b")]
    let ids : Bool → String → Prop := fun b k => k = if b then "a" else "b"
    let networks : Bool → String → Prop := fun b n => n = if b then "LIME" else "ZIP"
    let w := (start sources).run events
    w.Owns ids networks (SharedEvent.writeAll {} events) ∧ ∀ i world, w.UpdateRules i world := by
  intro sources events ids networks
  refine shared_service_updates (fun i j k hi hj => ?_) (fun i j n hi hj => ?_) sources events ?_
  · cases i <;> cases j <;> simp_all [ids]
  · cases i <;> cases j <;> simp_all [networks]
  · simp only [events, InDomains, InDomain]
    decide +kernel

end Run

end Shared

end RentalRouting
