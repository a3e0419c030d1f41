/-
RentalRouting/Proofs/FeedMirror.lean

What a service kept by one updater of a GBFS directory holds, whatever the directory holds
from one update to the next.  Its regions are always the source's: a refresh changes the
source's region only when it reads new zones and builds them, and then the update succeeds
and puts them.  Its stations are those of the last update that succeeded with changed
station feeds (`appliedStations`):

    station? k = last? k (appliedStations updates)      region? n = last? n source.regions

The source's own stations may be newer.  A refresh stores the stations of changed station
feeds before it reads the zones; when the zones then fail, the update fails and puts
nothing, and the next refresh finds the station feeds unchanged and does not report them
again (`zones_failure_loses_stations`).
-/
import RentalRouting.Proofs.Updater

namespace RentalRouting

open Table

/-! ### What a refresh does to the region -/

namespace Source

theorem refreshStations_regions (s : Source) (files : Folder) :
    (s.refreshStations files).1.regions = s.regions := by
  unfold refreshStations
  split
  · rfl
  · dsimp only
    split <;> rfl

/-- Reading the zones changes the region only when they are new and build. -/
theorem refreshRegions_regions (s : Source) (files : Folder) :
    (s.refreshRegions files).1.regions = s.regions ∨
      ((s.refreshRegions files).2 = none ∧ (s.refreshRegions files).1.regionsChanged = true) := by
  unfold refreshRegions
  split
  · exact .inl rfl
  · dsimp only
    split
    · exact .inl rfl
    · split
      · exact .inr ⟨rfl, rfl⟩
      · split
        · exact .inr ⟨rfl, rfl⟩
        · exact .inl rfl

/-- A refresh keeps the region unless it succeeds and reports the region changed. -/
theorem refresh_regions (s : Source) (files : Folder) :
    (s.refresh files).1.regions = s.regions ∨
      ((s.refresh files).2 = none ∧ (s.refresh files).1.regionsChanged = true) := by
  unfold refresh
  rcases h : s.refreshStations files with ⟨s', _ | e⟩
  · have hs : s'.regions = s.regions := by rw [← refreshStations_regions s files, h]
    rcases refreshRegions_regions s' files with h' | h'
    · exact .inl (h'.trans hs)
    · exact .inr h'
  · exact .inl (by simpa [h] using refreshStations_regions s files)

/-! The GBFS source read as a rental source. -/

@[simp] theorem rentalSource_refresh (s : Source) (files : Folder) :
    RentalSource.refresh s files = s.refresh files := rfl

@[simp] theorem rentalSource_stationsChanged (s : Source) :
    RentalSource.stationsChanged s = s.stationsChanged := rfl

@[simp] theorem rentalSource_regionsChanged (s : Source) :
    RentalSource.regionsChanged s = s.regionsChanged := rfl

@[simp] theorem rentalSource_stations (s : Source) : RentalSource.stations s = s.stations := rfl

@[simp] theorem rentalSource_regions (s : Source) : RentalSource.regions s = s.regions := rfl

end Source

/-! ### Updates one after another -/

namespace RentalUpdater

variable {σ ε : Type} [RentalSource σ ε]

/-- Updates one after another, each refreshing from the world of its time: the updater, the
service and the answer after each. -/
def updates (u : RentalUpdater σ) (sv : Service) :
    List ε → List (RentalUpdater σ × Service × Except RentalError UpdateSummary)
  | [] => []
  | world :: rest =>
    let r := u.runOnce world sv
    r :: updates r.1 r.2.1 rest

/-- The stations that the last of some updates to succeed with changed stations put in the
service; `applied` when none did. -/
def appliedStations (applied : List Station) :
    List (RentalUpdater σ × Service × Except RentalError UpdateSummary) → List Station
  | [] => applied
  | r :: rest =>
    appliedStations
      (if r.2.2.isOk && RentalSource.stationsChanged r.1.source then RentalSource.stations r.1.source
        else applied) rest

end RentalUpdater

/-! ### One update of a GBFS source -/

/-- The service holds what the updater last put there, the stations `applied` and the
region of its source, and the updater knows their ids and networks. -/
structure Mirrors (u : Updater) (sv : Service) (applied : List Station) : Prop where
  wellFormed : sv.WellFormed
  knownIds : u.knownIds = nameSet (applied.map Station.id)
  knownNetworks : u.knownNetworks = nameSet (u.source.regions.map Region.network)
  stations : ∀ k, sv.station? k = last? Station.id k applied
  regions : ∀ n, sv.region? n = last? Region.network n u.source.regions

theorem Mirrors.runOnce {u : Updater} {sv : Service} {applied : List Station}
    (hm : Mirrors u sv applied) (files : Folder) :
    let r := u.runOnce files sv
    Mirrors r.1 r.2.1
      (if r.2.2.isOk && r.1.source.stationsChanged then r.1.source.stations else applied) := by
  intro r
  have hsrc : r.1.source = (u.source.refresh files).1 := RentalUpdater.source_runOnce u
  rcases hrefresh : u.source.refresh files with ⟨src, _ | e⟩
  · -- the refresh succeeded: what changed is put in the service
    have h : RentalSource.refresh u.source files = (src, none) := hrefresh
    have hsrc' : r.1.source = src := by rw [hsrc, hrefresh]
    obtain ⟨s, hs, -⟩ := RentalUpdater.summary_runOnce_of_success u h hm.wellFormed
      (hm.knownIds ▸ nodup_nameSet _) (hm.knownNetworks ▸ nodup_nameSet _)
    have hok : r.2.2.isOk = true := by simp [r, hs, Except.isOk, Except.toBool]
    -- a region that did not change is the region before
    have hregions : src.regionsChanged = false → src.regions = u.source.regions := by
      intro hc
      rcases Source.refresh_regions u.source files with h' | h'
      · rw [← h', hrefresh]
      · rw [hrefresh] at h'
        exact absurd h'.2 (by simp [hc])
    refine ⟨RentalUpdater.wellFormed_runOnce u hm.wellFormed, ?_, ?_, fun k => ?_, fun n => ?_⟩
    · rw [RentalUpdater.knownIds_runOnce_of_success u h, hok, hsrc', hm.knownIds]
      cases hc : src.stationsChanged <;> simp [hc]
    · rw [RentalUpdater.knownNetworks_runOnce_of_success u h, hsrc', hm.knownNetworks]
      cases hc : src.regionsChanged
      · simp [hc, hregions hc]
      · simp [hc]
    · rw [RentalUpdater.station?_runOnce_of_success u h hm.wellFormed, hok, hsrc', hm.knownIds]
      cases hc : src.stationsChanged
      · simp [hc, hm.stations]
      · simpa [hc, hm.stations] using last?_replace applied src.stations k
    · rw [RentalUpdater.region?_runOnce_of_success u h hm.wellFormed, hsrc', hm.knownNetworks]
      cases hc : src.regionsChanged
      · simp [hc, hm.regions, hregions hc]
      · simpa [hc, hm.regions] using last?_replace u.source.regions src.regions n
  · -- the refresh failed: the service is as it was, and so is the source's region
    have h : RentalSource.refresh u.source files = (src, some e) := hrefresh
    obtain ⟨hids, hnets, hsv, herr⟩ := RentalUpdater.runOnce_of_failure_eq u sv e h
    have hok : r.2.2.isOk = false := by simp [r, herr, Except.isOk, Except.toBool]
    have hregions : r.1.source.regions = u.source.regions := by
      rcases Source.refresh_regions u.source files with h' | h'
      · rw [hsrc, h']
      · rw [hrefresh] at h'
        exact absurd h'.1 (by simp)
    refine ⟨hsv ▸ hm.wellFormed, ?_, ?_, fun k => ?_, fun n => ?_⟩
    · rw [hok, Bool.false_and, if_neg Bool.false_ne_true]
      exact hids.trans hm.knownIds
    · rw [hnets, hregions, hm.knownNetworks]
    · rw [hok, Bool.false_and, if_neg Bool.false_ne_true, ← hm.stations k]
      exact congrArg (·.station? k) hsv
    · rw [hsv, hregions, hm.regions]

/-! ### Any sequence of updates -/

theorem Mirrors.updates {u : Updater} {sv : Service} {applied : List Station}
    (hm : Mirrors u sv applied) (folders : List Folder) :
    ∀ r ∈ (u.updates sv folders).getLast?,
      Mirrors r.1 r.2.1 (RentalUpdater.appliedStations applied (u.updates sv folders)) := by
  induction folders generalizing u sv applied with
  | nil => simp [RentalUpdater.updates]
  | cons files rest ih =>
    intro r hr
    have hstep := hm.runOnce files
    cases rest with
    | nil =>
      simp only [RentalUpdater.updates, List.getLast?_singleton, Option.mem_def,
        Option.some.injEq] at hr
      subst hr
      exact hstep
    | cons files' rest' =>
      simp only [RentalUpdater.updates] at hr ⊢
      rw [List.getLast?_cons_cons] at hr
      exact ih hstep r hr

/-- A service kept by one updater of a GBFS directory, from an empty service and a new
source, whatever the directory holds at each update: after every update the service's
region of each network is the source's, and the service's station of each id is the last
station of that id among those of the last update that succeeded with changed stations. -/
theorem feed_service_holds_last_applied (network directory : String) (kind : VehicleKind)
    (folders : List Folder) :
    let updates := ({ source := { network, directory, kind } } : Updater).updates {} folders
    ∀ r ∈ updates.getLast?,
      (∀ n, r.2.1.region? n = last? Region.network n r.1.source.regions) ∧
        ∀ k, r.2.1.station? k = last? Station.id k (RentalUpdater.appliedStations [] updates) := by
  intro updates r hr
  have hstart : Mirrors { source := { network, directory, kind } } {} [] :=
    ⟨Service.wellFormed_empty, rfl, rfl, fun _ => rfl, fun _ => rfl⟩
  have hm := hstart.updates folders r hr
  exact ⟨hm.regions, hm.stations⟩

/-! ### A refresh that fails at the zones -/

/-- One docked station `a` in a directory whose zones file is a directory. -/
def zonesFailureFolder : Folder :=
  [("station_information.json",
      .file "\x7b\"data\":\x7b\"stations\":[\x7b\"lat\":45,\"lon\":-122,\"name\":\"A\",\"station_id\":\"a\"\x7d]\x7d,\"last_updated\":1\x7d"),
   ("station_status.json",
      .file "\x7b\"data\":\x7b\"stations\":[\x7b\"num_bikes_available\":3,\"station_id\":\"a\"\x7d]\x7d,\"last_updated\":1\x7d"),
   ("geofencing_zones.json", .folder)]

/-- The station of a refresh that failed at the zones is never put in the service: the
update after it, once the zones are gone, succeeds, and the service still has no station
`a` while the source reports it. -/
theorem zones_failure_loses_stations :
    let updates := ({ source := { network := "LIME", directory := "<dir>", kind := .bicycle } } :
      Updater).updates {} [zonesFailureFolder, zonesFailureFolder.take 2]
    updates.map (·.2.2.isOk) = [false, true] ∧
      updates.map (fun r => (r.2.1.station? "a").isNone) = [true, true] ∧
      updates.map (fun r => r.1.source.stations.map Station.id) = [["a"], ["a"]] := by
  decide +kernel

/-- After the two updates of `zones_failure_loses_stations`, the service holds the region
of the source, none, and the stations of the last update that put any, none either. -/
theorem zones_failure_service_holds_nothing :
    let updates := ({ source := { network := "LIME", directory := "<dir>", kind := .bicycle } } :
      Updater).updates {} [zonesFailureFolder, zonesFailureFolder.take 2]
    ∃ r ∈ updates.getLast?,
      (∀ n, r.2.1.region? n = last? Region.network n r.1.source.regions) ∧
        ∀ k, r.2.1.station? k = last? Station.id k (RentalUpdater.appliedStations [] updates) := by
  intro updates
  obtain ⟨r, hr⟩ := Option.isSome_iff_exists.1 (show updates.getLast?.isSome = true by decide +kernel)
  exact ⟨r, hr, feed_service_holds_last_applied "LIME" "<dir>" .bicycle _ r hr⟩

end RentalRouting
