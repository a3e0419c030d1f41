/-
RentalRouting/Proofs/StationListing.lean

What the `stations` command lists.  A source over a directory is made first: a blank network
or a missing directory is a configuration error.  It is then loaded into an empty service
by one update, which fails with the first error of its refresh; a fresh source has read no
station feeds, so a refresh that succeeds always reports its stations as changed, and the
service then holds, under each id, the last station the refresh read with that id.  The
answer lists, in strictly increasing id order, the summary of every such station that the
query accepts:

    sm ∈ answer  ↔  ∃ st, last? id st.id (refreshed stations) = some st ∧ Matches q st ∧
                    sm = st.summary q.locale

where a station matches when it is not a border drop-off, neither coordinate is zero, it lies
in the envelope (bounds included) and it belongs to the company's network or to every
network.
-/
import Mathlib
import RentalRouting.Cli.Run
import RentalRouting.Proofs.FeedMirror

namespace RentalRouting

/-! ### Membership in a sorted table -/

namespace Table

variable {α : Type} {key : α → String}

/-- In a table with strictly increasing keys, a value is there exactly when looking its key
up finds it. -/
theorem mem_iff_find?_of_sorted {t : List α} (ht : Sorted key t) (x : α) :
    x ∈ t ↔ find? key (key x) t = some x := by
  induction t with
  | nil => simp
  | cons b t ih =>
    have hb : ∀ y ∈ t, key b < key y := fun _ hy => List.rel_of_pairwise_cons ht hy
    rw [find?_cons, List.mem_cons, ih ht.of_cons]
    by_cases hkey : key b = key x
    · -- the head holds the key, so no later value does
      rw [if_pos hkey]
      constructor
      · rintro (rfl | hx)
        · rfl
        · exact absurd hkey (ne_of_lt (hb x (List.mem_of_find?_eq_some hx)))
      · rintro ⟨⟩
        exact .inl rfl
    · rw [if_neg hkey]
      constructor
      · rintro (rfl | hx)
        · exact absurd rfl hkey
        · exact hx
      · exact .inr

/-- Two tables with strictly increasing keys and the same values are equal. -/
theorem eq_of_sorted_of_mem_iff {t₁ t₂ : List α} (h₁ : Sorted key t₁) (h₂ : Sorted key t₂)
    (hmem : ∀ x, x ∈ t₁ ↔ x ∈ t₂) : t₁ = t₂ := by
  have hnodup : ∀ {t : List α}, Sorted key t → t.Nodup := fun ht =>
    ht.imp fun hlt => ne_of_apply_ne key (ne_of_lt hlt)
  -- no two values are in increasing key order both ways
  refine List.Perm.eq_of_pairwise (fun _ _ _ _ hab hba => absurd (hab.trans hba) (lt_irrefl _))
    h₁ h₂ ?_
  exact (List.perm_ext_iff_of_nodup (hnodup h₁) (hnodup h₂)).2 hmem

end Table

/-! ### The query filter -/

namespace Query

/-- A station answers a query when it is not a border drop-off, neither of its coordinates
is zero, it lies in the envelope with the bounds included, and the company is among its
networks unless one of the two is missing. -/
theorem accepts_iff (q : Query) (s : Station) :
    q.accepts s = true ↔ s.isBorderDropoff = false ∧ (s.x != 0) = true ∧ (s.y != 0) = true ∧
      (∀ e ∈ q.envelope, e.minX ≤ s.x ∧ s.x ≤ e.maxX ∧ e.minY ≤ s.y ∧ s.y ≤ e.maxY) ∧
      (∀ c ∈ q.company, ∀ names ∈ s.networks, c ∈ names) := by
  obtain ⟨envelope, company, locale⟩ := q
  unfold accepts
  split
  · next hinvalid =>
    -- a border drop-off or a zero coordinate is never listed
    simp only [Bool.false_eq_true, false_iff, not_and]
    intro hborder hx hy
    simp [Station.hasValidCoordinate, hborder, hx, hy] at hinvalid
  · next hvalid =>
    have hvalid' : s.isBorderDropoff = false ∧ (s.x != 0) = true ∧ (s.y != 0) = true := by
      simpa [Station.hasValidCoordinate] using hvalid
    simp only [hvalid', true_and]
    -- a missing envelope, company or network list lets every station through
    cases envelope <;> cases company <;> cases s.networks <;> simp [Envelope.contains, and_assoc]

end Query

/-! ### What a service answers -/

namespace Service

variable (sv : Service) (q : Query)

theorem mem_query (sm : Summary) :
    sm ∈ sv.query q ↔ ∃ st ∈ sv.stations, q.accepts st = true ∧ sm = st.summary q.locale := by
  simp only [query, List.mem_map, List.mem_filter]
  constructor
  · rintro ⟨st, ⟨hst, hacc⟩, rfl⟩
    exact ⟨st, hst, hacc, rfl⟩
  · rintro ⟨st, hst, hacc, rfl⟩
    exact ⟨st, ⟨hst, hacc⟩, rfl⟩

/-- A service answers in strictly increasing id order. -/
theorem pairwise_ids_query {sv : Service} (hwf : sv.WellFormed) :
    ((sv.query q).map Summary.id).Pairwise (· < ·) := by
  have hids : (sv.query q).map Summary.id = (sv.stations.filter q.accepts).map Station.id := by
    simp only [query, List.map_map]
    rfl
  rw [hids, List.pairwise_map]
  exact hwf.stations.filter _

/-- A station is in a well-formed service when it is what the service holds under its id. -/
theorem mem_stations_iff {sv : Service} (hwf : sv.WellFormed) (st : Station) :
    st ∈ sv.stations ↔ sv.station? st.id = some st :=
  Table.mem_iff_find?_of_sorted hwf.stations st

/-- A well-formed service answers a query with the one list, in strictly increasing id order,
of the summaries of the stations it holds that match. -/
theorem query_eq_iff {sv : Service} (hwf : sv.WellFormed) (summaries : List Summary) :
    sv.query q = summaries ↔ (summaries.map Summary.id).Pairwise (· < ·) ∧
      ∀ sm, sm ∈ summaries ↔ ∃ st ∈ sv.stations, q.accepts st = true ∧ sm = st.summary q.locale := by
  constructor
  · rintro rfl
    exact ⟨pairwise_ids_query q hwf, mem_query sv q⟩
  · rintro ⟨hsorted, hmem⟩
    have hsorted' : Table.Sorted Summary.id summaries := List.pairwise_map.1 hsorted
    refine Table.eq_of_sorted_of_mem_iff (List.pairwise_map.1 (pairwise_ids_query q hwf)) hsorted'
      fun sm => ?_
    rw [mem_query, hmem]

end Service

/-! ### A new source and its first refresh -/

namespace Source

/-- Refreshing the region keeps the stations and whether they changed. -/
theorem refreshRegions_stations (s : Source) (files : Folder) :
    (s.refreshRegions files).1.stations = s.stations ∧
      (s.refreshRegions files).1.stationsChanged = s.stationsChanged := by
  unfold refreshRegions
  split
  · exact ⟨rfl, rfl⟩
  · dsimp only
    split
    · exact ⟨rfl, rfl⟩
    · split
      · exact ⟨rfl, rfl⟩
      · split <;> exact ⟨rfl, rfl⟩

/-- A refresh that succeeds read the station feeds; when they differ from the last ones
read, or none were read before, the stations are those of the feeds and have changed. -/
theorem refresh_of_success {s src : Source} {files : Folder}
    (h : s.refresh files = (src, none)) (hfresh : s.stationsVersion = none) :
    ∃ f, s.readStationFeeds files = .ok f ∧ src.stations = s.stationsOf f ∧
      src.stationsChanged = true := by
  unfold refresh at h
  -- the stations are read first; a failure there would be the answer
  rcases hread : s.readStationFeeds files with e | f
  · have : s.refreshStations files = (s, some e) := by
      simp only [refreshStations, hread]
    rw [this] at h
    cases h
  · have hstations : s.refreshStations files =
        ({ s with
            stationsChanged := true
            stations := s.stationsOf f
            stationsVersion := some f.versions }, none) := by
      simp only [refreshStations, hread, hfresh, reduceCtorEq, if_false]
    rw [hstations] at h
    dsimp only at h
    obtain ⟨hkeep, hchanged⟩ := refreshRegions_stations
      { s with
        stationsChanged := true
        stations := s.stationsOf f
        stationsVersion := some f.versions } files
    rw [h] at hkeep hchanged
    exact ⟨f, rfl, hkeep, hchanged⟩

/-- Every station of a source belongs to the source's network alone. -/
theorem networks_of_mem_stationsOf (s : Source) (f : StationFeeds) {st : Station}
    (hst : st ∈ s.stationsOf f) : st.networks = some [s.network] := by
  unfold stationsOf at hst
  rcases List.mem_append.1 hst with hdocked | hfloating
  · -- a docked station is built from its information and its status
    split at hdocked
    · obtain ⟨r, -, hr⟩ := List.mem_filterMap.1 hdocked
      obtain ⟨status, -, rfl⟩ := Option.map_eq_some_iff.1 hr
      rfl
    · cases hdocked
  · cases hbikes : f.freeBikes with
    | none => simp [hbikes] at hfloating
    | some feed =>
      simp only [hbikes, Option.map_some, Option.getD_some, floating, List.mem_map] at hfloating
      obtain ⟨b, -, rfl⟩ := hfloating
      rfl

end Source

/-! ### Loading a source and answering a query -/

section Load

variable {source src : Source} {files : Folder} (q : Query)

theorem loadAndQuery_of_failure {e : RentalError} (h : source.refresh files = (src, some e)) :
    loadAndQuery source files q = .error e := by
  have h' : RentalSource.refresh source files = (src, some e) := h
  simp [loadAndQuery, RentalUpdater.runOnce_of_failure ({ source := source } : Updater) h',
    Except.map]

/-- Loading a fresh source whose refresh succeeds answers the query over a service holding,
under each id, the last station the refresh read with that id. -/
theorem loadAndQuery_of_success (h : source.refresh files = (src, none))
    (hfresh : source.stationsVersion = none) :
    ∃ sv : Service, sv.WellFormed ∧ (∀ k, sv.station? k = Table.last? Station.id k src.stations) ∧
      loadAndQuery source files q = .ok (sv.query q) := by
  have h' : RentalSource.refresh source files = (src, none) := h
  obtain ⟨-, -, -, hchanged⟩ := Source.refresh_of_success h hfresh
  let u : Updater := { source := source }
  obtain ⟨summary, hok, -⟩ :=
    RentalUpdater.summary_runOnce_of_success u h' Service.wellFormed_empty
      List.nodup_nil List.nodup_nil
  refine ⟨(u.runOnce files {}).2.1, RentalUpdater.wellFormed_runOnce u Service.wellFormed_empty,
    fun k => ?_, ?_⟩
  · -- the updater knew no station before, and the empty service held none
    rw [RentalUpdater.station?_runOnce_of_success u h' Service.wellFormed_empty k]
    simpa [hchanged, u, Service.station?] using Table.last?_replace [] src.stations k
  · show (u.runOnce files {}).2.2.map (fun _ => (u.runOnce files {}).2.1.query q) = _
    rw [hok]
    rfl

/-- Loading a fresh source whose refresh succeeds answers, in strictly increasing id order,
the summary of each station that is last under its id among those the refresh read and that
matches the query. -/
theorem loadAndQuery_eq_ok_iff (h : source.refresh files = (src, none))
    (hfresh : source.stationsVersion = none) (summaries : List Summary) :
    loadAndQuery source files q = .ok summaries ↔ (summaries.map Summary.id).Pairwise (· < ·) ∧
      ∀ sm, sm ∈ summaries ↔ ∃ st, Table.last? Station.id st.id src.stations = some st ∧
        q.accepts st = true ∧ sm = st.summary q.locale := by
  obtain ⟨sv, hwf, hsv, hload⟩ := loadAndQuery_of_success q h hfresh
  rw [hload, Except.ok.injEq, Service.query_eq_iff q hwf]
  -- the service holds a station exactly where it is the last of its id
  simp only [Service.mem_stations_iff hwf, hsv]

end Load

/-- The `stations` command over a network, a directory that may or may not exist and its
files: a blank network and then a missing directory are configuration errors, and otherwise
the first error of the source's refresh is the answer.  When there is none, the refresh read
the station feeds, docked stations first and free bikes after them, and the answer is the
summary of each station that is last under its id among those and matches the query, each
once, in strictly increasing id order, with its name resolved for the query's locale and the
source's network as its only network. -/
theorem stations_command_lists_matching (network directory : String) (kind : VehicleKind)
    (directoryExists : Bool) (files : Folder) (q : Query) :
    let source : Source := { network := network, directory := directory, kind := kind }
    let result := Source.create network directory kind directoryExists >>= fun s =>
      loadAndQuery s files q
    (∀ e, result = .error e ↔
      ((Text.trim network).isEmpty = true ∧
        e = .configuration "network name must not be empty") ∨
      ((Text.trim network).isEmpty = false ∧ directoryExists = false ∧
        e = .configuration ("GBFS directory " ++ directory ++ " does not exist")) ∨
      ((Text.trim network).isEmpty = false ∧ directoryExists = true ∧
        (source.refresh files).2 = some e)) ∧
    (∀ src, source.refresh files = (src, none) →
      ∃ f, source.readStationFeeds files = .ok f ∧ src.stations = source.stationsOf f) ∧
    ∀ summaries, result = .ok summaries ↔
      (Text.trim network).isEmpty = false ∧ directoryExists = true ∧
      (source.refresh files).2 = none ∧
      (summaries.map Summary.id).Pairwise (· < ·) ∧
      (∀ sm, sm ∈ summaries ↔ ∃ st,
        Table.last? Station.id st.id (source.refresh files).1.stations = some st ∧
        st.isBorderDropoff = false ∧ (st.x != 0) = true ∧ (st.y != 0) = true ∧
        (∀ e ∈ q.envelope, e.minX ≤ st.x ∧ st.x ≤ e.maxX ∧ e.minY ≤ st.y ∧ st.y ≤ e.maxY) ∧
        (∀ c ∈ q.company, ∀ names ∈ st.networks, c ∈ names) ∧
        sm = st.summary q.locale) ∧
      ∀ sm ∈ summaries, sm.networks = some [network] := by
  intro source result
  have hstations : ∀ src, source.refresh files = (src, none) →
      ∃ f, source.readStationFeeds files = .ok f ∧ src.stations = source.stationsOf f :=
    fun src h => (Source.refresh_of_success h rfl).imp fun _ ⟨hf, hst, _⟩ => ⟨hf, hst⟩
  cases hblank : (Text.trim network).isEmpty
  case true =>
    -- a blank network is refused before the directory is looked at
    have hr : result = .error (.configuration "network name must not be empty") := by
      simp [result, Source.create, hblank, bind, Except.bind]
    exact ⟨fun e => by simp [hr, eq_comm], hstations, fun summaries => by simp [hr]⟩
  case false =>
  cases hdir : directoryExists
  case false =>
    have hr : result = .error (.configuration ("GBFS directory " ++ directory ++ " does not exist")) := by
      simp [result, Source.create, hblank, hdir, bind, Except.bind]
    exact ⟨fun e => by simp [hr, eq_comm], hstations, fun summaries => by simp [hr]⟩
  case true =>
  have hr : result = loadAndQuery source files q := by
    simp [result, Source.create, hblank, hdir, bind, Except.bind, source]
  rcases hrefresh : source.refresh files with ⟨src, _ | e'⟩
  case some =>
    -- the refresh failed: its error is the answer
    have hload := loadAndQuery_of_failure q hrefresh
    exact ⟨fun e => by simp [hr, hload, eq_comm], fun s h => hstations s (hrefresh.trans h),
      fun summaries => by simp [hr, hload]⟩
  case none =>
  refine ⟨fun e => ?_, fun s h => hstations s (hrefresh.trans h), fun summaries => ?_⟩
  · obtain ⟨sv, -, -, hload⟩ := loadAndQuery_of_success q hrefresh rfl
    simp [hr, hload]
  · rw [hr, loadAndQuery_eq_ok_iff q hrefresh rfl]
    simp only [Query.accepts_iff, and_assoc, true_and]
    constructor
    · rintro ⟨hsorted, hmem⟩
      refine ⟨hsorted, hmem, fun sm hsm => ?_⟩
      -- what is listed was read from the source's feeds, which name its network alone
      obtain ⟨st, hlast, -, -, -, -, -, rfl⟩ := (hmem sm).1 hsm
      obtain ⟨f, -, hread⟩ := hstations src hrefresh
      have hst : st ∈ src.stations := List.mem_reverse.1 (List.mem_of_find?_eq_some hlast)
      rw [hread] at hst
      exact Source.networks_of_mem_stationsOf source f hst
    · rintro ⟨hsorted, hmem, -⟩
      exact ⟨hsorted, hmem⟩

/-- A directory with a docked station `a` and a free bike `a`. -/
def dockedAndFreeBikeFolder : Folder :=
  [("station_information.json",
      .file "\x7b\"data\":\x7b\"stations\":[\x7b\"lat\":45,\"lon\":-122,\"name\":\"A\",\"station_id\":\"a\"\x7d]\x7d,\"last_updated\":1\x7d"),
   ("station_status.json",
      .file "\x7b\"data\":\x7b\"stations\":[\x7b\"num_bikes_available\":3,\"station_id\":\"a\"\x7d]\x7d,\"last_updated\":1\x7d"),
   ("free_bike_status.json",
      .file "\x7b\"data\":\x7b\"bikes\":[\x7b\"bike_id\":\"a\",\"lat\":46,\"lon\":-123\x7d]\x7d,\"last_updated\":1\x7d")]

/-- Listing that directory answers the free bike alone, under the network of the source. -/
theorem free_bike_replaces_docked_station :
    ∃ summaries, (Source.create "LIME" "<dir>" .bicycle true >>= fun s =>
        loadAndQuery s dockedAndFreeBikeFolder {}) = .ok summaries ∧
      summaries.map (·.isFloating) = [true] ∧ ∀ sm ∈ summaries, sm.networks = some ["LIME"] := by
  have hfloating : (Source.create "LIME" "<dir>" .bicycle true >>= fun s =>
      loadAndQuery s dockedAndFreeBikeFolder {}).map (·.map (·.isFloating)) = .ok [true] := by
    decide +kernel
  cases h : (Source.create "LIME" "<dir>" .bicycle true >>= fun s =>
      loadAndQuery s dockedAndFreeBikeFolder {}) with
  | error e => rw [h] at hfloating; cases hfloating
  | ok summaries =>
    rw [h] at hfloating
    have hlisted := ((stations_command_lists_matching "LIME" "<dir>" .bicycle true
      dockedAndFreeBikeFolder {}).2.2 summaries).1 h
    exact ⟨summaries, rfl, Except.ok.inj hfloating, hlisted.2.2.2.2.2⟩

end RentalRouting
