/-
RentalRouting/Proofs/StationFeeds.lean

What a refresh of the stations reads from a directory.  A feed file is absent, a folder (an
input/output error), a text that does not decode (a JSON error) or a feed.  The three
station feeds are read in the order information, status, free bikes, and the first that
fails is the error; when all three read, station information without station status, or
neither station information nor free bikes, is a configuration error.  A refresh that fails
leaves the source as it was.  One that reads the feeds stores their versions, reports the
stations changed exactly when these differ from the versions of the feeds read last over
the refreshes before it (`Source.lastLoaded`), and then holds

    docked ++ floating

where `docked` has one station per information record whose id has a status record, in
file order, with the counts and flags of the last status record of that id, and `floating`
one per free bike that is neither reserved nor disabled (`station_refresh_follows_feeds`).
-/
import Mathlib
import RentalRouting.Feed.Source

namespace RentalRouting

open Json

namespace Source

variable {α : Type}

/-! ### One feed file -/

/-- A feed file reads as `feed`: it is absent and `feed` is none, or it is a text that
decodes to `feed`. -/
def FeedReads (files : Folder) (name : String) (r : Reader (Feed α)) (feed : Option (Feed α)) :
    Prop :=
  (files.lookup name = none ∧ feed = none) ∨
    ∃ text f, files.lookup name = some (.file text) ∧ readText r text.toUTF8 = .ok f ∧
      feed = some f

/-- A feed file fails to read with `e`: a folder is an input/output error, and a text that
does not decode is a JSON error that says where and why. -/
def FeedFault (directory : String) (files : Folder) (name : String) (r : Reader (Feed α))
    (e : RentalError) : Prop :=
  (files.lookup name = some .folder ∧
      e = .io (joinPath directory name) "Is a directory (os error 21)") ∨
    ∃ text err, files.lookup name = some (.file text) ∧ readText r text.toUTF8 = .error err ∧
      e = .json (joinPath directory name) (err.render text.toUTF8)

theorem readFeedFile_eq_ok_iff (directory : String) (files : Folder) (name : String)
    (r : Reader (Feed α)) (feed : Option (Feed α)) :
    readFeedFile directory files name r = .ok feed ↔ FeedReads files name r feed := by
  unfold readFeedFile FeedReads
  rcases hentry : files.lookup name with _ | (text | _)
  · simp [eq_comm]
  · rcases hread : readText r text.toByteArray with err | f <;> simp [hread, eq_comm]
  · simp

theorem readFeedFile_eq_error_iff (directory : String) (files : Folder) (name : String)
    (r : Reader (Feed α)) (e : RentalError) :
    readFeedFile directory files name r = .error e ↔ FeedFault directory files name r e := by
  unfold readFeedFile FeedFault
  rcases hentry : files.lookup name with _ | (text | _)
  · simp
  · rcases hread : readText r text.toByteArray with err | f <;> simp [hread, eq_comm]
  · simp [eq_comm]

/-! ### The three station feeds -/

/-- The station feeds a directory holds: each of the three files reads, station information
comes with station status, and station information or free bikes is there. -/
structure StationFeedsRead (files : Folder) (f : StationFeeds) : Prop where
  information : FeedReads files "station_information.json" StationInfo.readFeed f.information
  status : FeedReads files "station_status.json" StationStatus.readFeed f.status
  freeBikes : FeedReads files "free_bike_status.json" FreeBike.readFeed f.freeBikes
  status_of_information : f.information.isSome → f.status.isSome
  information_or_freeBikes : f.information.isSome ∨ f.freeBikes.isSome

/-- Why the station feeds of a directory fail to read: the first of station information,
station status and free bikes that fails, or, when all three read, station information
without station status, or neither station information nor free bikes. -/
def StationFeedsFault (s : Source) (files : Folder) (e : RentalError) : Prop :=
  FeedFault s.directory files "station_information.json" StationInfo.readFeed e ∨
  (∃ i, FeedReads files "station_information.json" StationInfo.readFeed i ∧
    FeedFault s.directory files "station_status.json" StationStatus.readFeed e) ∨
  (∃ i st, FeedReads files "station_information.json" StationInfo.readFeed i ∧
    FeedReads files "station_status.json" StationStatus.readFeed st ∧
    FeedFault s.directory files "free_bike_status.json" FreeBike.readFeed e) ∨
  ∃ i st fb, FeedReads files "station_information.json" StationInfo.readFeed i ∧
    FeedReads files "station_status.json" StationStatus.readFeed st ∧
    FeedReads files "free_bike_status.json" FreeBike.readFeed fb ∧
    ((i.isSome ∧ st = none ∧ e = .configuration
        (s.directory ++ " has station_information.json but no station_status.json")) ∨
      (i = none ∧ fb = none ∧ e = .configuration
        (s.directory ++ " has neither station_information.json nor free_bike_status.json")))

theorem stationFeedsRead_iff (directory : String) (files : Folder) (f : StationFeeds) :
    StationFeedsRead files f ↔
      readFeedFile directory files "station_information.json" StationInfo.readFeed =
          .ok f.information ∧
        readFeedFile directory files "station_status.json" StationStatus.readFeed = .ok f.status ∧
        readFeedFile directory files "free_bike_status.json" FreeBike.readFeed = .ok f.freeBikes ∧
        (f.information.isSome → f.status.isSome) ∧ (f.information.isSome ∨ f.freeBikes.isSome) := by
  simp only [readFeedFile_eq_ok_iff]
  exact ⟨fun h => ⟨h.1, h.2, h.3, h.4, h.5⟩, fun ⟨hi, hst, hfb, hpair, hsome⟩ =>
    ⟨hi, hst, hfb, hpair, hsome⟩⟩

theorem readStationFeeds_eq_ok_iff (s : Source) (files : Folder) (f : StationFeeds) :
    s.readStationFeeds files = .ok f ↔ StationFeedsRead files f := by
  rw [stationFeedsRead_iff s.directory]
  unfold readStationFeeds
  rcases hi : readFeedFile s.directory files "station_information.json" StationInfo.readFeed with
    ei | i
  · simp [bind, Except.bind]
  rcases hst : readFeedFile s.directory files "station_status.json" StationStatus.readFeed with
    est | st
  · simp [bind, Except.bind]
  rcases hfb : readFeedFile s.directory files "free_bike_status.json" FreeBike.readFeed with
    efb | fb
  · simp [bind, Except.bind]
  obtain ⟨i', st', fb'⟩ := f
  -- all three read: the result is these feeds unless a configuration check refuses them
  cases i <;> cases st <;> cases fb <;>
    simp [bind, Except.bind, throw, throwThe, MonadExceptOf.throw, pure, Except.pure] <;>
    rintro rfl rfl rfl <;> simp

theorem readStationFeeds_eq_error_iff (s : Source) (files : Folder) (e : RentalError) :
    s.readStationFeeds files = .error e ↔ StationFeedsFault s files e := by
  unfold readStationFeeds StationFeedsFault
  simp only [← readFeedFile_eq_ok_iff s.directory, ← readFeedFile_eq_error_iff s.directory]
  rcases hi : readFeedFile s.directory files "station_information.json" StationInfo.readFeed with
    ei | i
  · simp [bind, Except.bind]
  rcases hst : readFeedFile s.directory files "station_status.json" StationStatus.readFeed with
    est | st
  · simp [bind, Except.bind]
  rcases hfb : readFeedFile s.directory files "free_bike_status.json" FreeBike.readFeed with
    efb | fb
  · simp [bind, Except.bind]
  -- all three read: the two configuration checks decide
  cases i <;> cases st <;> cases fb <;>
    simp [bind, Except.bind, throw, throwThe, MonadExceptOf.throw, pure, Except.pure] <;>
    exact eq_comm

/-! ### The stations of the feeds -/

/-- `last` is the last status record of `id` among `status`. -/
def IsLastStatus (status : List StationStatus) (id : String) (last : StationStatus) : Prop :=
  ∃ pre post, status = pre ++ last :: post ∧ last.id = id ∧ ∀ x ∈ post, x.id ≠ id

theorem isLastStatus_of_find? {status : List StationStatus} {id : String} {last : StationStatus}
    (h : status.reverse.find? (·.id = id) = some last) : IsLastStatus status id last := by
  obtain ⟨hid, pre, post, hsplit, hbefore⟩ := List.find?_eq_some_iff_append.1 h
  refine ⟨post.reverse, pre.reverse, ?_, by simpa using hid, fun x hx => ?_⟩
  · simpa using congrArg List.reverse hsplit
  · simpa using hbefore x (List.mem_reverse.1 hx)

theorem find?_reverse_eq_none_iff {status : List StationStatus} {id : String} :
    status.reverse.find? (·.id = id) = none ↔ status.any (·.id == id) = false := by
  simp [List.find?_eq_none]

/-- The docked stations of information and status records: one for each information record
whose id has a status record, in file order, with the counts and flags of the last status
record of that id. -/
def DockedStations (s : Source) (info : List StationInfo) (status : List StationStatus)
    (stations : List Station) : Prop :=
  List.Forall₂ (fun r st => ∃ last, IsLastStatus status r.id last ∧ st =
      { id := r.id, name := ⟨r.name, []⟩, x := r.lon, y := r.lat,
        networks := some [s.network], kind := s.kind,
        allowPickup := last.isRenting, allowDropoff := last.isReturning,
        vehiclesAvailable := some last.bikesAvailable, spacesAvailable := last.docksAvailable,
        isFloating := false, isBorderDropoff := false })
    (info.filter fun r => status.any (·.id == r.id)) stations

/-- The floating stations of free bikes: one for each bike that is neither reserved nor
disabled, in file order, offering that one vehicle for pick-up and taking no drop-off. -/
def FloatingStations (s : Source) (bikes : List FreeBike) (stations : List Station) : Prop :=
  List.Forall₂ (fun b st => st =
      { id := b.id, name := ⟨b.id, []⟩, x := b.lon, y := b.lat,
        networks := some [s.network], kind := s.kind,
        allowPickup := true, allowDropoff := false,
        vehiclesAvailable := some 1, spacesAvailable := some 0,
        isFloating := true, isBorderDropoff := false })
    (bikes.filter fun b => !b.isReserved && !b.isDisabled) stations

theorem dockedStations_docked (s : Source) (info : List StationInfo)
    (status : List StationStatus) : DockedStations s info status (s.docked info status) := by
  unfold DockedStations
  induction info with
  | nil => exact List.Forall₂.nil
  | cons r rest ih =>
    rcases hfind : status.reverse.find? (·.id = r.id) with _ | last
    · -- no status record: the information record makes no station
      have hany := find?_reverse_eq_none_iff.1 hfind
      simpa [docked, List.filter_cons, hfind, hany] using ih
    · have hany : status.any (·.id == r.id) = true := by
        cases h : status.any (·.id == r.id)
        · rw [← find?_reverse_eq_none_iff] at h
          rw [h] at hfind
          cases hfind
        · rfl
      simp only [docked, List.filterMap_cons, hfind, List.filter_cons, hany, Option.map_some]
      exact .cons ⟨last, isLastStatus_of_find? hfind, rfl⟩ ih

theorem floatingStations_floating (s : Source) (bikes : List FreeBike) :
    FloatingStations s bikes (s.floating bikes) := by
  unfold FloatingStations floating
  rw [List.forall₂_map_right_iff]
  exact List.forall₂_same.2 fun _ _ => rfl

/-- The stations of feeds that read: the docked stations of the information and status
records, then the floating stations of the free bikes. -/
theorem stationsOf_eq (s : Source) {f : StationFeeds}
    (hpair : f.information.isSome → f.status.isSome) :
    ∃ docked floating, s.stationsOf f = docked ++ floating ∧
      DockedStations s ((f.information.map (·.data)).getD []) ((f.status.map (·.data)).getD [])
        docked ∧
      FloatingStations s ((f.freeBikes.map (·.data)).getD []) floating := by
  obtain ⟨i, st, fb⟩ := f
  refine ⟨_, _, rfl, ?_, ?_⟩
  · cases i with
    | none => simp [DockedStations]
    | some i =>
      -- station information always comes with station status
      obtain ⟨st, rfl⟩ := Option.isSome_iff_exists.1 (hpair rfl)
      exact dockedStations_docked s i.data st.data
  · cases fb with
    | none => simp [FloatingStations]
    | some fb => exact floatingStations_floating s fb.data

/-! ### One refresh of the stations -/

/-- A refresh of the stations fails exactly when the station feeds fail to read. -/
theorem refreshStations_snd_eq_some_iff (s : Source) (files : Folder) (e : RentalError) :
    (s.refreshStations files).2 = some e ↔ StationFeedsFault s files e := by
  rw [← readStationFeeds_eq_error_iff]
  unfold refreshStations
  rcases s.readStationFeeds files with e' | f
  · simp
  · dsimp only
    split <;> simp

/-- A refresh of the stations that fails leaves the source as it was. -/
theorem refreshStations_of_fault {s : Source} {files : Folder} {e : RentalError}
    (h : StationFeedsFault s files e) : s.refreshStations files = (s, some e) := by
  rw [← readStationFeeds_eq_error_iff] at h
  simp only [refreshStations, h]

/-- A refresh of the stations that reads the feeds stores their versions; the stations have
changed when the versions differ from those stored, and only then are they rebuilt. -/
theorem refreshStations_of_read {s : Source} {files : Folder} {f : StationFeeds}
    (h : StationFeedsRead files f) :
    s.refreshStations files =
      ({ s with
          stationsChanged := decide (s.stationsVersion ≠ some f.versions)
          stationsVersion := some f.versions
          stations := if s.stationsVersion ≠ some f.versions then s.stationsOf f else s.stations },
        none) := by
  rw [← readStationFeeds_eq_ok_iff s] at h
  unfold refreshStations
  rw [h]
  dsimp only
  by_cases hv : s.stationsVersion = some f.versions
  · -- unchanged: the stored versions already are those of the feeds
    rw [if_pos hv]
    obtain ⟨network, directory, kind, stations, regions, version, rv, sc, rc⟩ := s
    dsimp only at hv
    subst hv
    simp
  · rw [if_neg hv]
    simp [hv]

/-! ### Refreshes one after another -/

/-- Refreshes one after another, each from what the directory holds at its time. -/
def refreshAll (s : Source) (history : List Folder) : Source :=
  history.foldl (fun s files => (s.refresh files).1) s

/-- The versions of the station feeds that read last among these contents of the
directory, or those stored before when none of them read. -/
def lastLoaded (s : Source) (history : List Folder) : Option Versions :=
  history.foldl (fun v files => ((s.readStationFeeds files).toOption.map StationFeeds.versions).or v)
    s.stationsVersion

/-- Reading the station feeds depends on the source through its directory alone. -/
theorem readStationFeeds_congr {s t : Source} (h : s.directory = t.directory) (files : Folder) :
    s.readStationFeeds files = t.readStationFeeds files := by
  simp only [readStationFeeds, h]

/-- Refreshing the region changes nothing but the region, its version and its flag. -/
theorem refreshRegions_frame (s : Source) (files : Folder) :
    ∃ regions version changed, (s.refreshRegions files).1 =
      { s with regions := regions, regionsVersion := version, regionsChanged := changed } := by
  unfold refreshRegions
  split
  · exact ⟨s.regions, s.regionsVersion, s.regionsChanged, rfl⟩
  · dsimp only
    split
    · exact ⟨s.regions, s.regionsVersion, false, rfl⟩
    · split
      · exact ⟨[], _, true, rfl⟩
      · split
        · exact ⟨_, _, true, rfl⟩
        · exact ⟨s.regions, s.regionsVersion, true, rfl⟩

/-- A refresh keeps the directory, and stores the versions of the station feeds when they
read. -/
theorem refresh_stationsVersion (s : Source) (files : Folder) :
    (s.refresh files).1.directory = s.directory ∧
      (s.refresh files).1.stationsVersion =
        ((s.readStationFeeds files).toOption.map StationFeeds.versions).or s.stationsVersion := by
  unfold refresh
  rcases hread : s.readStationFeeds files with e | f
  · -- the feeds fail: the source is kept
    have hfault := (readStationFeeds_eq_error_iff s files e).1 hread
    simp [refreshStations_of_fault hfault, Except.toOption]
  · have hf := (readStationFeeds_eq_ok_iff s files f).1 hread
    rw [refreshStations_of_read hf]
    dsimp only
    obtain ⟨regions, version, changed, hframe⟩ := refreshRegions_frame
      { s with
        stationsChanged := decide (s.stationsVersion ≠ some f.versions)
        stationsVersion := some f.versions
        stations := if s.stationsVersion ≠ some f.versions then s.stationsOf f else s.stations }
      files
    rw [hframe]
    simp [Except.toOption]

/-- After refreshes one after another, the source keeps its directory and stores the
versions of the station feeds that read last. -/
theorem refreshAll_stationsVersion (s : Source) (history : List Folder) :
    (s.refreshAll history).directory = s.directory ∧
      (s.refreshAll history).stationsVersion = lastLoaded s history := by
  unfold refreshAll lastLoaded
  -- the refreshed source and the versions read so far move together
  suffices h : ∀ t : Source, t.directory = s.directory →
      (history.foldl (fun s files => (s.refresh files).1) t).directory = s.directory ∧
      (history.foldl (fun s files => (s.refresh files).1) t).stationsVersion =
        history.foldl (fun v files =>
          ((s.readStationFeeds files).toOption.map StationFeeds.versions).or v) t.stationsVersion
    from h s rfl
  induction history with
  | nil => exact fun t ht => ⟨ht, rfl⟩
  | cons files rest ih =>
    intro t ht
    obtain ⟨hdir, hversion⟩ := refresh_stationsVersion t files
    simp only [List.foldl_cons]
    rw [readStationFeeds_congr ht.symm files, ← hversion]
    exact ih _ (hdir.trans ht)

end Source

/-- A refresh of the stations after any refreshes before it.  It fails exactly when the
station feeds fail to read: the first feed that cannot be read or decoded, in the order
information, status, free bikes, then station information without station status, or
neither station information nor free bikes; and it then leaves the source as it was.  When
the feeds read, it stores their versions, reports the stations changed exactly when these
differ from the versions of the feeds read last before, and then holds the docked stations
followed by the floating ones; otherwise it keeps the stations it had. -/
theorem station_refresh_follows_feeds (s : Source) (history : List Folder) (files : Folder) :
    let t := s.refreshAll history
    (∀ e, (t.refreshStations files).2 = some e ↔ t.StationFeedsFault files e) ∧
    (∀ e, (t.refreshStations files).2 = some e → (t.refreshStations files).1 = t) ∧
    ∀ f, Source.StationFeedsRead files f →
      let changed := decide (s.lastLoaded history ≠ some f.versions)
      ∃ docked floating,
        t.DockedStations ((f.information.map (·.data)).getD [])
          ((f.status.map (·.data)).getD []) docked ∧
        t.FloatingStations ((f.freeBikes.map (·.data)).getD []) floating ∧
        t.refreshStations files =
          ({ t with
              stationsChanged := changed
              stationsVersion := some f.versions
              stations := if changed then docked ++ floating else t.stations }, none) := by
  intro t
  obtain ⟨-, hversion⟩ := Source.refreshAll_stationsVersion s history
  refine ⟨Source.refreshStations_snd_eq_some_iff t files, fun e he => ?_, fun f hf => ?_⟩
  · rw [Source.refreshStations_of_fault ((Source.refreshStations_snd_eq_some_iff t files e).1 he)]
  · obtain ⟨docked, floating, hstations, hdocked, hfloating⟩ :=
      Source.stationsOf_eq t hf.status_of_information
    refine ⟨docked, floating, hdocked, hfloating, ?_⟩
    rw [Source.refreshStations_of_read hf, hstations, hversion]
    simp

/-- A directory whose station `a` has two status records, the last one not renting, and
whose free bikes are one reserved bike and one free. -/
def lastStatusFolder : Folder :=
  [("station_information.json",
      .file "\x7b\"data\":\x7b\"stations\":[\x7b\"lat\":45,\"lon\":-122,\"name\":\"A\",\"station_id\":\"a\"\x7d]\x7d,\"last_updated\":1\x7d"),
   ("station_status.json",
      .file "\x7b\"data\":\x7b\"stations\":[\x7b\"num_bikes_available\":3,\"station_id\":\"a\"\x7d,\x7b\"is_renting\":0,\"num_bikes_available\":0,\"station_id\":\"a\"\x7d]\x7d,\"last_updated\":1\x7d"),
   ("free_bike_status.json",
      .file "\x7b\"data\":\x7b\"bikes\":[\x7b\"bike_id\":\"r\",\"is_reserved\":1,\"lat\":45,\"lon\":-122\x7d,\x7b\"bike_id\":\"b\",\"lat\":45,\"lon\":-122\x7d]\x7d,\"last_updated\":1\x7d")]

/-- A new source reads that directory, and its first refresh reports the stations changed. -/
theorem lastStatusFolder_reads_as_changed :
    ∃ f, Source.StationFeedsRead lastStatusFolder f ∧
      let s : Source := { network := "LIME", directory := "<dir>", kind := .bicycle }
      (s.refreshStations lastStatusFolder).2 = none ∧
        (s.refreshStations lastStatusFolder).1.stationsChanged = true := by
  let s : Source := { network := "LIME", directory := "<dir>", kind := .bicycle }
  have hok : (s.readStationFeeds lastStatusFolder).isOk = true := by decide +kernel
  cases hread : s.readStationFeeds lastStatusFolder with
  | error e => rw [hread] at hok; cases hok
  | ok f =>
    have hf := (Source.readStationFeeds_eq_ok_iff s lastStatusFolder f).1 hread
    obtain ⟨docked, floating, -, -, hrefresh⟩ :=
      (station_refresh_follows_feeds s [] lastStatusFolder).2.2 f hf
    -- a new source has read no feeds before
    refine ⟨f, hf, ?_⟩
    simp only at hrefresh ⊢
    rw [show s.refreshAll [] = s from rfl] at hrefresh
    simp [hrefresh, Source.lastLoaded, s]

end RentalRouting
