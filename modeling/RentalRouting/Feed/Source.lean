/-
RentalRouting/Feed/Source.lean

A GBFS source: the stations and the region of one network, read from the feed files of a
directory.  Docked stations come from station information joined with station status (the
last status of an id wins; a station without one is left out); every free bike that is
neither reserved nor disabled becomes a floating station with one vehicle, no space, and
pick-up but no drop-off.  All stations belong to the source's network and rent its vehicle
kind.  The polygons of the geofencing zones become the network's one region; zones without
polygons make none, and any other geometry is an error.

A refresh reads the station feeds first and the zones next.  The stations have changed
when the `last_updated` values of the three station feeds (none for a file that is not
there) differ from those of the last stations read; the region has changed when the one of
the zones does.  Only changed data is rebuilt.  A refresh stops at the first error and
keeps what it had done by then: the stations read, and the flag that the region changed.
-/
import RentalRouting.Feed.Records
import RentalRouting.Station.Basic
import RentalRouting.Station.Region
import RentalRouting.Rental.Error
import RentalRouting.Text.Blank

namespace RentalRouting

open Json

/-- What stands under a name in a directory. -/
inductive Entry where
  | file (text : String)
  | folder

/-- The entries of a directory by name. -/
abbrev Folder := List (String × Entry)

/-- A file name after a directory path. -/
def joinPath (directory name : String) : String :=
  if directory.isEmpty || directory.endsWith "/" then directory ++ name else directory ++ "/" ++ name

/-- Read a feed file of a directory, `none` when it is not there. -/
def readFeedFile {α : Type} (directory : String) (files : Folder) (name : String)
    (r : Reader (Feed α)) : Except RentalError (Option (Feed α)) :=
  let path := joinPath directory name
  match files.lookup name with
  | none => .ok none
  | some .folder => .error (.io path "Is a directory (os error 21)")
  | some (.file text) =>
    match readText r text.toUTF8 with
    | .ok feed => .ok (some feed)
    | .error e => .error (.json path (e.render text.toUTF8))

/-- The `last_updated` values of the station feeds. -/
structure Versions where
  information : Option Int
  status : Option Int
  freeBikes : Option Int
  deriving DecidableEq

/-- The station feeds of a directory. -/
structure StationFeeds where
  information : Option (Feed (List StationInfo))
  status : Option (Feed (List StationStatus))
  freeBikes : Option (Feed (List FreeBike))

/-- The versions of the station feeds. -/
def StationFeeds.versions (f : StationFeeds) : Versions :=
  ⟨f.information.map (·.lastUpdated), f.status.map (·.lastUpdated), f.freeBikes.map (·.lastUpdated)⟩

/-- A GBFS source of one network. -/
structure Source where
  network : String
  directory : String
  kind : VehicleKind
  stations : List Station := []
  regions : List Region := []
  stationsVersion : Option Versions := none
  regionsVersion : Option Int := none
  stationsChanged : Bool := false
  regionsChanged : Bool := false

namespace Source

/-- A source of a network over a directory; the network must not be blank and the
directory must exist. -/
def create (network directory : String) (kind : VehicleKind) (directoryExists : Bool) :
    Except RentalError Source :=
  if (Text.trim network).isEmpty then .error (.configuration "network name must not be empty")
  else if !directoryExists then
    .error (.configuration ("GBFS directory " ++ directory ++ " does not exist"))
  else .ok { network := network, directory := directory, kind := kind }

/-- A station of the source's network and kind. -/
def station (s : Source) (id name : String) (lat lon : Float) : Station :=
  { id := id, name := ⟨name, []⟩, x := lon, y := lat, networks := some [s.network],
    kind := s.kind }

/-- The docked stations: information joined with the last status of each id. -/
def docked (s : Source) (info : List StationInfo) (status : List StationStatus) : List Station :=
  info.filterMap fun r =>
    (status.reverse.find? (·.id = r.id)).map fun st =>
      { s.station r.id r.name r.lat r.lon with
        allowPickup := st.isRenting
        allowDropoff := st.isReturning
        vehiclesAvailable := some st.bikesAvailable
        spacesAvailable := st.docksAvailable }

/-- The floating stations: the free bikes that are neither reserved nor disabled. -/
def floating (s : Source) (bikes : List FreeBike) : List Station :=
  (bikes.filter fun b => !b.isReserved && !b.isDisabled).map fun b =>
    { s.station b.id b.id b.lat b.lon with
      allowPickup := true
      allowDropoff := false
      vehiclesAvailable := some 1
      spacesAvailable := some 0
      isFloating := true }

/-- Read the station feeds; station information needs station status, and one of station
information and free bikes must be there. -/
def readStationFeeds (s : Source) (files : Folder) : Except RentalError StationFeeds := do
  let information ← readFeedFile s.directory files "station_information.json" StationInfo.readFeed
  let status ← readFeedFile s.directory files "station_status.json" StationStatus.readFeed
  let freeBikes ← readFeedFile s.directory files "free_bike_status.json" FreeBike.readFeed
  if information.isSome && status.isNone then
    throw (.configuration (s.directory ++ " has station_information.json but no station_status.json"))
  if information.isNone && freeBikes.isNone then
    throw (.configuration (s.directory ++ " has neither station_information.json nor free_bike_status.json"))
  return ⟨information, status, freeBikes⟩

/-- The stations of the station feeds. -/
def stationsOf (s : Source) (f : StationFeeds) : List Station :=
  let docked := match f.information, f.status with
    | some i, some st => s.docked i.data st.data
    | _, _ => []
  docked ++ (f.freeBikes.map (s.floating ·.data)).getD []

/-- Refresh the stations. -/
def refreshStations (s : Source) (files : Folder) : Source × Option RentalError :=
  match s.readStationFeeds files with
  | .error e => (s, some e)
  | .ok f =>
    let v := f.versions
    if s.stationsVersion = some v then ({ s with stationsChanged := false }, none)
    else ({ s with stationsChanged := true, stations := s.stationsOf f, stationsVersion := some v }, none)

/-- The region of the zones' geometries: their polygons, none without any. -/
def regionOf (s : Source) (shapes : List (Option Shape)) : Except RentalError (Option Region) := do
  let step (acc : List Polygon) : Option Shape → Except RentalError (List Polygon)
    | none => pure acc
    | some shape =>
      match shape.polygons? with
      | some ps => pure (acc ++ ps)
      | none => throw (.zones s.network "geofencing zones must be polygons")
  let polygons ← shapes.foldlM step []
  return if polygons.isEmpty then none else some ⟨s.network, polygons⟩

/-- Refresh the region. -/
def refreshRegions (s : Source) (files : Folder) : Source × Option RentalError :=
  match readFeedFile s.directory files "geofencing_zones.json" readZonesFeed with
  | .error e => (s, some e)
  | .ok zones =>
    let v := zones.map (·.lastUpdated)
    if v = s.regionsVersion then ({ s with regionsChanged := false }, none)
    else
      let s := { s with regionsChanged := true }
      match zones with
      | none => ({ s with regions := [], regionsVersion := v }, none)
      | some feed =>
        match s.regionOf feed.data with
        | .ok r => ({ s with regions := r.toList, regionsVersion := v }, none)
        | .error e => (s, some e)

/-- Refresh the stations, then the region. -/
def refresh (s : Source) (files : Folder) : Source × Option RentalError :=
  match s.refreshStations files with
  | (s, some e) => (s, some e)
  | (s, none) => s.refreshRegions files

end Source

end RentalRouting
