/-
RentalRouting/Feed/Updater.lean

Keeping a station service up to date with a source of rental data.  A source is anything
that refreshes itself from the world it reads and then tells whether its stations and its
region may have changed and what they are (`RentalSource`); the GBFS files of a directory
are one.  Several updaters may share one service, each removing only what it put there.

One update refreshes the source and fails, touching nothing, when the refresh fails.  When
neither the stations nor the regions changed it does nothing.  Otherwise changed regions are
put in the service and the regions this updater put there before whose networks the source
no longer reports are removed; then the changed stations are put in the service one by one
and the stations this updater put there before whose ids the source no longer reports are
removed.  The summary counts stations added, stations replaced (an id already in the
service, also one put earlier in the same update), stations removed, regions put and regions
removed.

The service is held behind a reader-writer lock, which an update takes for writing and a
query for reading; a lock whose holder panicked answers a "lock poisoned" error instead.
Nothing here panics or shares the service across threads, so no lock is ever poisoned: the
lock and that error are left out, and the service is passed and returned as a value.
-/
import RentalRouting.Feed.Source
import RentalRouting.Station.Service
import RentalRouting.Rental.Names

namespace RentalRouting

/-- A source of rental stations and regions.  A refresh loads the latest data from the world
it reads (`ε`), or fails; the source then tells whether its stations and its regions may
have changed since the refresh before, and what they are. -/
class RentalSource (σ : Type) (ε : outParam Type) where
  refresh : σ → ε → σ × Option RentalError
  stationsChanged : σ → Bool
  regionsChanged : σ → Bool
  stations : σ → List Station
  regions : σ → List Region

/-- A GBFS source reads the feed files of its directory. -/
instance : RentalSource Source Folder where
  refresh := Source.refresh
  stationsChanged := Source.stationsChanged
  regionsChanged := Source.regionsChanged
  stations := Source.stations
  regions := Source.regions

/-- What one update changed in the service. -/
structure UpdateSummary where
  added : Nat := 0
  replaced : Nat := 0
  removed : Nat := 0
  regions : Nat := 0
  removedRegions : Nat := 0
  deriving DecidableEq, Repr

/-- A source with what it has put in a service. -/
structure RentalUpdater (σ : Type) where
  source : σ
  /-- The ids of the stations put in the service by the last update that changed them. -/
  knownIds : List String := []
  /-- The networks of the regions put in the service by the last update that changed them. -/
  knownNetworks : List String := []

/-- An updater of a GBFS source. -/
abbrev Updater := RentalUpdater Source

namespace RentalUpdater

variable {σ ε : Type} [RentalSource σ ε]

/-- Put stations in a service one by one, counting those added and those replaced. -/
def putStations (sv : Service) : List Station → Service × Nat × Nat
  | [] => (sv, 0, 0)
  | st :: rest =>
    let (sv, old) := sv.addStation st
    let (sv, added, replaced) := putStations sv rest
    if old.isSome then (sv, added, replaced + 1) else (sv, added + 1, replaced)

/-- Remove stations by id, counting those that were there. -/
def removeStations (sv : Service) : List String → Service × Nat
  | [] => (sv, 0)
  | id :: rest =>
    let (sv, old) := sv.removeStation id
    let (sv, n) := removeStations sv rest
    (sv, if old.isSome then n + 1 else n)

/-- Remove regions by network, counting those that were there. -/
def removeRegions (sv : Service) : List String → Service × Nat
  | [] => (sv, 0)
  | network :: rest =>
    let (sv, old) := sv.removeRegion network
    let (sv, n) := removeRegions sv rest
    (sv, if old.isSome then n + 1 else n)

/-- Put the source's regions in the service and remove the stale ones. -/
def updateRegions (u : RentalUpdater σ) (sv : Service) : RentalUpdater σ × Service × UpdateSummary :=
  let regions := RentalSource.regions u.source
  let fresh := nameSet (regions.map (·.network))
  let sv := regions.foldl Service.addRegion sv
  let (sv, removed) := removeRegions sv (u.knownNetworks.filter (!fresh.contains ·))
  ({ u with knownNetworks := fresh }, sv, { regions := regions.length, removedRegions := removed })

/-- Put the source's stations in the service and remove the stale ones. -/
def updateStations (u : RentalUpdater σ) (sv : Service) (summary : UpdateSummary) :
    RentalUpdater σ × Service × UpdateSummary :=
  let stations := RentalSource.stations u.source
  let fresh := nameSet (stations.map (·.id))
  let (sv, added, replaced) := putStations sv stations
  let (sv, removed) := removeStations sv (u.knownIds.filter (!fresh.contains ·))
  ({ u with knownIds := fresh }, sv,
    { summary with added := added, replaced := replaced, removed := removed })

/-- Refresh the source from the world and bring the service up to date. -/
def runOnce (u : RentalUpdater σ) (world : ε) (sv : Service) :
    RentalUpdater σ × Service × Except RentalError UpdateSummary :=
  let (source, failure) := RentalSource.refresh u.source world
  let u := { u with source := source }
  match failure with
  | some e => (u, sv, .error e)
  | none =>
    if !RentalSource.stationsChanged source && !RentalSource.regionsChanged source then
      (u, sv, .ok {})
    else
      let (u, sv, summary) :=
        if RentalSource.regionsChanged source then u.updateRegions sv else (u, sv, {})
      let (u, sv, summary) :=
        if RentalSource.stationsChanged source then u.updateStations sv summary
        else (u, sv, summary)
      (u, sv, .ok summary)

end RentalUpdater

end RentalRouting
