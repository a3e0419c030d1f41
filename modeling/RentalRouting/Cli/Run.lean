/-
RentalRouting/Cli/Run.lean

Running the `stations` command: its query is built first (the envelope corners, when both
are given, then the company and the locale), then a source over the directory is loaded
into an empty service by one update, and the summaries of the stations that answer the
query are printed, in id order, as an indented JSON array followed by a newline.  The
service is read as the update returns it, with no lock and so no "lock poisoned" error
(`Feed/Updater`).
-/
import RentalRouting.Cli.Args
import RentalRouting.Feed.Updater
import RentalRouting.Station.Encode
import RentalRouting.Json.Write

namespace RentalRouting

/-- Load a source into an empty service and answer a query. -/
def loadAndQuery (source : Source) (files : Folder) (q : Query) : Except RentalError (List Summary) :=
  let (_, sv, result) := ({ source := source } : Updater).runOnce files {}
  result.map fun _ => sv.query q

namespace StationsArgs

/-- The query of the command. -/
def query (a : StationsArgs) : Except RentalError Query := do
  let q ← match a.lowerLeft, a.upperRight with
    | some ll, some ur => Query.ofCorners ll ur
    | _, _ => pure {}
  return { q with company := a.company, locale := a.locale }

/-- The text the command prints, given whether its directory exists and the files in it. -/
def run (a : StationsArgs) (directoryExists : Bool) (files : Folder) : Except RentalError String := do
  let q ← a.query
  let source ← Source.create a.network a.directory (VehicleKind.ofToken a.vehicleType) directoryExists
  let summaries ← loadAndQuery source files q
  return Json.pretty (.array (summaries.map Summary.toJson)) ++ "\n"

end StationsArgs

end RentalRouting
