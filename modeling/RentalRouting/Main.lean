/-
RentalRouting/Main.lean

The command line program: it reads its arguments, reads the feed files of the directory
they name, runs the command and prints what it prints, or why it could not run.
-/
import RentalRouting.Cli.Run

open RentalRouting

/-- Usage of the command line. -/
def usage : String :=
  "Usage: stations --directory <DIRECTORY> --network <NETWORK> [--vehicle-type <VEHICLE_TYPE>] " ++
    "[--lower-left <LOWER_LEFT> --upper-right <UPPER_RIGHT>] [--company <COMPANY>] " ++
    "[--locale <LOCALE>]"

/-- An open handle names a directory: it cannot be read. -/
def readFails (h : IO.FS.Handle) : IO Bool := do
  try
    let _ ← h.read 1
    pure false
  catch _ => pure true

/-- A path names a directory: it opens, but cannot be read as a file. -/
def isDirectory (path : String) : IO Bool := do
  try
    readFails (← IO.FS.Handle.mk path .read)
  catch _ => pure false

/-- The feed files of a directory that are there. -/
def readFolder (directory : String) : IO Folder := do
  let names := ["station_information.json", "station_status.json", "free_bike_status.json",
    "geofencing_zones.json"]
  let mut entries : Folder := []
  for name in names do
    let path := joinPath directory name
    try
      let text ← IO.FS.readFile path
      entries := entries ++ [(name, .file text)]
    catch _ =>
      if ← isDirectory path then entries := entries ++ [(name, .folder)]
  return entries

/-- Run the command line. -/
def main (args : List String) : IO UInt32 := do
  match parseArgs args with
  | .error .displayHelp =>
    IO.println usage
    return 0
  | .error .displayVersion =>
    IO.println "stations 0.2.3"
    return 0
  | .error .displayHelpOnMissingArgumentOrSubcommand =>
    IO.eprintln usage
    return 2
  | .error e =>
    IO.eprintln ("error: " ++ e.kind)
    IO.eprintln usage
    return 2
  | .ok a =>
    let present ← isDirectory a.directory
    let files ← if present then readFolder a.directory else pure []
    match a.run present files with
    | .ok text =>
      IO.print text
      return 0
    | .error e =>
      IO.eprintln e.message
      return 1
