/-
RentalRouting/Cli/Args.lean

The command line: one subcommand, `stations`, with the options `--directory` (`-d`) and
`--network` (`-n`), both required, `--vehicle-type` (default `bike`), `--lower-left` and
`--upper-right` (each requiring the other), `--company` (`-c`) and `--locale` (`-l`), each
taking one value, besides `--help` (`-h`) and `--version` (`-V`).  A `help` subcommand asks
for help on a command path.

The words are read left to right.  A value follows its option as the next word, or is
attached to it (`--name=value`, `-nvalue`, `-n=value`).  An option is only settled when the
next option, flag or unexpected word comes, or the words end: an option still without a
value then is an invalid value, and one given twice is a conflict.  A help or version flag
stops reading at once, once the option before it is settled.  An unknown option or an
unexpected word stops reading too, the option before it left unsettled.  After `--` every
word is unexpected.  When the words end without error, the required options are checked.
-/
namespace RentalRouting

/-- Why a command line does not run a command, by the kind of the failure. -/
inductive CliError where
  | missingRequiredArgument
  | unknownArgument
  | invalidSubcommand
  | argumentConflict
  | invalidValue
  | tooManyValues
  | displayHelp
  | displayVersion
  | displayHelpOnMissingArgumentOrSubcommand
  deriving DecidableEq, Repr

/-- The name of the kind of a command line failure. -/
def CliError.kind : CliError → String
  | .missingRequiredArgument => "MissingRequiredArgument"
  | .unknownArgument => "UnknownArgument"
  | .invalidSubcommand => "InvalidSubcommand"
  | .argumentConflict => "ArgumentConflict"
  | .invalidValue => "InvalidValue"
  | .tooManyValues => "TooManyValues"
  | .displayHelp => "DisplayHelp"
  | .displayVersion => "DisplayVersion"
  | .displayHelpOnMissingArgumentOrSubcommand => "DisplayHelpOnMissingArgumentOrSubcommand"

/-- An option of the `stations` command. -/
inductive StationsOption where
  | directory
  | network
  | vehicleType
  | lowerLeft
  | upperRight
  | company
  | locale
  deriving DecidableEq, Repr

namespace StationsOption

/-- Every option. -/
def all : List StationsOption :=
  [.directory, .network, .vehicleType, .lowerLeft, .upperRight, .company, .locale]

/-- The long name. -/
def long : StationsOption → String
  | .directory => "directory"
  | .network => "network"
  | .vehicleType => "vehicle-type"
  | .lowerLeft => "lower-left"
  | .upperRight => "upper-right"
  | .company => "company"
  | .locale => "locale"

/-- The short name, if there is one. -/
def short? : StationsOption → Option Char
  | .directory => some 'd'
  | .network => some 'n'
  | .company => some 'c'
  | .locale => some 'l'
  | _ => none

/-- The option of a long name. -/
def ofLong? (name : String) : Option StationsOption := all.find? (·.long = name)

/-- The option of a short name. -/
def ofShort? (c : Char) : Option StationsOption := all.find? (·.short? = some c)

end StationsOption

/-- The `stations` command: load a directory of feeds and list the stations of a query. -/
structure StationsArgs where
  directory : String
  network : String
  vehicleType : String := "bike"
  lowerLeft : Option String := none
  upperRight : Option String := none
  company : Option String := none
  locale : Option String := none
  deriving DecidableEq, Repr

/-- The options read so far. -/
structure OptionsRead where
  /-- Settled options with their values, in order. -/
  given : List (StationsOption × String) := []
  /-- The option not yet settled, with its value once it has one. -/
  pending : Option (StationsOption × Option String) := none
  /-- A `--` came. -/
  trailing : Bool := false

namespace OptionsRead

/-- The value of a settled option. -/
def value? (r : OptionsRead) (o : StationsOption) : Option String :=
  (r.given.find? (·.1 = o)).map (·.2)

/-- Settle the pending option. -/
def settle (r : OptionsRead) : Except CliError OptionsRead :=
  match r.pending with
  | none => .ok r
  | some (_, none) => .error .invalidValue
  | some (o, some v) =>
    if (r.value? o).isSome then .error .argumentConflict
    else .ok { r with given := r.given ++ [(o, v)], pending := none }

/-- An option with its value attached. -/
def attach (r : OptionsRead) (o : StationsOption) (v : String) : Except CliError OptionsRead := do
  let r ← r.settle
  if (r.value? o).isSome then throw .argumentConflict
  return { r with given := r.given ++ [(o, v)] }

/-- An option whose value is the next word. -/
def expect (r : OptionsRead) (o : StationsOption) : Except CliError OptionsRead := do
  let r ← r.settle
  return { r with pending := some (o, none) }

/-- A help or version flag. -/
def stop (r : OptionsRead) (e : CliError) : Except CliError OptionsRead := do
  let _ ← r.settle
  throw e

/-- A long option word, its name and the value after `=`. -/
def long (r : OptionsRead) (name : String) (value : Option String) : Except CliError OptionsRead :=
  if name = "help" || name = "version" then
    match value with
    | some _ => .error .tooManyValues
    | none => r.stop (if name = "help" then .displayHelp else .displayVersion)
  else
    match StationsOption.ofLong? name, value with
    | some o, some v => r.attach o v
    | some o, none => r.expect o
    | none, _ => .error .unknownArgument

/-- A word of short flags: an option's value is the rest of the word, without a leading
`=`, or else the next word. -/
def short (r : OptionsRead) : List Char → Except CliError OptionsRead
  | [] => .ok r
  | c :: rest =>
    if c = 'h' then r.stop .displayHelp
    else if c = 'V' then r.stop .displayVersion
    else
      match StationsOption.ofShort? c with
      | none => .error .unknownArgument
      | some o =>
        match rest with
        | [] => r.expect o
        | '=' :: v => r.attach o (String.ofList v)
        | v => r.attach o (String.ofList v)

/-- A word that is neither an option nor a flag: the pending option's value if it wants
one, unexpected otherwise. -/
def plain (r : OptionsRead) (word : String) : Except CliError OptionsRead :=
  match r.pending with
  | some (o, none) => .ok { r with pending := some (o, some word) }
  | _ => .error .unknownArgument

/-- Read one word. -/
def word (r : OptionsRead) (w : String) : Except CliError OptionsRead :=
  if r.trailing then .error .unknownArgument
  else if w = "--" then .ok { r with trailing := true }
  else if w.startsWith "--" then
    let body := (w.drop 2).toString
    match body.splitOn "=" with
    | name :: v :: more => r.long name (some ("=".intercalate (v :: more)))
    | _ => r.long body none
  else if w.startsWith "-" && w.length > 1 then r.short (w.drop 1).toString.toList
  else r.plain w

/-- Read words in order, then settle the last option. -/
def words (r : OptionsRead) : List String → Except CliError OptionsRead
  | [] => r.settle
  | w :: rest => do words (← r.word w) rest

/-- The command of the options read: the directory and the network are required, and
each envelope corner requires the other. -/
def command (r : OptionsRead) : Except CliError StationsArgs :=
  match r.value? .directory, r.value? .network with
  | some d, some n =>
    let ll := r.value? .lowerLeft
    let ur := r.value? .upperRight
    if ll.isSome != ur.isSome then .error .missingRequiredArgument
    else .ok { directory := d, network := n,
               vehicleType := (r.value? .vehicleType).getD "bike",
               lowerLeft := ll, upperRight := ur,
               company := r.value? .company, locale := r.value? .locale }
  | _, _ => .error .missingRequiredArgument

end OptionsRead

/-- Help on a command path: every word must name a subcommand of the one before. -/
def helpPath : List String → Except CliError StationsArgs
  | [] => .error .displayHelp
  | [w] => if w = "stations" || w = "help" then .error .displayHelp else .error .invalidSubcommand
  | _ :: _ :: _ => .error .invalidSubcommand

/-- Read a command line, the program name left out. -/
def parseArgs : List String → Except CliError StationsArgs
  | [] => .error .displayHelpOnMissingArgumentOrSubcommand
  | w :: rest =>
    if w = "stations" then do
      let r ← ({} : OptionsRead).words rest
      r.command
    else if w = "help" then helpPath rest
    else if w = "--" then
      if rest.isEmpty then .error .displayHelpOnMissingArgumentOrSubcommand else .error .unknownArgument
    else if w.startsWith "--" then
      let body := (w.drop 2).toString
      match body.splitOn "=" with
      | name :: _ :: _ => if name = "help" || name = "version" then .error .tooManyValues
                          else .error .unknownArgument
      | _ => if body = "help" then .error .displayHelp
             else if body = "version" then .error .displayVersion
             else .error .unknownArgument
    else if w.startsWith "-" && w.length > 1 then
      match w.toList.drop 1 with
      | 'h' :: _ => .error .displayHelp
      | 'V' :: _ => .error .displayVersion
      | _ => .error .unknownArgument
    else .error .invalidSubcommand

end RentalRouting
