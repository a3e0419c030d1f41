/-
RentalRouting/Request/Error.lean

Why a routing request could not be built: a mode string names an unknown mode or
qualifier, or no mode at all, a number is out of its range, or the configuration could not
be read.
-/
namespace RentalRouting

/-- An error in building a routing request. -/
inductive RequestError where
  /-- A mode string names no travel mode. -/
  | unknownMode (text : String)
  /-- A qualified mode has an unknown qualifier. -/
  | unknownQualifier (qualifier qualifiedMode : String)
  /-- A mode string names no mode. -/
  | emptyModes
  /-- A number of the request is out of its range. -/
  | invalidParameter (name message : String)
  /-- The configuration could not be read; the text says why. -/
  | configuration (text : String)
  deriving DecidableEq, Repr

/-- The text of a request error. -/
def RequestError.message : RequestError → String
  | .unknownMode text => "unknown travel mode '" ++ text ++ "'"
  | .unknownQualifier q m => "unknown mode qualifier '" ++ q ++ "' in '" ++ m ++ "'"
  | .emptyModes => "empty mode string"
  | .invalidParameter name message => "invalid request parameter " ++ name ++ ": " ++ message
  | .configuration text => "failure reading routing request configuration: " ++ text

end RentalRouting
