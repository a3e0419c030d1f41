/-
RentalRouting/Mode/Qualified.lean

Qualified modes and mode strings.  A qualified mode is a travel mode with qualifiers that
say what happens to the vehicle (`RENT`, `HAVE`, `PARK`, `HAIL`, `KEEP`), written
`MODE_Q1_Q2`; a mode string is a comma separated list of them.  Reading splits on `_`,
trims the first piece, reads `BICYCLE` as micromobility and any other mode by its name, and
each further piece as a qualifier; the first unknown piece is the error.  A mode string
drops empty pieces and must keep one.

A mode string chooses the modes of a request: each qualified mode adds its mode, a rented
micromobility vehicle also walking and turning rental on, and a car also walking when the
string holds transit.
-/
import RentalRouting.Mode.Set
import RentalRouting.Request.Error

namespace RentalRouting

/-- What a qualified mode does with its vehicle. -/
inductive Qualifier where
  | rent
  | owned
  | park
  | hail
  | keep
  deriving DecidableEq, Repr, Inhabited

namespace Qualifier

/-- Every qualifier, in the order in which qualified modes list them. -/
def all : List Qualifier := [.rent, .owned, .park, .hail, .keep]

/-- The upper-case name of a qualifier. -/
def name : Qualifier → String
  | .rent => "RENT"
  | .owned => "HAVE"
  | .park => "PARK"
  | .hail => "HAIL"
  | .keep => "KEEP"

/-- The qualifier named by a text, after trimming blanks and upper-casing. -/
def ofName? (s : String) : Option Qualifier :=
  (Text.upperAscii? (Text.trim s)).bind fun t => all.find? (·.name = t)

/-- The position of a qualifier in `all`. -/
def rank : Qualifier → Nat
  | .rent => 0
  | .owned => 1
  | .park => 2
  | .hail => 3
  | .keep => 4

end Qualifier

/-- A travel mode with its qualifiers, each once, in the order of `Qualifier.all`. -/
structure QualifiedMode where
  mode : TravelMode
  qualifiers : List Qualifier
  deriving DecidableEq, Repr

namespace QualifiedMode

/-- The qualifiers among `all` that a list holds, in the order of `all`. -/
def normalize (qs : List Qualifier) : List Qualifier := Qualifier.all.filter (qs.contains ·)

/-- The text of a qualified mode: the mode's name, then `_` and each qualifier's name. -/
def display (q : QualifiedMode) : String :=
  q.mode.name ++ String.join (q.qualifiers.map fun x => "_" ++ x.name)

/-- The mode a mode piece names: `BICYCLE` is micromobility here. -/
def modeOf (piece : String) : Except RequestError TravelMode :=
  if Text.upperAscii? piece = some "BICYCLE" then .ok .micromobility
  else match TravelMode.ofName? piece with
    | some m => .ok m
    | none => .error (.unknownMode piece)

/-- Read a qualified mode. -/
def parse (s : String) : Except RequestError QualifiedMode := do
  let pieces := s.splitOn "_"
  let mode ← modeOf (Text.trim (pieces.headD ""))
  let qualifiers ← pieces.tail.mapM fun piece =>
    match Qualifier.ofName? piece with
    | some q => .ok q
    | none => .error (.unknownQualifier piece s)
  return ⟨mode, normalize qualifiers⟩

/-- Add the modes of a qualified mode to a set, and say whether it turns rental on. -/
def apply (q : QualifiedMode) (usingTransit : Bool) (modes : ModeSet) (rental : Bool) :
    ModeSet × Bool :=
  let modes := modes.insert q.mode
  match q.mode with
  | .micromobility =>
    if q.qualifiers.contains .rent then (modes.insert .walk, true) else (modes, rental)
  | .car => if usingTransit then (modes.insert .walk, rental) else (modes, rental)
  | _ => (modes, rental)

end QualifiedMode

/-- The qualified modes of a mode string, in the order written. -/
structure ModeString where
  modes : List QualifiedMode
  deriving DecidableEq, Repr

namespace ModeString

/-- Read a mode string: pieces between commas, trimmed, empty ones dropped. -/
def parse (s : String) : Except RequestError ModeString := do
  let pieces := ((s.splitOn ",").map Text.trim).filter (· ≠ "")
  let modes ← pieces.mapM QualifiedMode.parse
  if modes.isEmpty then throw .emptyModes
  return ⟨modes⟩

/-- The string names transit. -/
def usesTransit (m : ModeString) : Bool := m.modes.any (·.mode.isTransit)

/-- The modes the string chooses, from an empty set, and whether rental ends up on. -/
def apply (m : ModeString) (rental : Bool) : ModeSet × Bool :=
  m.modes.foldl (fun acc q => q.apply m.usesTransit acc.1 acc.2) (ModeSet.empty, rental)

end ModeString

end RentalRouting
