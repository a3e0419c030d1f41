/-
RentalRouting/Mode/Set.lean

Sets of travel modes: for each of the five modes, whether it is in the set.  A set lists
its modes in the order of `TravelMode.all` and is written as `[WALK, CAR]`.  The main laws
say what `insert` and `erase` do to membership.
-/
import RentalRouting.Mode.Travel

namespace RentalRouting

/-- A set of travel modes. -/
structure ModeSet where
  walk : Bool := false
  bicycle : Bool := false
  car : Bool := false
  micromobility : Bool := false
  transit : Bool := false
  deriving DecidableEq, Repr, Inhabited

namespace ModeSet

/-- The set without modes. -/
def empty : ModeSet := {}

/-- The mode is in the set. -/
def contains (s : ModeSet) : TravelMode → Bool
  | .walk => s.walk
  | .bicycle => s.bicycle
  | .car => s.car
  | .micromobility => s.micromobility
  | .transit => s.transit

/-- Put a mode in the set (`enabled`) or take it out. -/
def setMode (s : ModeSet) (m : TravelMode) (enabled : Bool) : ModeSet :=
  match m with
  | .walk => { s with walk := enabled }
  | .bicycle => { s with bicycle := enabled }
  | .car => { s with car := enabled }
  | .micromobility => { s with micromobility := enabled }
  | .transit => { s with transit := enabled }

/-- Put a mode in the set. -/
def insert (s : ModeSet) (m : TravelMode) : ModeSet := s.setMode m true

/-- Take a mode out of the set. -/
def erase (s : ModeSet) (m : TravelMode) : ModeSet := s.setMode m false

/-- The set of the listed modes. -/
def ofList (modes : List TravelMode) : ModeSet := modes.foldl insert empty

/-- The modes of the set, in the order of `TravelMode.all`. -/
def toList (s : ModeSet) : List TravelMode := TravelMode.all.filter s.contains

/-- The set has no modes. -/
def isEmpty (s : ModeSet) : Bool := s.toList.isEmpty

/-- The set holds public transit. -/
def isTransit (s : ModeSet) : Bool := s.contains .transit

/-- The set written as its mode names in brackets, separated by commas. -/
def display (s : ModeSet) : String := "[" ++ ", ".intercalate (s.toList.map TravelMode.name) ++ "]"

@[simp]
theorem contains_setMode (s : ModeSet) (m n : TravelMode) (enabled : Bool) :
    (s.setMode m enabled).contains n = if n = m then enabled else s.contains n := by
  cases m <;> cases n <;> rfl

@[simp]
theorem contains_insert (s : ModeSet) (m n : TravelMode) :
    (s.insert m).contains n = (n == m || s.contains n) := by
  cases m <;> cases n <;> simp [insert, contains_setMode]

@[simp]
theorem contains_erase (s : ModeSet) (m n : TravelMode) :
    (s.erase m).contains n = (n != m && s.contains n) := by
  cases m <;> cases n <;> simp [erase, contains_setMode]

@[simp]
theorem contains_empty (m : TravelMode) : empty.contains m = false := by
  cases m <;> rfl

theorem mem_toList (s : ModeSet) (m : TravelMode) : m ∈ s.toList ↔ s.contains m = true := by
  simp [toList, TravelMode.mem_all]

end ModeSet

end RentalRouting
