/-
RentalRouting/Search/Editor.lean

Building a successor state.  Editing a state along an edge gives an editor whose child is
the state moved to the edge's far end (its source in an arrive-by search, its target
otherwise), with the edge as its back edge and the state as its back state.  The editor's
steps (`Edit`) add weight, time and distances, set modes and the vehicle kind, begin and
end a rental, record a rented vehicle, and board and alight transit.

An increment must be valid: a weight that is not NaN and not negative, a time and a
distance that are finite and not negative (`-0` is valid).  An invalid increment changes
nothing and is a defect; the editor keeps the first defect, and a child with a defect is
no state.  Seconds are rounded to the nearest integer, a half away from zero and saturated
to a 64-bit word, and subtracted from the time in an arrive-by search; the sum wraps around.
-/
import RentalRouting.Search.State
import RentalRouting.Numeric.Text

namespace RentalRouting

/-- An invalid increment found while building a successor state. -/
inductive Defect where
  | weight (edge : EdgeId) (value : Float)
  | time (edge : EdgeId) (value : Float)
  | distance (edge : EdgeId) (value : Float)
  deriving Inhabited

/-- The text of a defect. -/
def Defect.message : Defect → String
  | .weight e v => "edge EdgeId(" ++ decimalDigits e ++ ") produced an invalid weight increment of " ++
    FloatStyle.plain.render v
  | .time e v => "edge EdgeId(" ++ decimalDigits e ++ ") produced an invalid time increment of " ++
    FloatStyle.plain.render v ++ " seconds"
  | .distance e v => "edge EdgeId(" ++ decimalDigits e ++
    ") produced an invalid distance increment of " ++ FloatStyle.plain.render v ++ " meters"

/-- A successor state under construction. -/
structure Editor where
  child : State
  edge : EdgeId
  defect : Option Defect

/-- Start a successor of a state along an edge. -/
def State.edit (s : State) (e : EdgeInfo) : Editor :=
  { child := { s with
      vertex := if s.isArriveBy then e.source else e.target
      backEdge := some ⟨e.id, e.kind⟩
      back := some s }
    edge := e.id
    defect := none }

/-- One step of building a successor state. -/
inductive Edit where
  | addWeight (weight : Float)
  | addTime (seconds : Float)
  | addWalkDistance (meters : Float)
  | addRentalDistance (meters : Float)
  | setBackMode (mode : Option TravelMode)
  | setMode (mode : Option TravelMode)
  | setKind (kind : VehicleKind)
  | beginRenting (networks : Networks) (kind : VehicleKind) (floatingDropoffs : Bool)
  | endRenting
  | addRentedVehicle (station : String)
  | boardTrip (trip route pattern : String) (day : Date)
  | alightTrip
  deriving Inhabited

namespace Editor

/-- Record a defect unless one is recorded. -/
def flag (ed : Editor) (d : Defect) : Editor :=
  if ed.defect.isSome then ed else { ed with defect := some d }

/-- Change the child. -/
def update (ed : Editor) (f : State → State) : Editor := { ed with child := f ed.child }

/-- Change the child's rental facts. -/
def updateRental (ed : Editor) (f : RentalFacts → RentalFacts) : Editor :=
  ed.update fun s => { s with rental := f s.rental }

/-- Change the child's ride facts. -/
def updateRide (ed : Editor) (f : RideFacts → RideFacts) : Editor :=
  ed.update fun s => { s with ride := f s.ride }

/-- Add weight. -/
def addWeight (ed : Editor) (w : Float) : Editor :=
  if w.isNaN || w < 0 then ed.flag (.weight ed.edge w)
  else ed.update fun s => { s with weight := s.weight + w }

/-- Add time, rounded to whole seconds, backward in an arrive-by search; the 64-bit clock
wraps around. -/
def addTime (ed : Editor) (seconds : Float) : Editor :=
  if !seconds.isFinite || seconds < 0 then ed.flag (.time ed.edge seconds)
  else
    let n := Int64.ofInt (Double.roundToWord seconds)
    ed.update fun s => { s with time := if s.isArriveBy then s.time - n else s.time + n }

/-- A distance is finite and not negative. -/
def validDistance (meters : Float) : Bool := meters.isFinite && meters ≥ 0

/-- Add a walked distance. -/
def addWalkDistance (ed : Editor) (m : Float) : Editor :=
  if validDistance m then ed.update fun s => { s with walkDistance := s.walkDistance + m }
  else ed.flag (.distance ed.edge m)

/-- Add a distance ridden on the rented vehicle. -/
def addRentalDistance (ed : Editor) (m : Float) : Editor :=
  if validDistance m then ed.update fun s => { s with rentalDistance := s.rentalDistance + m }
  else ed.flag (.distance ed.edge m)

/-- Begin a rental of a vehicle of these networks and this kind: the distance ridden
starts at zero, the mode before the rental is kept, and the vehicle's mode is taken. -/
def beginRenting (ed : Editor) (networks : Networks) (kind : VehicleKind) (floating : Bool) :
    Editor :=
  ed.update fun s => { s with
    rentalDistance := 0
    mode := some kind.travelMode
    rental := { s.rental with
      preRentalMode := s.mode
      renting := true
      networks := networks
      kind := kind
      floatingDropoffs := floating } }

/-- End the rental: record it on the current side of transit and go back to the mode
before it, walking if there was none. -/
def endRenting (ed : Editor) : Editor :=
  ed.update fun s =>
    let post := s.isPostTransit
    { s with
      rentalDistance := 0
      mode := s.rental.preRentalMode.or (some .walk)
      rental := { s.rental with
        renting := false
        rentedPostTransit := post || s.rental.rentedPostTransit
        rentedPreTransit := !post || s.rental.rentedPreTransit
        preRentalMode := none
        networks := none
        floatingDropoffs := false } }

/-- Board a transit trip. -/
def boardTrip (ed : Editor) (trip route pattern : String) (day : Date) : Editor :=
  ed.update fun s => { s with
    backMode := some .transit
    ride := { s.ride with
      everBoarded := true
      boardings := (s.ride.boardings + 1) % Nat.pow 2 32
      trip := some trip
      route := some route
      pattern := some pattern
      serviceDay := some day } }

/-- Alight from a transit trip, recording the time. -/
def alightTrip (ed : Editor) : Editor :=
  ed.update fun s => { s with
    ride := { s.ride with
      trip := none
      route := none
      pattern := none
      lastAlighted := some s.time } }

/-- Take one step. -/
def apply (ed : Editor) : Edit → Editor
  | .addWeight w => ed.addWeight w
  | .addTime t => ed.addTime t
  | .addWalkDistance m => ed.addWalkDistance m
  | .addRentalDistance m => ed.addRentalDistance m
  | .setBackMode m => ed.update fun s => { s with backMode := m }
  | .setMode m => ed.update fun s => { s with mode := m }
  | .setKind k => ed.updateRental fun r => { r with kind := k }
  | .beginRenting n k f => ed.beginRenting n k f
  | .endRenting => ed.endRenting
  | .addRentedVehicle id => ed.updateRental fun r => { r with rentedVehicles := insertName id r.rentedVehicles }
  | .boardTrip t r p d => ed.boardTrip t r p d
  | .alightTrip => ed.alightTrip

/-- Take steps in order. -/
def applyAll (ed : Editor) (edits : List Edit) : Editor := edits.foldl apply ed

/-- The child, or the first defect. -/
def finish (ed : Editor) : Except Defect State :=
  match ed.defect with
  | some d => .error d
  | none => .ok ed.child

/-- The child, if it has no defect. -/
def make (ed : Editor) : Option State :=
  match ed.finish with
  | .ok s => some s
  | .error _ => none

end Editor

end RentalRouting
