/-
RentalRouting/Search/Path.lean

Paths recovered from a final search state by following back states to the origin.  The
states are listed from the origin on for a depart-at search and in search order (from the
final state back to the origin) for an arrive-by one, so that either way they come in time
order while no time has wrapped around.  A path's duration is its last time minus its first,
as 64-bit words, and its weight the largest weight of its states (at least zero).

Rental episodes are read off the back edges: a pick-up edge opens an episode (closing an
open one without a drop-off), with the vehicle kind and time of the state it reached and the
station that state added to its rented vehicles; a drop-off edge closes the open episode at
its time.
-/
import RentalRouting.Search.State

namespace RentalRouting

/-- One rental of a vehicle along a path. -/
structure Episode where
  pickupStation : Option String
  kind : VehicleKind
  pickupTime : Int64
  dropoffTime : Option Int64
  deriving Repr, Inhabited

/-- The states of a path in its order. -/
structure Path where
  states : List State

namespace Path

/-- The path that ends (in search order) at a state. -/
def ofState (last : State) : Path :=
  if last.isArriveBy then ⟨last.chain⟩ else ⟨last.chain.reverse⟩

/-- The time of the first state. -/
def startTime (p : Path) : Option Int64 := p.states.head?.map (·.time)

/-- The time of the last state. -/
def endTime (p : Path) : Option Int64 := p.states.getLast?.map (·.time)

/-- The last time minus the first, as 64-bit words. -/
def duration (p : Path) : Int64 :=
  match p.startTime, p.endTime with
  | some a, some b => b - a
  | _, _ => 0

/-- The larger of two doubles, the other one when one is not a number. -/
def maxWeight (a b : Float) : Float :=
  if a.isNaN then b else if b.isNaN then a else if a < b then b else a

/-- The largest weight of the states, starting from zero. -/
def weight (p : Path) : Float := p.states.foldl (fun w s => maxWeight w s.weight) 0

/-- The back edges of the states, in path order. -/
def backEdges (p : Path) : List BackEdge := p.states.filterMap (·.backEdge)

/-- The station a state added to the rented vehicles of its back state. -/
def addedStation (s : State) : Option String :=
  s.back.bind fun b => s.rental.rentedVehicles.find? (fun id => !b.rental.rentedVehicles.contains id)

/-- Read the episodes of states, with the current episode and the closed ones (latest
first). -/
def collectEpisodes : List State → Option Episode → List Episode → List Episode
  | [], current, done => (current.toList ++ done).reverse
  | s :: rest, current, done =>
    match s.backEdge with
    | some ⟨_, .rentOn⟩ =>
      collectEpisodes rest (some ⟨addedStation s, s.rental.kind, s.time, none⟩)
        (current.toList ++ done)
    | some ⟨_, .rentOff⟩ =>
      match current with
      | some e => collectEpisodes rest none ({ e with dropoffTime := some s.time } :: done)
      | none => collectEpisodes rest none done
    | _ => collectEpisodes rest current done

/-- The rental episodes of the path in path order. -/
def episodes (p : Path) : List Episode := collectEpisodes p.states none []

end Path

end RentalRouting
