/-
RentalRouting/Search/State.lean

Search states.  A state is where and when a search stands (vertex, time in seconds, weight)
with the state it came from and the edge it came by, the request it serves, the mode it
travels in, what it knows about rental vehicles, what it knows about transit rides, and
the distances walked and ridden on the current rented vehicle.  Times are signed 64-bit
words: a sum past either end wraps around, and so does the elapsed time, whose absolute
value keeps the least word as it is.

A depart-at search moves forward in time and an arrive-by search backward.  A state is
past transit when exactly one of "has boarded" and "searches backward" holds: a depart-at
search is past transit after boarding, an arrive-by one before.  A rental may end (a
vehicle may be dropped off) in a depart-at search only while renting, at a border drop-off
only if the vehicle allows floating drop-offs and elsewhere only after the request's
minimum rental distance; in an arrive-by search, where drop-offs come first, only while not
renting and before the rental of the current side of transit.
-/
import RentalRouting.Request.Basic
import RentalRouting.Search.Ids
import RentalRouting.Search.Date

namespace RentalRouting

/-- What a state knows about rented vehicles. -/
structure RentalFacts where
  /-- A rented vehicle is in use. -/
  renting : Bool := false
  /-- The networks of the vehicle in use; `none` also when no vehicle is in use. -/
  networks : Networks := none
  /-- The kind of the vehicle in use, or of the last one. -/
  kind : VehicleKind := .unknown
  /-- The vehicle in use may be dropped off outside a station. -/
  floatingDropoffs : Bool := false
  /-- The mode before the rental began. -/
  preRentalMode : Option TravelMode := none
  /-- A rental ended before transit. -/
  rentedPreTransit : Bool := false
  /-- A rental ended after transit. -/
  rentedPostTransit : Bool := false
  /-- The stations vehicles were picked up at, in code point order. -/
  rentedVehicles : List String := []
  deriving Repr, Inhabited

/-- What a state knows about transit rides. -/
structure RideFacts where
  everBoarded : Bool := false
  /-- Boardings so far, an unsigned 32-bit count. -/
  boardings : Nat := 0
  trip : Option String := none
  route : Option String := none
  pattern : Option String := none
  serviceDay : Option Date := none
  lastAlighted : Option Int64 := none
  deriving Repr, Inhabited

/-- A search state. -/
structure State where
  time : Int64
  weight : Float
  vertex : VertexId
  backEdge : Option BackEdge
  back : Option State
  request : Request
  startTime : Int64
  /-- The mode the search travels in off transit. -/
  mode : Option TravelMode
  /-- The mode of the edge the state was reached by. -/
  backMode : Option TravelMode
  rental : RentalFacts
  ride : RideFacts
  /-- Meters walked. -/
  walkDistance : Float
  /-- Meters ridden on the vehicle in use. -/
  rentalDistance : Float

namespace State

/-- The state a search starts from. -/
def origin (vertex : VertexId) (time : Int64) (request : Request) : State :=
  { time := time, weight := 0, vertex := vertex, backEdge := none, back := none,
    request := request, startTime := time, mode := request.initialMode, backMode := none,
    rental := {}, ride := {}, walkDistance := 0, rentalDistance := 0 }

/-- The search runs backward from an arrival. -/
def isArriveBy (s : State) : Bool := s.request.isArriveBy

/-- Seconds between the start and this state: the absolute value of the difference, both
taken as 64-bit words. -/
def elapsed (s : State) : Int64 := (s.time - s.startTime).abs

/-- The state is past transit in the order of the search. -/
def isPostTransit (s : State) : Bool := s.ride.everBoarded != s.isArriveBy

/-- A rental has ended on the side of transit the state is on. -/
def completedOnCurrentSide (s : State) : Bool :=
  if s.isPostTransit then s.rental.rentedPostTransit else s.rental.rentedPreTransit

/-- A rented vehicle may be dropped off here, at a border drop-off or elsewhere. -/
def dropoffAllowed (s : State) (borderDropoff : Bool) : Bool :=
  match s.request.direction with
  | .departAt =>
    if !s.rental.renting then false
    else if borderDropoff then s.rental.floatingDropoffs
    else s.rentalDistance ≥ s.request.minimumRentalDistance
  | .arriveBy => !s.rental.renting && !s.completedOnCurrentSide

theorem sizeOf_back_lt {s b : State} (h : s.back = some b) : sizeOf b < sizeOf s := by
  cases s with
  | mk time weight vertex backEdge back request startTime mode backMode rental ride
      walkDistance rentalDistance =>
    simp only at h
    subst h
    simp only [State.mk.sizeOf_spec, Option.some.sizeOf_spec]
    omega

/-- The states from this one back to the origin. -/
def chain (s : State) : List State :=
  match h : s.back with
  | some b =>
    have _ : sizeOf b < sizeOf s := sizeOf_back_lt h
    s :: b.chain
  | none => [s]
termination_by sizeOf s

end State

end RentalRouting
