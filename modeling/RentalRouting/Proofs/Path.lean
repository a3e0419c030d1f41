/-
RentalRouting/Proofs/Path.lean

Paths through the search graph.  Besides the street and rental edges of the graph, a
path may take transit edges: a transit edge moves the state along its own id and end
vertices and then only boards or alights a trip, takes time or adds weight.  A path is a
list of such edges, and running it from a state traverses them in order, stopping at the
first that refuses.  A state is reachable when some path runs to it from the state a
search starts from, in either direction.

The rental loops of a path are its pick-up and drop-off edges; `loop?` reads each as
`true` for a pick-up and `false` for a drop-off, so the loops of a path read in order are
`path.filterMap PathEdge.loop?`.

The sample ride, a pick-up, a kilometre ridden and a drop-off, is the concrete run the
later modules try their results on.
-/
import RentalRouting.Search.Edge

namespace RentalRouting

/-! ### Transit edges -/

/-- What a transit edge may do to a state: board a trip, alight from it, take time or add
weight. -/
inductive TransitEdit where
  | board (trip route pattern : String) (day : Date)
  | alight
  | wait (seconds : Float)
  | pay (weight : Float)
  deriving Inhabited

namespace TransitEdit

/-- The editor step of a transit edit. -/
def edit : TransitEdit → Edit
  | .board trip route pattern day => .boardTrip trip route pattern day
  | .alight => .alightTrip
  | .wait seconds => .addTime seconds
  | .pay weight => .addWeight weight

/-- The edit boards a trip. -/
def boards : TransitEdit → Bool
  | .board .. => true
  | _ => false

end TransitEdit

/-- An edge of a transit trip between two vertices. -/
structure TransitEdge where
  id : EdgeId
  source : VertexId
  target : VertexId
  edits : List TransitEdit
  deriving Inhabited

namespace TransitEdge

/-- What the transit edge tells about itself. -/
def info (e : TransitEdge) : EdgeInfo := ⟨e.id, .transit, e.source, e.target⟩

/-- Take the transit edge from a state. -/
def traverse (e : TransitEdge) (s : State) : Option State :=
  ((s.edit e.info).applyAll (e.edits.map TransitEdit.edit)).make

/-- The edge boards a trip. -/
def boards (e : TransitEdge) : Bool := e.edits.any TransitEdit.boards

end TransitEdge

/-! ### Paths -/

/-- An edge a path may take: one of the graph or one of a transit trip. -/
inductive PathEdge where
  | graph (e : Edge)
  | transit (e : TransitEdge)
  deriving Inhabited

namespace PathEdge

/-- What the edge tells about itself. -/
def info : PathEdge → EdgeInfo
  | .graph e => e.info
  | .transit e => e.info

/-- Traverse the edge from a state. -/
def traverse : PathEdge → State → Option State
  | .graph e => e.traverse
  | .transit e => e.traverse

/-- The edge boards a transit trip. -/
def boards : PathEdge → Bool
  | .transit e => e.boards
  | .graph _ => false

/-- A rental loop read as `true` for a pick-up and `false` for a drop-off. -/
def loop? : PathEdge → Option Bool
  | .graph (.pickup _) => some true
  | .graph (.dropoff _) => some false
  | _ => none

/-- The edge is a rental loop. -/
def isLoop (e : PathEdge) : Bool := e.loop?.isSome

/-- The edge is a link between a station and the street. -/
def isLink : PathEdge → Bool
  | .graph (.link _) => true
  | _ => false

/-- What a rental loop does in a search of the given direction: `some true` where it begins
a rental, `some false` where it ends one.  Forward a pick-up begins and a drop-off ends;
backward the roles swap. -/
def rentalMove (arriveBy : Bool) (e : PathEdge) : Option Bool :=
  e.loop?.map (· != arriveBy)

/-- The length of a street. -/
def streetLength? : PathEdge → Option Float
  | .graph (.street e) => some e.length
  | _ => none

/-- The station a pick-up takes a vehicle from. -/
def pickupId? : PathEdge → Option String
  | .graph (.pickup e) => some e.station.id
  | _ => none

end PathEdge

/-- The rental moves along a path, in order: `true` for each loop that begins a rental,
`false` for each that ends one. -/
def rentalMoves (arriveBy : Bool) (path : List PathEdge) : List Bool :=
  path.filterMap (PathEdge.rentalMove arriveBy)

/-- The stations of the pick-ups along a path, in order. -/
def pickupIds (path : List PathEdge) : List String := path.filterMap PathEdge.pickupId?

@[simp] theorem rentalMoves_nil (arriveBy : Bool) : rentalMoves arriveBy [] = [] := rfl

@[simp] theorem rentalMoves_cons (arriveBy : Bool) (e : PathEdge) (path : List PathEdge) :
    rentalMoves arriveBy (e :: path) = (e.rentalMove arriveBy).toList ++ rentalMoves arriveBy path := by
  unfold rentalMoves
  cases h : e.rentalMove arriveBy <;> simp [h]

@[simp] theorem rentalMoves_append (arriveBy : Bool) (path path' : List PathEdge) :
    rentalMoves arriveBy (path ++ path') = rentalMoves arriveBy path ++ rentalMoves arriveBy path' :=
  List.filterMap_append

/-- The lengths of the streets along a path, in order. -/
def streetLengths (path : List PathEdge) : List Float := path.filterMap PathEdge.streetLength?

@[simp] theorem streetLengths_nil : streetLengths [] = [] := rfl

@[simp] theorem streetLengths_cons (e : PathEdge) (path : List PathEdge) :
    streetLengths (e :: path) = e.streetLength?.toList ++ streetLengths path := by
  unfold streetLengths
  cases h : e.streetLength? <;> simp [h]

theorem streetLengths_reverse (path : List PathEdge) :
    streetLengths path.reverse = (streetLengths path).reverse :=
  List.filterMap_reverse

@[simp] theorem pickupIds_nil : pickupIds [] = [] := rfl

@[simp] theorem pickupIds_cons (e : PathEdge) (path : List PathEdge) :
    pickupIds (e :: path) = e.pickupId?.toList ++ pickupIds path := by
  unfold pickupIds
  cases h : e.pickupId? <;> simp [h]

@[simp] theorem pickupIds_append (path path' : List PathEdge) :
    pickupIds (path ++ path') = pickupIds path ++ pickupIds path' :=
  List.filterMap_append

theorem pickupIds_reverse (path : List PathEdge) :
    pickupIds path.reverse = (pickupIds path).reverse :=
  List.filterMap_reverse

namespace State

/-- Traverse the edges of a path in order: the last state, or none when an edge refuses. -/
def run (s : State) : List PathEdge → Option State
  | [] => some s
  | e :: es => (e.traverse s).bind fun t => t.run es

@[simp] theorem run_nil (s : State) : s.run [] = some s := rfl

theorem run_cons (s : State) (e : PathEdge) (es : List PathEdge) :
    s.run (e :: es) = (e.traverse s).bind fun t => t.run es := rfl

theorem run_append (s : State) (es fs : List PathEdge) :
    s.run (es ++ fs) = (s.run es).bind fun t => t.run fs := by
  induction es generalizing s with
  | nil => rfl
  | cons e es ih =>
    simp only [List.cons_append, run_cons, ih]
    cases e.traverse s <;> rfl

theorem run_append_eq_some {s u : State} {es fs : List PathEdge} :
    s.run (es ++ fs) = some u ↔ ∃ t, s.run es = some t ∧ t.run fs = some u := by
  rw [run_append, Option.bind_eq_some_iff]

theorem run_cons_eq_some {s u : State} {e : PathEdge} {es : List PathEdge} :
    s.run (e :: es) = some u ↔ ∃ t, e.traverse s = some t ∧ t.run es = some u := by
  rw [run_cons, Option.bind_eq_some_iff]

theorem run_singleton (s : State) (e : PathEdge) : s.run [e] = e.traverse s := by
  rw [run_cons]
  cases e.traverse s <;> rfl

/-- The states a search reaches: its first state, and every state an edge leads to from a
reachable one. -/
inductive Reachable : State → Prop
  | origin (vertex : VertexId) (time : Int64) (request : Request) :
      Reachable (State.origin vertex time request)
  | step {s t : State} (e : PathEdge) : Reachable s → e.traverse s = some t → Reachable t

theorem Reachable.run {s t : State} {es : List PathEdge} (hs : s.Reachable)
    (h : s.run es = some t) : t.Reachable := by
  induction es generalizing s with
  | nil =>
    cases h
    exact hs
  | cons e es ih =>
    obtain ⟨u, hu, hrest⟩ := run_cons_eq_some.1 h
    exact ih (hs.step e hu) hrest

/-- A state is reachable exactly when a path runs to it from a first state. -/
theorem reachable_iff_run {t : State} :
    t.Reachable ↔ ∃ vertex time request es, (State.origin vertex time request).run es = some t := by
  constructor
  · intro h
    induction h with
    | origin vertex time request => exact ⟨vertex, time, request, [], rfl⟩
    | step e _ hstep ih =>
      obtain ⟨vertex, time, request, es, hrun⟩ := ih
      refine ⟨vertex, time, request, es ++ [e], ?_⟩
      rw [run_append, hrun, Option.bind_some, run_singleton, hstep]
  · rintro ⟨vertex, time, request, es, hrun⟩
    exact (Reachable.origin vertex time request).run hrun

end State

/-! ### A sample ride -/

/-- A request with rental on and every other field at its default. -/
def sampleRequest : Request := { allowRental := true }

/-- Two stations with no limits and vehicles of unknown kind. -/
def sampleStationA : Station := { id := "a", name := ⟨"a", []⟩, x := 1, y := 1 }

def sampleStationB : Station := { id := "b", name := ⟨"b", []⟩, x := 2, y := 2 }

/-- Pick up at one station, ride a kilometre, drop off at the other. -/
def sampleRide : List PathEdge :=
  [.graph (.pickup ⟨0, 1, sampleStationA⟩),
   .graph (.street ⟨1, 1, 2, 1000, { walk := true, micromobility := true }⟩),
   .graph (.dropoff ⟨2, 2, sampleStationB⟩)]

end RentalRouting
