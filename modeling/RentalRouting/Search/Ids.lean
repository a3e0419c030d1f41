/-
RentalRouting/Search/Ids.lean

Vertices and edges of the street and transit graph.  Ids are machine words: an edge id
plus an offset wraps around at `2 ^ 64`.  An edge has a kind, and what a search records
about the edge it arrived by is the pair of its id and kind.
-/
namespace RentalRouting

/-- A vertex of the graph, by number. -/
abbrev VertexId := Nat

/-- An edge of the graph, by number. -/
abbrev EdgeId := Nat

/-- The id `offset` places after another, wrapping around at `2 ^ 64`. -/
def EdgeId.after (id : EdgeId) (offset : Nat) : EdgeId := (id + offset) % Nat.pow 2 64

/-- The kinds of edges. -/
inductive EdgeKind where
  | street
  | transit
  | rentalLink
  | rentOn
  | rentOff
  deriving DecidableEq, Repr, Inhabited

namespace EdgeKind

/-- The key of an edge kind. -/
def key : EdgeKind → String
  | .street => "street"
  | .transit => "transit"
  | .rentalLink => "street_vehicle_rental_link"
  | .rentOn => "rent_a_vehicle_on"
  | .rentOff => "rent_a_vehicle_off"

/-- Every kind of edge. -/
def all : List EdgeKind := [.street, .transit, .rentalLink, .rentOn, .rentOff]

/-- The kind whose key is this text. -/
def ofKey? (s : String) : Option EdgeKind := all.find? (·.key = s)

end EdgeKind

/-- The edge a state was reached by. -/
structure BackEdge where
  id : EdgeId
  kind : EdgeKind
  deriving DecidableEq, Repr, Inhabited

/-- What every edge tells about itself: id, kind and end vertices. -/
structure EdgeInfo where
  id : EdgeId
  kind : EdgeKind
  source : VertexId
  target : VertexId
  deriving DecidableEq, Repr, Inhabited

end RentalRouting
