/-
RentalRouting/Search/Edge.lean

The edges a search traverses: streets and the edges of rental stations.  An edge has a
length (zero but for streets), a least weight (zero but for links) and a least time (zero
but for streets).  A rental station's vertex has four edges, numbered from a first id: the
link from the street to the station, the link back, the pick-up loop and the drop-off
loop.
-/
import RentalRouting.Search.Street
import RentalRouting.Rental.Traverse

namespace RentalRouting

/-- An edge of the graph. -/
inductive Edge where
  | street (e : StreetEdge)
  | pickup (e : PickupEdge)
  | dropoff (e : DropoffEdge)
  | link (e : LinkEdge)
  deriving Inhabited

namespace Edge

/-- What the edge tells about itself. -/
def info : Edge → EdgeInfo
  | .street e => e.info
  | .pickup e => e.info
  | .dropoff e => e.info
  | .link e => e.info

/-- Traverse the edge from a state. -/
def traverse : Edge → State → Option State
  | .street e => e.traverse
  | .pickup e => e.traverse
  | .dropoff e => e.traverse
  | .link e => e.traverse

/-- The length of the edge in meters. -/
def distance : Edge → Float
  | .street e => e.length
  | _ => 0

/-- The least weight of traversing the edge. -/
def weightLowerBound (r : Request) : Edge → Float
  | .link e => e.weightLowerBound r
  | _ => 0

/-- The least time of traversing the edge, in seconds. -/
def timeLowerBound (r : Request) : Edge → Float
  | .street e => e.timeLowerBound r
  | _ => 0

/-- The station of a rental edge. -/
def station? : Edge → Option Station
  | .street _ => none
  | .pickup e => some e.station
  | .dropoff e => some e.station
  | .link e => some e.station

end Edge

/-- The vertex of a rental station. -/
structure StationVertex where
  vertex : VertexId
  station : Station
  deriving Inhabited

namespace StationVertex

/-- The label of a station vertex. -/
def label (v : StationVertex) : String := "vehicle rental station " ++ v.station.id

/-- The four edges of a station vertex joined to a street vertex. -/
def edges (v : StationVertex) (street : VertexId) (first : EdgeId) : List Edge :=
  [.link ⟨first.after 0, street, v.vertex, v.station⟩,
   .link ⟨first.after 1, v.vertex, street, v.station⟩,
   .pickup ⟨first.after 2, v.vertex, v.station⟩,
   .dropoff ⟨first.after 3, v.vertex, v.station⟩]

end StationVertex

end RentalRouting
