/-
RentalRouting/Station/Service.lean

The station service: the stations known by id and the regions known by network.  Adding a
station replaces the one of its id, adding a region the one of its network.  A network
without a region allows drop-offs everywhere.  A query answers the summaries of the
matching stations in id order.
-/
import RentalRouting.Station.Query
import RentalRouting.Station.Region
import RentalRouting.Rental.Table

namespace RentalRouting

/-- The stations and regions of a service. -/
structure Service where
  /-- Stations in id order, one per id. -/
  stations : List Station := []
  /-- Regions in network order, one per network. -/
  regions : List Region := []
  deriving Inhabited

namespace Service

/-- Add a station, answering the one it replaced. -/
def addStation (sv : Service) (st : Station) : Service × Option Station :=
  let (stations, old) := Table.put Station.id st sv.stations
  ({ sv with stations := stations }, old)

/-- Remove a station by id, answering it. -/
def removeStation (sv : Service) (id : String) : Service × Option Station :=
  let (stations, old) := Table.take Station.id id sv.stations
  ({ sv with stations := stations }, old)

/-- The station of an id. -/
def station? (sv : Service) (id : String) : Option Station := Table.find? Station.id id sv.stations

/-- The ids of the stations in order. -/
def ids (sv : Service) : List String := sv.stations.map Station.id

/-- Add a region, replacing the one of its network. -/
def addRegion (sv : Service) (r : Region) : Service :=
  { sv with regions := (Table.put Region.network r sv.regions).1 }

/-- Remove the region of a network, answering it. -/
def removeRegion (sv : Service) (network : String) : Service × Option Region :=
  let (regions, old) := Table.take Region.network network sv.regions
  ({ sv with regions := regions }, old)

/-- The region of a network. -/
def region? (sv : Service) (network : String) : Option Region :=
  Table.find? Region.network network sv.regions

/-- The networks with a region, in order. -/
def regionNetworks (sv : Service) : List String := sv.regions.map Region.network

/-- A vehicle of the network may be dropped off at `(x, y)`. -/
def regionAllowsDropoff (sv : Service) (network : String) (x y : Float) : Bool :=
  match Table.find? Region.network network sv.regions with
  | some r => r.contains x y
  | none => true

/-- The summaries of the stations that answer a query, in id order. -/
def query (sv : Service) (q : Query) : List Summary :=
  (sv.stations.filter q.accepts).map (·.summary q.locale)

end Service

end RentalRouting
