/-
RentalRouting/Rental/Traverse.lean

The edges of a rental station: the pick-up and drop-off loops at the station's vertex and
the links between the station and the street.

A pick-up needs rental allowed by the request and pick-up by the station, a vehicle there,
a station not yet rented from, and a permitted station.  Forward, it begins a rental of the
station's vehicle unless the state is renting or has already rented on this side of
transit.  Backward, it ends the rental being traced: the state must be renting a compatible
vehicle of compatible networks, a rental that did not begin at a border must have ridden
the minimum distance, and one that began at a border must end at a floating vehicle; the
mode goes back to the one before the rental.  Either way it costs the pick-up cost and time
and records the station.

A drop-off needs rental allowed by the request and drop-off by the station, a permitted
station, a state allowed to drop off here, and a space.  Forward, it ends the rental of a
compatible vehicle of compatible networks; backward, it begins tracing a rental of the
station's vehicle, which may have been dropped outside a station when this is a border
drop-off.  It costs the drop-off cost and time.

A link needs rental allowed by the request and may not follow another link.  It costs
nothing and keeps the mode.
-/
import RentalRouting.Search.Editor
import RentalRouting.Rental.Permit

namespace RentalRouting

/-- A pick-up loop at a station's vertex. -/
structure PickupEdge where
  id : EdgeId
  vertex : VertexId
  station : Station
  deriving Inhabited

/-- A drop-off loop at a station's vertex. -/
structure DropoffEdge where
  id : EdgeId
  vertex : VertexId
  station : Station
  deriving Inhabited

/-- A link between a station's vertex and the street. -/
structure LinkEdge where
  id : EdgeId
  source : VertexId
  target : VertexId
  station : Station
  deriving Inhabited

namespace PickupEdge

/-- What the pick-up edge tells about itself. -/
def info (e : PickupEdge) : EdgeInfo := ⟨e.id, .rentOn, e.vertex, e.vertex⟩

/-- Pick up a vehicle from a state. -/
def traverse (e : PickupEdge) (s : State) : Option State := do
  let r := s.request
  let st := e.station
  if !r.allowRental || !st.allowPickup then none
  if !r.hasVehicleToRent st then none
  if s.rental.rentedVehicles.contains st.id then none
  if !r.permits st then none
  let ed := s.edit e.info
  let ed ← match r.direction with
    | .departAt =>
      if s.rental.renting || s.completedOnCurrentSide then none
      else some (ed.beginRenting st.networks st.kind st.isFloating)
    | .arriveBy =>
      if !s.rental.renting then none
      else if !s.rental.kind.compatible st.kind then none
      else if !networksCompatible s.rental.networks st.networks then none
      else if !s.rental.floatingDropoffs && s.rentalDistance < r.minimumRentalDistance then none
      else if s.rental.floatingDropoffs && !st.isFloating then none
      else some ((ed.apply (.setKind st.kind)).endRenting.apply (.setBackMode s.rental.preRentalMode))
  let ed := ed.addWeight r.pickupCost |>.addTime r.pickupTime
  (ed.apply (.addRentedVehicle st.id)).make

end PickupEdge

namespace DropoffEdge

/-- What the drop-off edge tells about itself. -/
def info (e : DropoffEdge) : EdgeInfo := ⟨e.id, .rentOff, e.vertex, e.vertex⟩

/-- Drop off a vehicle from a state. -/
def traverse (e : DropoffEdge) (s : State) : Option State := do
  let r := s.request
  let st := e.station
  if !r.allowRental || !st.allowDropoff then none
  if !r.permits st then none
  if !s.dropoffAllowed st.isBorderDropoff then none
  if !r.hasSpaceToPark st then none
  let ed := s.edit e.info
  let ed ← match r.direction with
    | .departAt =>
      if !s.rental.kind.compatible st.kind then none
      else if !networksCompatible s.rental.networks st.networks then none
      else some (ed.endRenting.apply (.setBackMode s.mode))
    | .arriveBy => some (ed.beginRenting st.networks st.kind st.isBorderDropoff)
  (ed.addWeight r.dropoffCost |>.addTime r.dropoffTime).make

end DropoffEdge

namespace LinkEdge

/-- What the link tells about itself. -/
def info (e : LinkEdge) : EdgeInfo := ⟨e.id, .rentalLink, e.source, e.target⟩

/-- Cross the link from a state. -/
def traverse (e : LinkEdge) (s : State) : Option State := do
  if !s.request.allowRental then none
  if s.backEdge.any (·.kind == .rentalLink) then none
  ((s.edit e.info).apply (.setBackMode s.mode)).make

/-- The least weight of the link: nothing when the request allows the mode of the
station's vehicles, infinite otherwise. -/
def weightLowerBound (e : LinkEdge) (r : Request) : Float :=
  if r.modes.contains e.station.kind.travelMode then 0 else 1 / 0

end LinkEdge

end RentalRouting
