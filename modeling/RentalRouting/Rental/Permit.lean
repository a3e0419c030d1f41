/-
RentalRouting/Rental/Permit.lean

Whether a request may rent from a station.  An empty list in the request counts as no
list.  A provider whitelist needs the station's networks to meet it and a provider
blacklist rejects a station all of whose networks it holds (so also one with no network);
a station of every network passes both.  A vehicle whitelist needs the station's kind in
it and a vehicle blacklist needs it not in it.  When the request enforces availability, a
tracked count of vehicles (for a pick-up) or spaces (for a drop-off) must be positive.
-/
import RentalRouting.Station.Basic
import RentalRouting.Request.Basic

namespace RentalRouting

namespace Request

/-- A list that counts: present and not empty. -/
def active {α : Type} : Option (List α) → Option (List α)
  | some (x :: xs) => some (x :: xs)
  | _ => none

/-- The request may rent from the station's networks and its kind of vehicle. -/
def permits (r : Request) (s : Station) : Bool :=
  let providersOk := match active r.allowedProviders, s.networks with
    | some allowed, some names => names.any (allowed.contains ·)
    | _, _ => true
  let notBanned := match active r.bannedProviders, s.networks with
    | some banned, some names => !names.all (banned.contains ·)
    | _, _ => true
  let kindAllowed := match active r.allowedVehicles with
    | some kinds => kinds.contains s.kind
    | none => true
  let kindNotBanned := match active r.bannedVehicles with
    | some kinds => !kinds.contains s.kind
    | none => true
  providersOk && notBanned && kindAllowed && kindNotBanned

/-- A tracked count must be positive when availability is enforced. -/
def available (r : Request) : Option Nat → Bool
  | some n => !r.useAvailability || 0 < n
  | none => true

/-- The station has a vehicle to rent, as far as the request looks. -/
def hasVehicleToRent (r : Request) (s : Station) : Bool := r.available s.vehiclesAvailable

/-- The station has a space to park, as far as the request looks. -/
def hasSpaceToPark (r : Request) (s : Station) : Bool := r.available s.spacesAvailable

end Request

end RentalRouting
