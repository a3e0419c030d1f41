/-
RentalRouting/Station/Region.lean

Rental regions: the area of a network where its vehicles may be dropped off, a set of
polygons.  A point is in the region when one of its polygons contains it, its boundary
excluded.
-/
import RentalRouting.Geometry.Polygon

namespace RentalRouting

/-- The drop-off area of a network. -/
structure Region where
  network : String
  polygons : List Polygon
  deriving Inhabited

namespace Region

/-- The region as text. -/
def display (r : Region) : String := "Vehicle rental region for network " ++ r.network

/-- The region holds the point `(x, y)`. -/
def contains (r : Region) (x y : Float) : Bool := polygonsContain r.polygons ⟨x, y⟩

end Region

end RentalRouting
