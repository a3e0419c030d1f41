/-
RentalRouting/Geometry/GeoJson.lean

GeoJSON read from JSON objects.  A feature collection is an object of type
`FeatureCollection` with an optional numeric `bbox` (absent or `null` for none) and an array `features` of feature
objects.  A feature is an object of type `Feature` with a `geometry` (an object, or `null`
for none), optional `properties` (an object or `null`), an optional `id` (a number or a
string) and an optional `bbox`.  A geometry has an optional `bbox`, a `type` and, by type,
`coordinates` (a position, or arrays of positions nested one to three deep) or
`geometries` (an array of geometry objects).  A position is an array of two or more
numbers.  Every object is checked in this order and the first failure is the error.

A polygon keeps the first two coordinates of its positions: its first ring is the exterior
(no ring makes an empty one) and the others are holes.
-/
import RentalRouting.Json.Write
import RentalRouting.Geometry.Polygon

namespace RentalRouting

open Json

/-- Why JSON is not the GeoJSON wanted. -/
inductive GeoJsonError where
  | bboxNotArray (found : Json)
  | bboxNotNumeric
  | notString (found : Json)
  | missingProperty (name : String)
  | wrongType (expected actual : String)
  | notFeature (actual : String)
  | unknownGeometry (actual : String)
  | badProperties (found : Json)
  | badGeometry (found : Json)
  | badId (found : Json)
  | notNumber
  | notArray (found : String)
  | notObject (found : Json)
  | positionTooShort (length : Nat)

/-- The text of a GeoJSON error. -/
def GeoJsonError.message : GeoJsonError → String
  | .bboxNotArray v => "Encountered non-array value for a 'bbox' object: `" ++ compact v ++ "`"
  | .bboxNotNumeric => "Encountered non-numeric value within 'bbox' array"
  | .notString v => "Expected a String value, but got a `" ++ compact v ++ "`"
  | .missingProperty n => "Expected a GeoJSON property for `" ++ n ++ "`, but got None"
  | .wrongType e a => "Expected GeoJSON type `" ++ e ++ "`, found `" ++ a ++ "`"
  | .notFeature a => "Expected a Feature mapping, but got a `" ++ a ++ "`"
  | .unknownGeometry a => "Encountered an unknown 'geometry' object type: `" ++ a ++ "`"
  | .badProperties v =>
    "Encountered neither object type nor null type for 'properties' object: `" ++ compact v ++ "`"
  | .badGeometry v =>
    "Encountered neither object type nor null type for 'geometry' field on 'feature' object: `" ++
      compact v ++ "`"
  | .badId v =>
    "Encountered neither number type nor string type for 'id' field on 'feature' object: `" ++
      compact v ++ "`"
  | .notNumber => "Expected a floating-point value, but got None"
  | .notArray a => "Expected an Array value, but got `" ++ a ++ "`"
  | .notObject v => "Expected an owned Object, but got `" ++ compact v ++ "`"
  | .positionTooShort n =>
    "A position must contain two or more elements, but got `" ++ decimalDigits n ++ "`"

/-- The numbers of a position. -/
abbrev Coordinates := List Float

/-- A GeoJSON geometry. -/
inductive Shape where
  | point (position : Coordinates)
  | multiPoint (positions : List Coordinates)
  | lineString (positions : List Coordinates)
  | multiLineString (lines : List (List Coordinates))
  | polygon (rings : List (List Coordinates))
  | multiPolygon (polygons : List (List (List Coordinates)))
  | collection (members : List Shape)

/-- Reading GeoJSON. -/
abbrev GeoResult := Except GeoJsonError

namespace GeoJson

/-- A property that must be there. -/
def property (fields : List (String × Json)) (name : String) : GeoResult Json :=
  match lookup name fields with
  | some v => .ok v
  | none => .error (.missingProperty name)

/-- The type of an object. -/
def typeName (fields : List (String × Json)) : GeoResult String := do
  match ← property fields "type" with
  | .string s => pure s
  | v => throw (.notString v)

/-- A bounding box, if there is one, is an array of numbers; `null` is none. -/
def checkBbox (fields : List (String × Json)) : GeoResult Unit :=
  match lookup "bbox" fields with
  | none => .ok ()
  | some .null => .ok ()
  | some (.array xs) =>
    if xs.all (fun | .number _ => true | _ => false) then .ok () else .error .bboxNotNumeric
  | some v => .error (.bboxNotArray v)

/-- The items of a value that must be an array, named by kind otherwise. -/
def ownedArray : Json → GeoResult (List Json)
  | .array xs => .ok xs
  | .null => .error (.notArray "Null")
  | .bool _ => .error (.notArray "Bool")
  | .number _ => .error (.notArray "Number")
  | .string _ => .error (.notArray "String")
  | .object _ => .error (.notArray "Object")

/-- The items of a value that must be an array of coordinates. -/
def items : Json → GeoResult (List Json)
  | .array xs => .ok xs
  | _ => .error (.notArray "None")

/-- A coordinate. -/
def number : Json → GeoResult Float
  | .number n => .ok n.toFloat
  | _ => .error .notNumber

/-- A position: two or more numbers. -/
def position (j : Json) : GeoResult Coordinates := do
  let xs ← items j
  if xs.length < 2 then throw (.positionTooShort xs.length)
  xs.mapM number

/-- An array of positions. -/
def positions (j : Json) : GeoResult (List Coordinates) := do (← items j).mapM position

/-- An array of arrays of positions. -/
def lines (j : Json) : GeoResult (List (List Coordinates)) := do (← items j).mapM positions

/-- An array of arrays of arrays of positions. -/
def surfaces (j : Json) : GeoResult (List (List (List Coordinates))) := do (← items j).mapM lines

mutual

/-- The geometry of a JSON object. -/
def shape : Json → GeoResult Shape
  | .object fields => do
    checkBbox fields
    match ← typeName fields with
    | "Point" => return .point (← position (← property fields "coordinates"))
    | "MultiPoint" => return .multiPoint (← positions (← property fields "coordinates"))
    | "LineString" => return .lineString (← positions (← property fields "coordinates"))
    | "MultiLineString" => return .multiLineString (← lines (← property fields "coordinates"))
    | "Polygon" => return .polygon (← lines (← property fields "coordinates"))
    | "MultiPolygon" => return .multiPolygon (← surfaces (← property fields "coordinates"))
    | "GeometryCollection" => return .collection (← membersIn fields)
    | t => throw (.unknownGeometry t)
  | j => throw (.notObject j)

/-- The members of a geometry collection, from its `geometries` property. -/
def membersIn : List (String × Json) → GeoResult (List Shape)
  | [] => throw (.missingProperty "geometries")
  | (k, v) :: rest => if k = "geometries" then membersOf v else membersIn rest

/-- The members of a geometry collection, from an array of geometry objects. -/
def membersOf : Json → GeoResult (List Shape)
  | .array js => shapes js
  | j => do
    let _ ← ownedArray j
    pure []

/-- Geometries of JSON objects. -/
def shapes : List Json → GeoResult (List Shape)
  | [] => pure []
  | j :: rest => return (← shape j) :: (← shapes rest)

end

/-- The geometry of a feature object; `none` for a null geometry. -/
def featureShape : Json → GeoResult (Option Shape)
  | .object fields => do
    match ← typeName fields with
    | "Feature" =>
      let g ← match ← property fields "geometry" with
        | .object gs => some <$> shape (.object gs)
        | .null => pure none
        | v => throw (.badGeometry v)
      match lookup "properties" fields with
      | none | some .null | some (.object _) => pure ()
      | some v => throw (.badProperties v)
      match lookup "id" fields with
      | none | some (.number _) | some (.string _) => pure ()
      | some v => throw (.badId v)
      checkBbox fields
      return g
    | t => throw (.notFeature t)
  | j => throw (.notObject j)

/-- The geometries of the features of a feature collection object, in order. -/
def collectionShapes (fields : List (String × Json)) : GeoResult (List (Option Shape)) := do
  match ← typeName fields with
  | "FeatureCollection" =>
    checkBbox fields
    let features ← ownedArray (← property fields "features")
    features.mapM featureShape
  | t => throw (.wrongType "FeatureCollection" t)

end GeoJson

namespace Shape

/-- A ring of the first two coordinates of positions. -/
def ring (ps : List Coordinates) : Ring := ps.map fun p => ⟨p.getD 0 0, p.getD 1 0⟩

/-- A polygon of rings of positions. -/
def polygonOf : List (List Coordinates) → Polygon
  | [] => Polygon.ofRings [] []
  | e :: hs => Polygon.ofRings (ring e) (hs.map ring)

/-- The polygons of a polygonal geometry, `none` for any other. -/
def polygons? : Shape → Option (List Polygon)
  | .polygon rings => some [polygonOf rings]
  | .multiPolygon ps => some (ps.map polygonOf)
  | _ => none

end Shape

end RentalRouting
