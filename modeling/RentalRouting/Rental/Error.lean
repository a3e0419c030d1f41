/-
RentalRouting/Rental/Error.lean

Why rental data could not be read or queried: a feed file could not be read or decoded,
its geofencing zones are not polygons, a query corner is not a latitude and longitude, or
a data source is configured wrongly.
-/
namespace RentalRouting

/-- An error of rental data. -/
inductive RentalError where
  /-- A feed file could not be read; `detail` is the system's reason. -/
  | io (path detail : String)
  /-- A feed file is not a feed; `detail` says where and why. -/
  | json (path detail : String)
  /-- The geofencing zones of a network are not polygons. -/
  | zones (network message : String)
  /-- A query corner is not `lat,lon`. -/
  | envelope (corner : String)
  /-- A data source is configured wrongly. -/
  | configuration (text : String)
  deriving DecidableEq, Repr

/-- The text of a rental data error. -/
def RentalError.message : RentalError → String
  | .io path detail => "failure reading GBFS file " ++ path ++ ": " ++ detail
  | .json path detail => "failure decoding GBFS feed " ++ path ++ ": " ++ detail
  | .zones network message =>
    "failure decoding geofencing zones for network " ++ network ++ ": " ++ message
  | .envelope corner => "invalid envelope corner '" ++ corner ++ "', expected 'lat,lon'"
  | .configuration text => "invalid GBFS data source configuration: " ++ text

end RentalRouting
