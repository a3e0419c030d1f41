import RentalRouting.Cli.Args
import RentalRouting.Cli.Run
import RentalRouting.Feed.Records
import RentalRouting.Feed.Source
import RentalRouting.Feed.Updater
import RentalRouting.Geometry.GeoJson
import RentalRouting.Geometry.Orientation
import RentalRouting.Geometry.Polygon
import RentalRouting.Json.DataError
import RentalRouting.Json.Decode
import RentalRouting.Json.Reader
import RentalRouting.Json.Typed
import RentalRouting.Json.Value
import RentalRouting.Json.Write
import RentalRouting.Main
import RentalRouting.Mode.Decode
import RentalRouting.Mode.Qualified
import RentalRouting.Mode.Set
import RentalRouting.Mode.Travel
import RentalRouting.Numeric.Binary
import RentalRouting.Numeric.Decimal
import RentalRouting.Numeric.Read
import RentalRouting.Numeric.Text
import RentalRouting.Proofs.Cost
import RentalRouting.Proofs.Editor
import RentalRouting.Proofs.EnvelopeCorners
import RentalRouting.Proofs.Episode
import RentalRouting.Proofs.FeedMirror
import RentalRouting.Proofs.Float
import RentalRouting.Proofs.FloatDivision
import RentalRouting.Proofs.FloatOrder
import RentalRouting.Proofs.FloatSign
import RentalRouting.Proofs.History
import RentalRouting.Proofs.Increments
import RentalRouting.Proofs.ModeString
import RentalRouting.Proofs.NameResolution
import RentalRouting.Proofs.Path
import RentalRouting.Proofs.PathRecovery
import RentalRouting.Proofs.Progress
import RentalRouting.Proofs.Reconstruction
import RentalRouting.Proofs.RentalCount
import RentalRouting.Proofs.RentalState
import RentalRouting.Proofs.RequestConfig
import RentalRouting.Proofs.Reversal
import RentalRouting.Proofs.Service
import RentalRouting.Proofs.SharedService
import RentalRouting.Proofs.StationFeeds
import RentalRouting.Proofs.StationListing
import RentalRouting.Proofs.StreetBound
import RentalRouting.Proofs.Step
import RentalRouting.Proofs.Symmetry
import RentalRouting.Proofs.Traversal
import RentalRouting.Proofs.Updater
import RentalRouting.Rental.Error
import RentalRouting.Rental.Names
import RentalRouting.Rental.Permit
import RentalRouting.Rental.Table
import RentalRouting.Rental.Traverse
import RentalRouting.Rental.Vehicle
import RentalRouting.Request.Basic
import RentalRouting.Request.Config
import RentalRouting.Request.Error
import RentalRouting.Search.Date
import RentalRouting.Search.Edge
import RentalRouting.Search.Editor
import RentalRouting.Search.Ids
import RentalRouting.Search.Path
import RentalRouting.Search.State
import RentalRouting.Search.Street
import RentalRouting.Settings.Load
import RentalRouting.Settings.Toml
import RentalRouting.Settings.Value
import RentalRouting.Station.Basic
import RentalRouting.Station.Decode
import RentalRouting.Station.Encode
import RentalRouting.Station.Name
import RentalRouting.Station.Query
import RentalRouting.Station.Region
import RentalRouting.Station.Service
import RentalRouting.Text.Blank
import RentalRouting.Text.Case
import RentalRouting.Text.CaseClass
import RentalRouting.Text.Escaped
import RentalRouting.Text.Extend
import RentalRouting.Text.Printable
import RentalRouting.Text.Ranges
import RentalRouting.Toml.Datetime
import RentalRouting.Toml.Document
import RentalRouting.Toml.Fault
import RentalRouting.Toml.Scalar
import RentalRouting.Toml.Syntax
import RentalRouting.Toml.Token
