import ClusterReport.Attribute.Basic
import ClusterReport.Attribute.Catalogue
import ClusterReport.Attribute.Reported
import ClusterReport.Binary64.Basic
import ClusterReport.Binary64.Extent
import ClusterReport.Binary64.Layout
import ClusterReport.Binary64.Reading
import ClusterReport.Binary64.Shortest
import ClusterReport.ByteSize
import ClusterReport.Cell
import ClusterReport.Cluster
import ClusterReport.CommandLine.Basic
import ClusterReport.CommandLine.Reading
import ClusterReport.Dict
import ClusterReport.Feature.Check
import ClusterReport.Feature.Registry
import ClusterReport.Feature.Usage
import ClusterReport.Fetched.Basic
import ClusterReport.Fetched.Flip
import ClusterReport.Fetched.Merge
import ClusterReport.Histogram.Basic
import ClusterReport.Histogram.Decile
import ClusterReport.Histogram.Distribution
import ClusterReport.Histogram.Wire
import ClusterReport.Integer
import ClusterReport.Json.Basic
import ClusterReport.Json.Reading
import ClusterReport.Json.Record
import ClusterReport.Json.Text
import ClusterReport.Json.Token
import ClusterReport.Json.Written
import ClusterReport.License.Agent
import ClusterReport.License.Estimate
import ClusterReport.License.Update
import ClusterReport.License.Usage
import ClusterReport.Listing.Basic
import ClusterReport.Listing.Features
import ClusterReport.Listing.Histograms
import ClusterReport.Listing.Namespaces
import ClusterReport.Listing.StopWrites
import ClusterReport.Main
import ClusterReport.Proofs.Binary64.Rounding
import ClusterReport.Proofs.Cell.Order
import ClusterReport.Proofs.Dict.Lookup
import ClusterReport.Proofs.Dict.Tally
import ClusterReport.Proofs.Fetched.Flip
import ClusterReport.Proofs.Fetched.Merge
import ClusterReport.Proofs.Histogram.Columns
import ClusterReport.Proofs.Histogram.Conservation
import ClusterReport.Proofs.Histogram.Ranges
import ClusterReport.Proofs.Histogram.Written
import ClusterReport.Proofs.Json.Merge
import ClusterReport.Proofs.License.Estimable
import ClusterReport.Proofs.License.Fallback
import ClusterReport.Proofs.License.Frame
import ClusterReport.Proofs.License.Samples
import ClusterReport.Proofs.Sheet.Expansion
import ClusterReport.Proofs.Sheet.Grouping
import ClusterReport.Proofs.Sheet.Runs
import ClusterReport.Proofs.StopWrites.Availability
import ClusterReport.Proofs.StopWrites.Entries
import ClusterReport.Proofs.StopWrites.Metrics
import ClusterReport.ReleaseGate
import ClusterReport.Report.Form
import ClusterReport.Report.Run
import ClusterReport.Report.Snapshot
import ClusterReport.Scalar
import ClusterReport.Settings.Basic
import ClusterReport.Settings.Location
import ClusterReport.Settings.Reading
import ClusterReport.Sheet.Declaration
import ClusterReport.Sheet.Grouping
import ClusterReport.Sheet.Prepared
import ClusterReport.Sheet.Projector
import ClusterReport.Sheet.Reduction
import ClusterReport.Sheet.RowStyle
import ClusterReport.Sheet.Source
import ClusterReport.Snapshot
import ClusterReport.StopWrites.Diagnosis
import ClusterReport.StopWrites.Entry
import ClusterReport.Summary.Basic
import ClusterReport.Summary.Rollup
import ClusterReport.Summary.Storage
import ClusterReport.Summary.View
import ClusterReport.Text.Blank
import ClusterReport.Text.Hidden
import ClusterReport.Text.Pad
import ClusterReport.Text.Pieces
import ClusterReport.Text.Quoted
import ClusterReport.Text.Styled
import ClusterReport.Text.Wrapped
import ClusterReport.Timestamp
import ClusterReport.Toml.Number
import ClusterReport.Toml.Reading
import ClusterReport.Toml.Text
import ClusterReport.Toml.Value
import ClusterReport.Version
import ClusterReport.Proofs.Sheet.RowStyle
import ClusterReport.Proofs.Sheet.FieldLines
import ClusterReport.Proofs.Sheet.TitleBlocks
import ClusterReport.Proofs.Sheet.Bounds
import ClusterReport.Proofs.Fetched.ReadBack
import ClusterReport.Proofs.Listing.Namespaces
import ClusterReport.Proofs.Summary.Rollup
import ClusterReport.Proofs.Summary.Licenses
import ClusterReport.Proofs.Fetched.Path
import ClusterReport.Proofs.StopWrites.Collected
import ClusterReport.Proofs.StopWrites.Locality
import ClusterReport.Proofs.Listing.StopWrites
import ClusterReport.Proofs.Dict.OfList
import ClusterReport.Proofs.Sheet.Listed
import ClusterReport.Proofs.Feature.Usage
import ClusterReport.Proofs.Feature.FailedConfigs
import ClusterReport.Proofs.License.Skipped
import ClusterReport.Proofs.Histogram.Coverage
import ClusterReport.Proofs.License.Total
import ClusterReport.Proofs.Cluster.Spelling
import ClusterReport.Proofs.Cell.Exact
import ClusterReport.Proofs.Histogram.Tenths
import ClusterReport.Proofs.Text.Stripped
import ClusterReport.Proofs.Report.Color
import ClusterReport.Proofs.License.Extremes
import ClusterReport.Proofs.License.MostRecent
import ClusterReport.Proofs.License.PassedOver
import ClusterReport.Proofs.Histogram.Aligned
import ClusterReport.Proofs.Summary.Unused
import ClusterReport.Proofs.Summary.Devices
import ClusterReport.Proofs.StopWrites.Limits
import ClusterReport.Proofs.Sheet.GroupValues
import ClusterReport.Proofs.Sheet.Reduction
import ClusterReport.Proofs.Sheet.Alignment
import ClusterReport.Proofs.StopWrites.Share
import ClusterReport.Proofs.Version.Parts
import ClusterReport.Proofs.Version.Order
import ClusterReport.Proofs.Histogram.Division
import ClusterReport.Proofs.Sheet.Number
import ClusterReport.Proofs.Snapshot.Histograms
import ClusterReport.Proofs.ByteSize.CutOff
import ClusterReport.Proofs.Text.Wrapped
