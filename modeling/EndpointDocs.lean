import EndpointDocs.CommandLine.Arguments
import EndpointDocs.CommandLine.Place
import EndpointDocs.CommandLine.Run
import EndpointDocs.Comment.Block
import EndpointDocs.Comment.Cell
import EndpointDocs.Comment.Style
import EndpointDocs.Comment.Tag
import EndpointDocs.Dashboard
import EndpointDocs.Demo.Handlers
import EndpointDocs.Demo.Load
import EndpointDocs.Demo.Program
import EndpointDocs.Demo.Source
import EndpointDocs.Descriptor.Basic
import EndpointDocs.Descriptor.Describe
import EndpointDocs.Endpoint.Basic
import EndpointDocs.Endpoint.Builder
import EndpointDocs.Endpoint.Example
import EndpointDocs.Endpoint.Rows
import EndpointDocs.Entries
import EndpointDocs.Index.Basic
import EndpointDocs.Index.Cache
import EndpointDocs.Index.Listing
import EndpointDocs.Main
import EndpointDocs.Report.Markdown
import EndpointDocs.Route.Handler
import EndpointDocs.Route.Load
import EndpointDocs.Route.Path
import EndpointDocs.Route.Registry
import EndpointDocs.Settings.Basic
import EndpointDocs.Settings.Load
import EndpointDocs.Settings.Raw
import EndpointDocs.Source.Search
import EndpointDocs.Source.Store
import EndpointDocs.Source.Tree
import EndpointDocs.Text.Blank
import EndpointDocs.Text.Capital
import EndpointDocs.Text.CharRange
import EndpointDocs.Text.Digit
import EndpointDocs.Text.LineBreak
import EndpointDocs.Text.Printable
import EndpointDocs.Text.Quoted
import EndpointDocs.Text.Scan
import EndpointDocs.Text.Word
import EndpointDocs.Types.Declare
import EndpointDocs.Types.Display
import EndpointDocs.Types.Lineage
import EndpointDocs.Types.Resolve
import EndpointDocs.Types.Standard
import EndpointDocs.Types.TypeExpr
import EndpointDocs.Types.Universe
import EndpointDocs.Value.Basic
import EndpointDocs.Value.Json
import EndpointDocs.Value.Written
import EndpointDocs.Yaml.Cursor
import EndpointDocs.Yaml.Scalar
import EndpointDocs.Yaml.Text
import EndpointDocs.Yaml.Token
import EndpointDocs.Yaml.Tree
import EndpointDocs.Proofs.Text.Blank
import EndpointDocs.Proofs.Text.Lines
import EndpointDocs.Proofs.Comment.Region
import EndpointDocs.Proofs.Comment.Written
import EndpointDocs.Proofs.Comment.Decorated
import EndpointDocs.Proofs.Comment.Param
import EndpointDocs.Proofs.Report.Table
import EndpointDocs.Proofs.Index.Grouping
import EndpointDocs.Proofs.Index.History
import EndpointDocs.Proofs.Source.Related
import EndpointDocs.Proofs.Source.View
import EndpointDocs.Proofs.Source.History
import EndpointDocs.Proofs.Source.Declaration
import EndpointDocs.Proofs.Source.Search
import EndpointDocs.Proofs.Source.Layout
import EndpointDocs.Proofs.Source.Function
import EndpointDocs.Proofs.Endpoint.Related
import EndpointDocs.Proofs.Endpoint.Walk
import EndpointDocs.Proofs.Endpoint.Paths
import EndpointDocs.Proofs.Dashboard.Completeness
import EndpointDocs.Proofs.Dashboard.Told
import EndpointDocs.Proofs.Dashboard.Registration
import EndpointDocs.Proofs.Dashboard.Modes
import EndpointDocs.Proofs.Endpoint.Preorder
import EndpointDocs.Proofs.Endpoint.Truncation
import EndpointDocs.Proofs.Endpoint.Levels
import EndpointDocs.Proofs.Source.Member
import EndpointDocs.Proofs.Source.Statement
import EndpointDocs.Proofs.Endpoint.Abridged
import EndpointDocs.Proofs.Types.Wrapping
import EndpointDocs.Proofs.Types.Shape
import EndpointDocs.Proofs.Types.Arguments
import EndpointDocs.Proofs.Types.Hierarchy
import EndpointDocs.Proofs.Types.Origin
import EndpointDocs.Proofs.Endpoint.Parameters
import EndpointDocs.Proofs.Endpoint.Isolation
import EndpointDocs.Proofs.Endpoint.Skipped
import EndpointDocs.Proofs.Comment.Bracketed
import EndpointDocs.Proofs.Comment.Mention
import EndpointDocs.Proofs.Comment.Markup
import EndpointDocs.Proofs.Comment.Untagged
import EndpointDocs.Proofs.Comment.Tidy
import EndpointDocs.Proofs.Dashboard.Lookup
import EndpointDocs.Proofs.Route.Pattern
import EndpointDocs.Proofs.Route.Signature
import EndpointDocs.Proofs.Route.Stacking
import EndpointDocs.Proofs.CommandLine.Loading
import EndpointDocs.Proofs.Report.Fence
import EndpointDocs.Proofs.Report.Response
import EndpointDocs.Proofs.Endpoint.Prefix
import EndpointDocs.Proofs.Comment.OnePass
import EndpointDocs.Proofs.Report.Cell
