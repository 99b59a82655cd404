import KeyChart.Arrangement
import KeyChart.Attempt
import KeyChart.Box
import KeyChart.Catalog.Basic
import KeyChart.Catalog.Load
import KeyChart.Catalog.Paths
import KeyChart.Chart.Basic
import KeyChart.Chart.Session
import KeyChart.Chart.Stages
import KeyChart.Constraint
import KeyChart.Ddl.Lexer
import KeyChart.Ddl.Parser
import KeyChart.Ddl.Script
import KeyChart.Ddl.Token
import KeyChart.Decimal.Binary64
import KeyChart.Decimal.Extended
import KeyChart.Decimal.Read
import KeyChart.Decimal.Shortest
import KeyChart.Decimal.Style
import KeyChart.Drawing.Shape
import KeyChart.Drawing.Svg
import KeyChart.Engine
import KeyChart.Error
import KeyChart.ForeignKey
import KeyChart.Grouping
import KeyChart.Ids
import KeyChart.JoinGraph
import KeyChart.JoinPath
import KeyChart.Mark.Basic
import KeyChart.Mark.Channel
import KeyChart.Mark.Functions
import KeyChart.Mark.Placement
import KeyChart.Mark.Reference
import KeyChart.Measure
import KeyChart.Nest
import KeyChart.Query.MarkQuery
import KeyChart.Query.Statement
import KeyChart.Rehearsal
import KeyChart.ResultSet
import KeyChart.Scale
import KeyChart.Schedule.Basic
import KeyChart.Schedule.Order
import KeyChart.Schedule.Task
import KeyChart.Schema
import KeyChart.SortedMap
import KeyChart.Store.Affinity
import KeyChart.Store.Basic
import KeyChart.Store.Engine
import KeyChart.Store.KeyRows
import KeyChart.Store.Link
import KeyChart.Store.Listings
import KeyChart.Store.Median
import KeyChart.Store.Numeral
import KeyChart.Store.ScanOrder
import KeyChart.Store.Selection
import KeyChart.Store.Table
import KeyChart.Table
import KeyChart.Text.Blank
import KeyChart.Text.Case
import KeyChart.Text.CodePoints
import KeyChart.Text.Letter
import KeyChart.Text.Lines
import KeyChart.Text.Printable
import KeyChart.Text.Quoted
import KeyChart.Text.Width
import KeyChart.Text.WidthTables
import KeyChart.Value
import KeyChart.Proofs.SortedMap
import KeyChart.Proofs.Except
import KeyChart.Proofs.TwoRuns
import KeyChart.Proofs.Numerals
import KeyChart.Proofs.Attempt
import KeyChart.Proofs.Catalog.Calls
import KeyChart.Proofs.JoinGraph.Routes
import KeyChart.Proofs.JoinedRows
import KeyChart.Proofs.JoinGraph.Complete
import KeyChart.Proofs.JoinGraph.DeadEnd
import KeyChart.Proofs.JoinGraph.Shortest
import KeyChart.Proofs.JoinGraph.Crossings
import KeyChart.Proofs.Catalog.Searches
import KeyChart.Proofs.Catalog.Growth
import KeyChart.Proofs.Catalog.OneSides
import KeyChart.Proofs.Catalog.StoredTables
import KeyChart.Proofs.Catalog.InPlace
import KeyChart.Proofs.Catalog.LoadedTables
import KeyChart.Proofs.Catalog.Loading
import KeyChart.Proofs.Catalog.Integrity
import KeyChart.Proofs.Catalog.DeclarationOrder
import KeyChart.Proofs.Catalog.Ties
import KeyChart.Proofs.Catalog.EitherEnd
import KeyChart.Proofs.Mark.Resolution
import KeyChart.Proofs.Mark.References
import KeyChart.Proofs.Mark.SearchKeys
import KeyChart.Proofs.Mark.AttributeNests
import KeyChart.Proofs.Mark.NearestSupplier
import KeyChart.Proofs.Mark.Additions
import KeyChart.Proofs.Mark.Classification
import KeyChart.Proofs.Query.Plans
import KeyChart.Proofs.Query.ChainRows
import KeyChart.Proofs.Query.FanOut
import KeyChart.Proofs.Query.Undisturbed
import KeyChart.Proofs.Query.Names
import KeyChart.Proofs.Grouping
import KeyChart.Proofs.Query.ResultColumns
import KeyChart.Proofs.Query.SharedColumns
import KeyChart.Proofs.Query.Scopes
import KeyChart.Proofs.Schedule.Order
import KeyChart.Proofs.Schedule.Tasks
import KeyChart.Proofs.Schedule.Runs
import KeyChart.Proofs.Schedule.Execution
import KeyChart.Proofs.Chart.Sessions
import KeyChart.Proofs.Chart.MarkTables
import KeyChart.Proofs.Chart.StoredRows
import KeyChart.Proofs.Chart.Operations
import KeyChart.Proofs.Chart.Edits
import KeyChart.Proofs.Chart.Relations
import KeyChart.Proofs.Schedule.Chosen
import KeyChart.Proofs.Schedule.Counting
import KeyChart.Proofs.Schedule.Exact
import KeyChart.Proofs.Chart.Reads
import KeyChart.Proofs.Chart.TiedRows
import KeyChart.Proofs.Ddl.Spelling
import KeyChart.Proofs.Ddl.Quoting
import KeyChart.Proofs.Ddl.Written
import KeyChart.Proofs.Ddl.RoundTrip
import KeyChart.Proofs.Ddl.Statements
import KeyChart.Proofs.Chart.Levels
import KeyChart.Proofs.Grid
import KeyChart.Proofs.Mark.Placement
import KeyChart.Proofs.Store.Listings
import KeyChart.Proofs.Store.KeyRows
import KeyChart.Proofs.Chart.StoredCells
import KeyChart.Proofs.Chart.Persistence
import KeyChart.Proofs.Decimal.WholeNumbers
import KeyChart.Proofs.Drawing.Markup
import KeyChart.Proofs.Drawing.Fragments
