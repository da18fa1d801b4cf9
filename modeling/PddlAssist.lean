import PddlAssist.CharSet
import PddlAssist.Completion
import PddlAssist.Debouncer
import PddlAssist.Debouncer.Clock
import PddlAssist.Decimal.Binary64
import PddlAssist.Decimal.Numeral
import PddlAssist.Decimal.Places
import PddlAssist.Decimal.Scaled
import PddlAssist.Decimal.Shortest
import PddlAssist.Diagnostic
import PddlAssist.Directive
import PddlAssist.Disk
import PddlAssist.Document
import PddlAssist.Document.Occurrence
import PddlAssist.Domain
import PddlAssist.Domain.Location
import PddlAssist.Domain.Reader
import PddlAssist.Domain.Tear
import PddlAssist.Happening
import PddlAssist.HostName
import PddlAssist.HostName.Mapping
import PddlAssist.HostName.Punycode
import PddlAssist.Hover
import PddlAssist.Issue
import PddlAssist.Json
import PddlAssist.Json.Record
import PddlAssist.Layout
import PddlAssist.Network
import PddlAssist.Plan
import PddlAssist.Planning
import PddlAssist.Planning.Run
import PddlAssist.Problem
import PddlAssist.Problem.Reader
import PddlAssist.Program
import PddlAssist.Program.Place
import PddlAssist.Program.Script
import PddlAssist.Program.Shell
import PddlAssist.Program.Shell.Run
import PddlAssist.Program.Template
import PddlAssist.Program.Tool
import PddlAssist.Program.Tool.Cat
import PddlAssist.Program.Tool.Echo
import PddlAssist.Program.Tool.Printf
import PddlAssist.Program.Tool.Tail
import PddlAssist.Proofs.Document.Occurrence
import PddlAssist.Proofs.Document.Patch
import PddlAssist.Proofs.Document.Position
import PddlAssist.Proofs.Reading.Domain
import PddlAssist.Proofs.Reading.Layout
import PddlAssist.Proofs.Reading.Problem
import PddlAssist.Proofs.Reading.Renaming
import PddlAssist.Proofs.Reading.Similarity
import PddlAssist.Proofs.Symbol.Edit
import PddlAssist.Proofs.Symbol.Exchange
import PddlAssist.Proofs.Symbol.Places
import PddlAssist.Proofs.Symbol.References
import PddlAssist.Proofs.Symbol.Rename
import PddlAssist.Proofs.Symbol.ValidName
import PddlAssist.Proofs.Text.Case
import PddlAssist.Proofs.Token.Names
import PddlAssist.Proofs.Token.Scan
import PddlAssist.Proofs.Tree.Bare
import PddlAssist.Proofs.Tree.Placement
import PddlAssist.Proofs.Tree.Renaming
import PddlAssist.Proofs.Workspace.Editing
import PddlAssist.Proofs.Workspace.Kinship
import PddlAssist.Proofs.Workspace.Memory
import PddlAssist.Proofs.Workspace.Revision
import PddlAssist.Proofs.Workspace.Run
import PddlAssist.Proofs.Workspace.Storage
import PddlAssist.Regex
import PddlAssist.Regex.Expr
import PddlAssist.Regex.Footprint
import PddlAssist.Regex.Look
import PddlAssist.Regex.Meaning
import PddlAssist.Regex.Pattern
import PddlAssist.Regex.Program
import PddlAssist.Regex.Reader
import PddlAssist.Server
import PddlAssist.Server.Notification
import PddlAssist.Server.Planning
import PddlAssist.Server.Query
import PddlAssist.Session
import PddlAssist.Session.Clock
import PddlAssist.Settings
import PddlAssist.SourceFile
import PddlAssist.Symbol
import PddlAssist.Symbol.Outline
import PddlAssist.Symbol.Tear
import PddlAssist.Text.Blank
import PddlAssist.Text.Bytes
import PddlAssist.Text.Case
import PddlAssist.Text.Digit
import PddlAssist.Text.Replace
import PddlAssist.Text.Utf8
import PddlAssist.Text.WordChar
import PddlAssist.Token
import PddlAssist.Tree
import PddlAssist.TypeHierarchy
import PddlAssist.TypedList
import PddlAssist.Unicode.Age
import PddlAssist.Unicode.Category
import PddlAssist.Unicode.Combining
import PddlAssist.Unicode.Composed
import PddlAssist.Unicode.Direction
import PddlAssist.Unicode.Fold
import PddlAssist.Unicode.Joining
import PddlAssist.Unicode.Property
import PddlAssist.Unicode.Query
import PddlAssist.Unicode.Script
import PddlAssist.Uri
import PddlAssist.Uri.Address
import PddlAssist.Uri.FilePath
import PddlAssist.Uri.Host
import PddlAssist.Uri.Percent
import PddlAssist.Validation
import PddlAssist.Validation.Choice
import PddlAssist.Validation.Command
import PddlAssist.Validation.Service
import PddlAssist.Workspace
import PddlAssist.Workspace.Binding
import PddlAssist.Proofs.Workspace.Snapshot
import PddlAssist.Proofs.Workspace.Binding
import PddlAssist.Proofs.Session.Interleaving
import PddlAssist.Proofs.Tree.Brackets
import PddlAssist.Proofs.Symbol.Pending
import PddlAssist.Proofs.Debouncer.Start
import PddlAssist.Proofs.Session.Traffic
import PddlAssist.Proofs.Session.Coverage
import PddlAssist.Proofs.Session.Requests
import PddlAssist.Proofs.Server.Publication
import PddlAssist.Proofs.Session.Course
import PddlAssist.Proofs.Workspace.Change
import PddlAssist.Proofs.Server.View
import PddlAssist.Proofs.Server.Course
import PddlAssist.Proofs.Server.Handling
import PddlAssist.Proofs.Planning.Stop
import PddlAssist.Proofs.Server.Ownership
import PddlAssist.Proofs.Server.Planners
import PddlAssist.Proofs.Session.Flight
import PddlAssist.Proofs.Session.Provenance
import PddlAssist.Proofs.Server.Verdict
import PddlAssist.Proofs.Server.Relay
import PddlAssist.Proofs.TypeHierarchy.Edges
import PddlAssist.Proofs.Tree.Reflection
import PddlAssist.Proofs.Reading.Format
import PddlAssist.Proofs.Reading.RoundTrip
import PddlAssist.Proofs.Workspace.Isolation
import PddlAssist.Proofs.Workspace.Chronicle
import PddlAssist.Proofs.Reading.Sections
import PddlAssist.Proofs.Symbol.Tear
import PddlAssist.Proofs.Reading.Facts
import PddlAssist.Proofs.Symbol.Facts
import PddlAssist.Proofs.Plan.Rendering
import PddlAssist.Proofs.Reading.InitialState
import PddlAssist.Proofs.Symbol.Preparation
import PddlAssist.Proofs.Happening.Pairing
import PddlAssist.Proofs.Document.Order
import PddlAssist.Proofs.Reading.Declarations
import PddlAssist.Proofs.Document.Precedence
import PddlAssist.Proofs.Symbol.Location
import PddlAssist.Proofs.Tree.Paths
import PddlAssist.Proofs.Symbol.Types
import PddlAssist.Proofs.TypeHierarchy.Queries
import PddlAssist.Proofs.Layout.LaidOut
import PddlAssist.Proofs.Reading.DeclaredTypes
import PddlAssist.Proofs.Symbol.Declaration
import PddlAssist.Proofs.TypedList.Parts
import PddlAssist.Proofs.TypedList.Groups
import PddlAssist.Proofs.Tree.Stability
import PddlAssist.Proofs.Layout.Depth
import PddlAssist.Proofs.Reading.Spans
import PddlAssist.Proofs.Validation.Issues
import PddlAssist.Proofs.Document.Identifiers
import PddlAssist.Proofs.Tree.Descent
import PddlAssist.Proofs.Tree.Lookup
import PddlAssist.Proofs.Token.Tiling
import PddlAssist.Proofs.TypeHierarchy.Nearest
import PddlAssist.Proofs.Tree.Search
