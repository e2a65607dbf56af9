import CallHierarchy.Declaration.Block
import CallHierarchy.Declaration.Keyword
import CallHierarchy.Declaration.Tree
import CallHierarchy.Document.LineIndex
import CallHierarchy.Document.Position
import CallHierarchy.Document.Snapshot
import CallHierarchy.DomainName.Basic
import CallHierarchy.DomainName.CombiningClass
import CallHierarchy.DomainName.Composite
import CallHierarchy.DomainName.Composition
import CallHierarchy.DomainName.Direction
import CallHierarchy.DomainName.Folding
import CallHierarchy.DomainName.Folding.Expansion
import CallHierarchy.DomainName.Folding.Range
import CallHierarchy.DomainName.Folding.Single
import CallHierarchy.DomainName.Joining
import CallHierarchy.DomainName.Punycode
import CallHierarchy.Engine.Basic
import CallHierarchy.Engine.Delegated
import CallHierarchy.Engine.Direct
import CallHierarchy.Engine.References
import CallHierarchy.Error
import CallHierarchy.Event
import CallHierarchy.Graph.Basic
import CallHierarchy.Graph.Edge
import CallHierarchy.Graph.Exploration
import CallHierarchy.Graph.Node
import CallHierarchy.Graph.Table
import CallHierarchy.Host.Basic
import CallHierarchy.Host.HostTable
import CallHierarchy.Index.Basic
import CallHierarchy.Index.Workspace
import CallHierarchy.Operation
import CallHierarchy.Outline.Enclosing
import CallHierarchy.Outline.Symbol
import CallHierarchy.Pattern.Atom
import CallHierarchy.Pattern.Basic
import CallHierarchy.Pattern.Reader
import CallHierarchy.Pattern.Set
import CallHierarchy.Service.Indexed
import CallHierarchy.Service.Item
import CallHierarchy.Service.Referenced
import CallHierarchy.Settings.Basic
import CallHierarchy.Settings.Toml
import CallHierarchy.Telemetry.Basic
import CallHierarchy.Telemetry.Directive
import CallHierarchy.Telemetry.Filter
import CallHierarchy.Telemetry.Line
import CallHierarchy.Text.Basic
import CallHierarchy.Text.Mark
import CallHierarchy.Text.Utf8
import CallHierarchy.Text.Visible
import CallHierarchy.Text.WordCharacter
import CallHierarchy.Toml.Document
import CallHierarchy.Toml.Lexical
import CallHierarchy.Toml.Scalar
import CallHierarchy.Toml.Value
import CallHierarchy.Uri.Basic
import CallHierarchy.Uri.Host
import CallHierarchy.Uri.Path
import CallHierarchy.Proofs.FirstSeen
import CallHierarchy.Proofs.Index.FromScratch
import CallHierarchy.Proofs.Index.Edits
import CallHierarchy.Proofs.Declaration.Blocks
import CallHierarchy.Proofs.Declaration.Grammar
import CallHierarchy.Proofs.Declaration.Ranges
import CallHierarchy.Proofs.Declaration.Concatenation
import CallHierarchy.Proofs.Engine.Symmetry
import CallHierarchy.Proofs.Text.Boundary
import CallHierarchy.Proofs.Document.Lines
import CallHierarchy.Proofs.Document.LinePlaces
import CallHierarchy.Proofs.Document.Conversions
import CallHierarchy.Proofs.Document.Clamping
import CallHierarchy.Proofs.Document.Slices
import CallHierarchy.Proofs.Document.SplitLines
import CallHierarchy.Proofs.Operation
import CallHierarchy.Proofs.Text.Occurrence
import CallHierarchy.Proofs.Engine.Sites
import CallHierarchy.Proofs.Engine.GreedySites
import CallHierarchy.Proofs.Engine.Delegation
import CallHierarchy.Proofs.Engine.ReadingOrder
import CallHierarchy.Proofs.Engine.Agreement
import CallHierarchy.Proofs.Outline.Enclosing
import CallHierarchy.Proofs.Engine.Accounting
import CallHierarchy.Proofs.Engine.Failures
import CallHierarchy.Proofs.Graph.Representation
import CallHierarchy.Proofs.Graph.Traced
import CallHierarchy.Proofs.Graph.Growth
import CallHierarchy.Proofs.Graph.BoundedReachability
import CallHierarchy.Proofs.Graph.Additions
import CallHierarchy.Proofs.Service.Requests
import CallHierarchy.Proofs.Service.Languages
import CallHierarchy.Proofs.Graph.NodeIds
import CallHierarchy.Proofs.Graph.DirectGraphs
import CallHierarchy.Proofs.Service.Attribution
import CallHierarchy.Proofs.Service.Items
import CallHierarchy.Proofs.Graph.DirectEdges
import CallHierarchy.Proofs.Document.Words
import CallHierarchy.Proofs.Document.LongestWords
import CallHierarchy.Proofs.Graph.Duality
import CallHierarchy.Proofs.Document.LineEndings
import CallHierarchy.Proofs.Engine.LineEndings
import CallHierarchy.Proofs.Index.Headers
import CallHierarchy.Proofs.Engine.Lifetimes
import CallHierarchy.Proofs.Graph.Connected
import CallHierarchy.Proofs.Outline.Innermost
import CallHierarchy.Proofs.Engine.HiddenSymbols
import CallHierarchy.Proofs.Engine.MentionedNames
import CallHierarchy.Proofs.Service.Walks
import CallHierarchy.Proofs.Graph.MergedEdges
import CallHierarchy.Proofs.Graph.Union
import CallHierarchy.Proofs.Engine.ReferenceOrder
import CallHierarchy.Proofs.Engine.TouchingSymbols
import CallHierarchy.Proofs.Document.OtherTexts
import CallHierarchy.Proofs.Graph.SearchNodes
