import Workbench.CancelToken
import Workbench.Cli.Arguments
import Workbench.Cli.Disk
import Workbench.Cli.Run
import Workbench.Data
import Workbench.Diagnostic
import Workbench.Document
import Workbench.FileTree
import Workbench.Grammar.Basic
import Workbench.Grammar.Compile
import Workbench.Grammar.DomainModel
import Workbench.Grammar.Expr
import Workbench.Grammar.Table
import Workbench.Grammar.Tagged
import Workbench.Grammar.Types
import Workbench.Index
import Workbench.Interrupt
import Workbench.Lexeme
import Workbench.Link
import Workbench.Main
import Workbench.Options
import Workbench.OrderedMap
import Workbench.Parse.Basic
import Workbench.Parse.State
import Workbench.Pattern.Basic
import Workbench.Pattern.Extent
import Workbench.Pattern.Program
import Workbench.Pattern.Reader
import Workbench.Pattern.Search
import Workbench.Proofs.DomainModel
import Workbench.Proofs.FileTree
import Workbench.Proofs.Grammar.Accepted
import Workbench.Proofs.Grammar.Flow
import Workbench.Proofs.Grammar.Graded
import Workbench.Proofs.Grammar.Kinds
import Workbench.Proofs.Grammar.Numbering
import Workbench.Proofs.Grammar.Progressive
import Workbench.Proofs.Grammar.Sources
import Workbench.Proofs.Grammar.Subtypes
import Workbench.Proofs.Lexeme
import Workbench.Proofs.Lexeme.Longest
import Workbench.Proofs.Lexeme.Munch
import Workbench.Proofs.OrderedMap
import Workbench.Proofs.Parse.Ahead
import Workbench.Proofs.Parse.Choice
import Workbench.Proofs.Parse.Covers
import Workbench.Proofs.Parse.Deeper
import Workbench.Proofs.Parse.Ends
import Workbench.Proofs.Parse.Expression
import Workbench.Proofs.Parse.Grow
import Workbench.Proofs.Parse.Invariant
import Workbench.Proofs.Parse.Kept
import Workbench.Proofs.Parse.Laid
import Workbench.Proofs.Parse.Linked
import Workbench.Proofs.Parse.Lossless
import Workbench.Proofs.Parse.Metered
import Workbench.Proofs.Parse.Ordered
import Workbench.Proofs.Parse.Places
import Workbench.Proofs.Parse.Pointing
import Workbench.Proofs.Parse.Recovery
import Workbench.Proofs.Parse.Reports
import Workbench.Proofs.Parse.Rollback
import Workbench.Proofs.Parse.Sound
import Workbench.Proofs.Parse.Sourced
import Workbench.Proofs.Parse.Stray
import Workbench.Proofs.Parse.Traced
import Workbench.Proofs.Parse.Typed
import Workbench.Proofs.Parse.WellLinked
import Workbench.Proofs.Pattern.Class
import Workbench.Proofs.Pattern.Passing
import Workbench.Proofs.Pattern.Reading
import Workbench.Proofs.Pattern.Size
import Workbench.Proofs.Text.Lines
import Workbench.Proofs.Text.Positions
import Workbench.Proofs.Transfer.Abstract
import Workbench.Proofs.Transfer.Concrete
import Workbench.Proofs.Transfer.Effect
import Workbench.Proofs.Transfer.Exact
import Workbench.Proofs.Transfer.Nested
import Workbench.Proofs.Transfer.Ownership
import Workbench.Proofs.Transfer.Owning
import Workbench.Proofs.Transfer.Parsed
import Workbench.Proofs.Transfer.Rebuilt
import Workbench.Proofs.Transfer.Receiver
import Workbench.Proofs.Transfer.RoundTrip
import Workbench.Proofs.Transfer.Safety
import Workbench.Proofs.Transfer.Site
import Workbench.Proofs.Transfer.Wire
import Workbench.Proofs.Tree.Address
import Workbench.Proofs.Tree.Cycle
import Workbench.Proofs.Tree.InRange
import Workbench.Proofs.Tree.LeafAt
import Workbench.Proofs.Tree.Ranges
import Workbench.Proofs.Tree.Render
import Workbench.Proofs.Tree.Restrict
import Workbench.Proofs.Tree.Spans
import Workbench.Proofs.Tree.Walk
import Workbench.Proofs.Worker.Attended
import Workbench.Proofs.Worker.Effect
import Workbench.Proofs.Worker.InTurn
import Workbench.Proofs.Worker.Lock
import Workbench.Proofs.Worker.Pool.Capacity
import Workbench.Proofs.Worker.Pool.Effect
import Workbench.Proofs.Worker.Pool.Replies
import Workbench.Proofs.Worker.Ticket
import Workbench.Proofs.Worker.Token
import Workbench.Proofs.Worker.Turns
import Workbench.Proofs.Workspace.Accurate
import Workbench.Proofs.Workspace.Attained
import Workbench.Proofs.Workspace.Candidates
import Workbench.Proofs.Workspace.Consistent
import Workbench.Proofs.Workspace.Course
import Workbench.Proofs.Workspace.Current
import Workbench.Proofs.Workspace.Early
import Workbench.Proofs.Workspace.Exports
import Workbench.Proofs.Workspace.Indexed
import Workbench.Proofs.Workspace.Inheritance
import Workbench.Proofs.Workspace.Lexical
import Workbench.Proofs.Workspace.Moments
import Workbench.Proofs.Workspace.Notices
import Workbench.Proofs.Workspace.Operations
import Workbench.Proofs.Workspace.Phase
import Workbench.Proofs.Workspace.Prepared
import Workbench.Proofs.Workspace.Queue
import Workbench.Proofs.Workspace.Reached
import Workbench.Proofs.Workspace.Reentrant
import Workbench.Proofs.Workspace.Renewed
import Workbench.Proofs.Workspace.Resolve
import Workbench.Proofs.Workspace.Resume
import Workbench.Proofs.Workspace.Run
import Workbench.Proofs.Workspace.Settled
import Workbench.Proofs.Workspace.Touched
import Workbench.Proofs.Workspace.Update
import Workbench.Proofs.Workspace.Visible
import Workbench.Proofs.Workspace.Work
import Workbench.Scope
import Workbench.Scope.Computation
import Workbench.Settings
import Workbench.Symbol
import Workbench.Text.Age
import Workbench.Text.Blank
import Workbench.Text.Break
import Workbench.Text.ByteRanges
import Workbench.Text.Bytes
import Workbench.Text.CaseFold
import Workbench.Text.Category
import Workbench.Text.CharSet
import Workbench.Text.Composition
import Workbench.Text.Decimal
import Workbench.Text.Direction
import Workbench.Text.Hex
import Workbench.Text.Joining
import Workbench.Text.LineIndex
import Workbench.Text.Lowercase
import Workbench.Text.Normal
import Workbench.Text.Position
import Workbench.Text.Property
import Workbench.Text.Punycode
import Workbench.Text.Quoted
import Workbench.Text.Ranges
import Workbench.Text.Runs
import Workbench.Text.Script
import Workbench.Text.Split
import Workbench.Text.Word
import Workbench.Toml.Reader
import Workbench.Toml.Scalar
import Workbench.Toml.Value
import Workbench.Transfer.Flatten
import Workbench.Transfer.Instruction
import Workbench.Transfer.Rebuild
import Workbench.Transfer.Tagged
import Workbench.Transfer.Wire
import Workbench.Tree.Basic
import Workbench.Tree.Path
import Workbench.Tree.Render
import Workbench.Tree.Span
import Workbench.Uri
import Workbench.Uri.Domain
import Workbench.Uri.Escape
import Workbench.Uri.Host
import Workbench.Uri.Path
import Workbench.Uri.PlainForm
import Workbench.Validation.Basic
import Workbench.Validation.Declared
import Workbench.Validation.DomainModel
import Workbench.Worker.Lock.Basic
import Workbench.Worker.Lock.Run
import Workbench.Worker.Pool.Basic
import Workbench.Worker.Pool.Run
import Workbench.Worker.Registry
import Workbench.Worker.Service
import Workbench.Workspace.Basic
import Workbench.Workspace.Build
import Workbench.Workspace.Request
