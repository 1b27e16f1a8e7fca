import Argumentation.Argument
import Argumentation.Classification
import Argumentation.Colors
import Argumentation.Command.Arguments
import Argumentation.Command.Run
import Argumentation.Config
import Argumentation.Data.Assoc
import Argumentation.Data.DataTree
import Argumentation.Description.Canonical
import Argumentation.Description.Parser
import Argumentation.Diagnostic
import Argumentation.Edit
import Argumentation.Error
import Argumentation.Event
import Argumentation.Files.Basic
import Argumentation.Files.Tree
import Argumentation.Framework
import Argumentation.Graph.Basic
import Argumentation.Graph.Canonical
import Argumentation.Graph.Reconcile
import Argumentation.Graph.Violation
import Argumentation.Json.Document
import Argumentation.Json.Reader
import Argumentation.Json.Value
import Argumentation.Json.Writer
import Argumentation.Labeling
import Argumentation.Limits
import Argumentation.Main
import Argumentation.Number.Binary64
import Argumentation.Number.Decimal
import Argumentation.Number.Layout
import Argumentation.Number.Shortest
import Argumentation.Overlay
import Argumentation.Path
import Argumentation.Project
import Argumentation.Proofs.Classification
import Argumentation.Proofs.Data.Assoc
import Argumentation.Proofs.Debouncer
import Argumentation.Proofs.Debouncer.Quiet
import Argumentation.Proofs.Description.Accepted
import Argumentation.Proofs.Description.Faults
import Argumentation.Proofs.Description.Language
import Argumentation.Proofs.Description.Rearranged
import Argumentation.Proofs.Description.RoundTrip
import Argumentation.Proofs.Edit
import Argumentation.Proofs.Framework
import Argumentation.Proofs.Framework.Declared
import Argumentation.Proofs.Framework.Indexed
import Argumentation.Proofs.Framework.Structure
import Argumentation.Proofs.Graph.Arguments
import Argumentation.Proofs.Graph.Changes
import Argumentation.Proofs.Graph.Cleared
import Argumentation.Proofs.Graph.Declared
import Argumentation.Proofs.Graph.Difference
import Argumentation.Proofs.Graph.Entries
import Argumentation.Proofs.Graph.Fresh
import Argumentation.Proofs.Graph.Lookup
import Argumentation.Proofs.Graph.Mirror
import Argumentation.Proofs.Graph.Reconcile
import Argumentation.Proofs.Graph.Repeated
import Argumentation.Proofs.Graph.Run
import Argumentation.Proofs.Graph.Sound
import Argumentation.Proofs.Graph.Store
import Argumentation.Proofs.Graph.Target
import Argumentation.Proofs.Graph.Within
import Argumentation.Proofs.Grid
import Argumentation.Proofs.Indexed.Arena
import Argumentation.Proofs.Indexed.Changes
import Argumentation.Proofs.Indexed.Edit
import Argumentation.Proofs.Indexed.Graph
import Argumentation.Proofs.Indexed.Invariant
import Argumentation.Proofs.Indexed.Lookup
import Argumentation.Proofs.Indexed.Operations
import Argumentation.Proofs.Indexed.Renamed
import Argumentation.Proofs.Indexed.Represents
import Argumentation.Proofs.Indexed.Run
import Argumentation.Proofs.Json.Exact
import Argumentation.Proofs.Json.Numeral
import Argumentation.Proofs.Json.RoundTrip
import Argumentation.Proofs.Json.Text
import Argumentation.Proofs.Labeling
import Argumentation.Proofs.Labeling.Pieces
import Argumentation.Proofs.Number.Monotone
import Argumentation.Proofs.Number.Natural
import Argumentation.Proofs.Number.RoundTrip
import Argumentation.Proofs.Number.Rounding
import Argumentation.Proofs.Numbering
import Argumentation.Proofs.Overlay
import Argumentation.Proofs.Overlay.Appearance
import Argumentation.Proofs.Overlay.Selection
import Argumentation.Proofs.Overlay.Strengths
import Argumentation.Proofs.Record.Config
import Argumentation.Proofs.Record.Project
import Argumentation.Proofs.Record.ReadBack
import Argumentation.Proofs.Session.Agreement
import Argumentation.Proofs.Session.Canonical
import Argumentation.Proofs.Session.Classified
import Argumentation.Proofs.Session.Described
import Argumentation.Proofs.Session.Echoed
import Argumentation.Proofs.Session.Imports
import Argumentation.Proofs.Session.Listening
import Argumentation.Proofs.Session.Log
import Argumentation.Proofs.Session.Naming
import Argumentation.Proofs.Session.Opened
import Argumentation.Proofs.Session.Placed
import Argumentation.Proofs.Session.Reapplied
import Argumentation.Proofs.Session.Refinement
import Argumentation.Proofs.Session.Renumbered
import Argumentation.Proofs.Session.Run
import Argumentation.Proofs.Session.Saved
import Argumentation.Proofs.Session.Selected
import Argumentation.Proofs.Session.Showing
import Argumentation.Proofs.Session.Shown
import Argumentation.Proofs.Session.Steps
import Argumentation.Proofs.Session.Turned
import Argumentation.Proofs.Session.Unshown
import Argumentation.Proofs.Session.Untouched
import Argumentation.Proofs.Session.Valid
import Argumentation.Proofs.Statement
import Argumentation.Proofs.Strength
import Argumentation.Proofs.Text.Lowercase
import Argumentation.Proofs.Text.Marks
import Argumentation.Proofs.Text.Trimming
import Argumentation.Proofs.Text.Words
import Argumentation.Proofs.Toml.Pruned
import Argumentation.Record.Config
import Argumentation.Record.Error
import Argumentation.Record.Graph
import Argumentation.Record.Listing
import Argumentation.Record.Project
import Argumentation.Relation
import Argumentation.Semantics.Gradual
import Argumentation.Semantics.Request
import Argumentation.Semantics.Response
import Argumentation.Session.Basic
import Argumentation.Session.Debounced
import Argumentation.Session.Exchange
import Argumentation.Session.Files
import Argumentation.Session.Results
import Argumentation.Statement
import Argumentation.Strength
import Argumentation.Text.Blank
import Argumentation.Text.CaseTable
import Argumentation.Text.Cased
import Argumentation.Text.Lowercase
import Argumentation.Text.Printable
import Argumentation.Text.Word
import Argumentation.Toml.Reader
import Argumentation.Toml.Table
import Argumentation.Toml.Text
import Argumentation.Toml.Value
import Argumentation.Toml.Writer
import Argumentation.Validation
