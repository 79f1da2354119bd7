import Sluice.Main
import Sluice.Sandbox.World
import Sluice.Proofs.Program.Flattening
import Sluice.Proofs.Shell.Live
import Sluice.Proofs.Shell.Rollback
import Sluice.Proofs.Tree.Grammar
import Sluice.Proofs.Tree.Recognition
import Sluice.Proofs.Value.Numerals
import Sluice.Proofs.Value.Strings
import Sluice.Proofs.Session.Valid
import Sluice.Proofs.Value.Reread
import Sluice.Proofs.Session.Reload
import Sluice.Proofs.Shell.Keeping
import Sluice.Proofs.Shell.Orders
import Sluice.Proofs.Shell.Reachable
import Sluice.Proofs.Token.Words
import Sluice.Proofs.Shell.Single
import Sluice.Proofs.Store.Lines
import Sluice.Proofs.Store.Restore
import Sluice.Proofs.Running
import Sluice.Proofs.Token.Lexemes
import Sluice.Proofs.Token.Reading
import Sluice.Proofs.Token.Layout
import Sluice.Proofs.Token.Scanning
import Sluice.Proofs.Token.Cutting
import Sluice.Proofs.Tree.Parens
import Sluice.Proofs.Prompt.Statements
import Sluice.Proofs.Order.Delivery
import Sluice.Proofs.Token.Templates
import Sluice.Proofs.Shell.References
import Sluice.Proofs.Program.Building
import Sluice.Proofs.Program.Directives
import Sluice.Proofs.Shell.Showing
import Sluice.Proofs.Session.Changes
import Sluice.Proofs.Shell.Remarks
import Sluice.Proofs.Program.Names
import Sluice.Proofs.Shell.Yielding
import Sluice.Proofs.Shell.Unknown
import Sluice.Proofs.Prompt.Lines
import Sluice.Proofs.Prompt.Interrupts
import Sluice.Proofs.Shell.Consulting
import Sluice.Proofs.Prompt.Services
import Sluice.Proofs.Prompt.Conversation
import Sluice.Proofs.Order.Frame
import Sluice.Proofs.Session.Canonical
import Sluice.Proofs.Value.Substitution
import Sluice.Proofs.Program.Pairs
import Sluice.Proofs.Order.Reading
import Sluice.Proofs.Text.Pieces
import Sluice.Proofs.Value.Paths
import Sluice.Proofs.Output.Envelopes
import Sluice.Proofs.Text.Columns
import Sluice.Proofs.Output.Tables
import Sluice.Proofs.Output.Cells
import Sluice.Proofs.Calendar.Days
import Sluice.Proofs.Calendar.Moments
import Sluice.Proofs.Output.Records
import Sluice.Proofs.Workspace.Names
import Sluice.Proofs.Workspace.Finding
import Sluice.Proofs.Workspace.Roots
import Sluice.Proofs.Workspace.Listing
import Sluice.Proofs.Workspace.Serving
import Sluice.Proofs.Workspace.Undoing
import Sluice.Proofs.Store.Shelf
import Sluice.Proofs.Order.Failures
import Sluice.Proofs.Order.Validation
import Sluice.Proofs.Token.Integers
import Sluice.Proofs.Tree.Nodes
import Sluice.Proofs.Tree.Derivations
import Sluice.Proofs.Tree.Stops
import Sluice.Proofs.Tree.Failures
import Sluice.Proofs.Tree.Refusals
import Sluice.Proofs.Tree.Positions
import Sluice.Proofs.Program.Shapes
import Sluice.Proofs.Text.Slices
import Sluice.Proofs.Token.Slicing
import Sluice.Proofs.Value.Slicing
import Sluice.Proofs.History.Records
import Sluice.Proofs.History.Services
import Sluice.Proofs.History.Appending
import Sluice.Proofs.Config.Merging
