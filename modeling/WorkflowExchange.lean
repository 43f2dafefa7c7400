import WorkflowExchange.Access.Scope
import WorkflowExchange.Copy.Contents
import WorkflowExchange.Copy.Degraded
import WorkflowExchange.Copy.Depth
import WorkflowExchange.Copy.Full
import WorkflowExchange.Copy.Graph
import WorkflowExchange.Copy.Leaf
import WorkflowExchange.Copy.Loop
import WorkflowExchange.Copy.Safe
import WorkflowExchange.Copy.Worklist
import WorkflowExchange.Description.Generator
import WorkflowExchange.Description.Heuristic
import WorkflowExchange.Description.Provider
import WorkflowExchange.Description.Service
import WorkflowExchange.Description.Summary
import WorkflowExchange.Description.Words
import WorkflowExchange.Exchange.Administration
import WorkflowExchange.Exchange.Catalog
import WorkflowExchange.Exchange.Changes
import WorkflowExchange.Exchange.Loaded
import WorkflowExchange.Exchange.Records
import WorkflowExchange.Exchange.Run
import WorkflowExchange.Exchange.Session
import WorkflowExchange.Exchange.Summary
import WorkflowExchange.Exchange.View
import WorkflowExchange.Exchange.Workflows
import WorkflowExchange.Failure
import WorkflowExchange.Http.Bearer
import WorkflowExchange.Http.Body
import WorkflowExchange.Http.Message
import WorkflowExchange.Http.Origin
import WorkflowExchange.Http.Path
import WorkflowExchange.Http.Route
import WorkflowExchange.Http.Service
import WorkflowExchange.Identifier
import WorkflowExchange.Intake.Field
import WorkflowExchange.Intake.Fit
import WorkflowExchange.Intake.Listing
import WorkflowExchange.Intake.Numeral
import WorkflowExchange.Intake.Request
import WorkflowExchange.Intake.Rule
import WorkflowExchange.Json.Access
import WorkflowExchange.Json.Basic
import WorkflowExchange.Json.Reader
import WorkflowExchange.Json.Writer
import WorkflowExchange.Log.Context
import WorkflowExchange.Log.Line
import WorkflowExchange.Log.Message
import WorkflowExchange.Log.Template
import WorkflowExchange.Log.Trial
import WorkflowExchange.Number.Binary64
import WorkflowExchange.Number.Positional
import WorkflowExchange.Number.Precision
import WorkflowExchange.Number.Reading
import WorkflowExchange.Number.Shortest
import WorkflowExchange.Proofs.Copy.Graph
import WorkflowExchange.Proofs.Copy.Json
import WorkflowExchange.Proofs.Copy.Loop
import WorkflowExchange.Proofs.Copy.Lossless
import WorkflowExchange.Proofs.Copy.Nesting
import WorkflowExchange.Proofs.Copy.Shape
import WorkflowExchange.Proofs.Exchange.Alike
import WorkflowExchange.Proofs.Exchange.Atomic
import WorkflowExchange.Proofs.Exchange.Calm
import WorkflowExchange.Proofs.Exchange.Capacity
import WorkflowExchange.Proofs.Exchange.Catalog
import WorkflowExchange.Proofs.Exchange.Decisions
import WorkflowExchange.Proofs.Exchange.Declared
import WorkflowExchange.Proofs.Exchange.Deed
import WorkflowExchange.Proofs.Exchange.Downloads
import WorkflowExchange.Proofs.Exchange.History
import WorkflowExchange.Proofs.Exchange.Importing
import WorkflowExchange.Proofs.Exchange.Imports
import WorkflowExchange.Proofs.Exchange.Listing
import WorkflowExchange.Proofs.Exchange.Outcome
import WorkflowExchange.Proofs.Exchange.Provenance
import WorkflowExchange.Proofs.Exchange.Publish
import WorkflowExchange.Proofs.Exchange.Publishing
import WorkflowExchange.Proofs.Exchange.Race
import WorkflowExchange.Proofs.Exchange.Records
import WorkflowExchange.Proofs.Exchange.Settling
import WorkflowExchange.Proofs.Exchange.Snapshot
import WorkflowExchange.Proofs.Exchange.Sound
import WorkflowExchange.Proofs.Exchange.Travel
import WorkflowExchange.Proofs.Exchange.Turn
import WorkflowExchange.Proofs.Exchange.Unbound
import WorkflowExchange.Proofs.Exchange.Upsert
import WorkflowExchange.Proofs.Exchange.Workflows
import WorkflowExchange.Proofs.Description.Generated
import WorkflowExchange.Proofs.Identifier
import WorkflowExchange.Proofs.Intake.Fit
import WorkflowExchange.Proofs.Intake.Graphs
import WorkflowExchange.Proofs.Intake.Request
import WorkflowExchange.Proofs.Intake.Updates
import WorkflowExchange.Proofs.Json.Distinct
import WorkflowExchange.Proofs.Reading
import WorkflowExchange.Proofs.Store.Access
import WorkflowExchange.Proofs.Store.Count
import WorkflowExchange.Proofs.Store.Tables
import WorkflowExchange.Proofs.Value.Agreement
import WorkflowExchange.Settings.Basic
import WorkflowExchange.Settings.Reading
import WorkflowExchange.Store.Cell
import WorkflowExchange.Store.Columns
import WorkflowExchange.Store.Prepared
import WorkflowExchange.Store.Row
import WorkflowExchange.Store.Tables
import WorkflowExchange.Text.Blank
import WorkflowExchange.Text.Casing
import WorkflowExchange.Text.Excerpt
import WorkflowExchange.Text.Literal
import WorkflowExchange.Text.Lowercase
import WorkflowExchange.Text.Printable
import WorkflowExchange.Text.Units
import WorkflowExchange.Text.Utf8
import WorkflowExchange.Text.Wide
import WorkflowExchange.Time.Iso
import WorkflowExchange.Time.Moment
import WorkflowExchange.Value.Access
import WorkflowExchange.Value.Agreement
import WorkflowExchange.Value.Bare
import WorkflowExchange.Value.Basic
import WorkflowExchange.Value.Display
import WorkflowExchange.Value.Portable
import WorkflowExchange.Value.Serialized
import WorkflowExchange.Proofs.Exchange.Lockstep
import WorkflowExchange.Proofs.Exchange.Secrecy
import WorkflowExchange.Proofs.Exchange.Describing
import WorkflowExchange.Proofs.Exchange.Visibility
import WorkflowExchange.Proofs.Copy.Stable
import WorkflowExchange.Proofs.Copy.Inert
import WorkflowExchange.Proofs.Exchange.Rewriting
import WorkflowExchange.Proofs.Exchange.Rounds
import WorkflowExchange.Proofs.Exchange.Deletion
import WorkflowExchange.Proofs.Exchange.Heeding
import WorkflowExchange.Proofs.Exchange.Reporting
import WorkflowExchange.Proofs.Exchange.Updating
import WorkflowExchange.Proofs.Exchange.Resending
import WorkflowExchange.Proofs.Intake.Levels
import WorkflowExchange.Proofs.Copy.Parts
import WorkflowExchange.Proofs.Exchange.Wording
import WorkflowExchange.Proofs.Exchange.Ownership
import WorkflowExchange.Proofs.Value.Represented
import WorkflowExchange.Proofs.Description.Fitting
import WorkflowExchange.Proofs.Description.Fallback
import WorkflowExchange.Proofs.Text.Words
import WorkflowExchange.Proofs.Exchange.Failing
import WorkflowExchange.Proofs.Exchange.Partial
import WorkflowExchange.Proofs.Exchange.Previewing
import WorkflowExchange.Proofs.Copy.OneLevel
import WorkflowExchange.Proofs.Exchange.Moving
import WorkflowExchange.Proofs.Exchange.Relisting
import WorkflowExchange.Proofs.Text.Segments
import WorkflowExchange.Proofs.Text.Lowercase
import WorkflowExchange.Proofs.Description.Outlined
import WorkflowExchange.Proofs.Log.Pieces
import WorkflowExchange.Proofs.Log.Context
import WorkflowExchange.Proofs.Text.Excerpt
