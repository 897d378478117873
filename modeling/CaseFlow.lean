import CaseFlow.Audit.Output
import CaseFlow.Board.Columns
import CaseFlow.Board.Lists
import CaseFlow.Canvas.Geometry
import CaseFlow.Http.Server
import CaseFlow.Main
import CaseFlow.Settings.Override
import CaseFlow.Proofs.Workflow.Sound
import CaseFlow.Proofs.Case.Step
import CaseFlow.Proofs.Value.Fields
import CaseFlow.Proofs.Case.Run
import CaseFlow.Proofs.Case.History
import CaseFlow.Proofs.Case.Closing
import CaseFlow.Proofs.Case.Recording
import CaseFlow.Proofs.Case.Permission
import CaseFlow.Proofs.Editor.Structure
import CaseFlow.Proofs.Editor.Canonical
import CaseFlow.Proofs.Service.Editing
import CaseFlow.Proofs.Service.Operation
import CaseFlow.Proofs.Service.Ledger
import CaseFlow.Proofs.Form.Portable
import CaseFlow.Proofs.Case.Progress
import CaseFlow.Proofs.Service.Authoring
import CaseFlow.Proofs.Service.Decisions
import CaseFlow.Proofs.Service.History
import CaseFlow.Proofs.Service.Contention
import CaseFlow.Proofs.Service.Maintenance
import CaseFlow.Proofs.Service.Addresses
import CaseFlow.Proofs.Http.Administration
import CaseFlow.Proofs.Service.Ownership
import CaseFlow.Proofs.Case.Strictness
import CaseFlow.Proofs.Service.Awaiting
import CaseFlow.Proofs.Editor.Gating
import CaseFlow.Proofs.Service.Gating
import CaseFlow.Proofs.Http.Orders
import CaseFlow.Proofs.Http.Gating
import CaseFlow.Proofs.Json.Readback
import CaseFlow.Proofs.Service.Creation
import CaseFlow.Proofs.Editor.Keeping
import CaseFlow.Proofs.Workflow.NormalForm
import CaseFlow.Proofs.Service.Seeding
import CaseFlow.Proofs.Calendar.Dates
import CaseFlow.Proofs.Form.Resubmitted
import CaseFlow.Proofs.Value.Shown
import CaseFlow.Proofs.Form.Lenient
import CaseFlow.Proofs.Service.Names
import CaseFlow.Proofs.Case.Confinement
import CaseFlow.Proofs.Case.Handover
import CaseFlow.Proofs.Case.Refusal
import CaseFlow.Proofs.Editor.Unreported
import CaseFlow.Proofs.Editor.Routing
import CaseFlow.Proofs.Editor.Sources
import CaseFlow.Proofs.Editor.Undoing
import CaseFlow.Proofs.Editor.Connecting
import CaseFlow.Proofs.Workflow.Identity
import CaseFlow.Proofs.Workflow.Reachability
import CaseFlow.Proofs.Decimal.Order
import CaseFlow.Proofs.Board.Columns
import CaseFlow.Proofs.Audit.Scoping
import CaseFlow.Proofs.Editor.Rebuilding
import CaseFlow.Proofs.Service.Saving
import CaseFlow.Proofs.Board.Recent
