import CallPlan.Main
import CallPlan.Proofs.Execution.Resolution
import CallPlan.Proofs.Reference.Substitution
import CallPlan.Proofs.Execution.Coverage
import CallPlan.Proofs.Schema.Shape
import CallPlan.Proofs.Execution.Trace
import CallPlan.Proofs.Turn.Events
import CallPlan.Proofs.Turn.Record
import CallPlan.Proofs.Turn.Refusal
import CallPlan.Proofs.Execution.Cancellation
import CallPlan.Proofs.Execution.Sightings
import CallPlan.Proofs.Record.Checked
import CallPlan.Proofs.Tool.Accord
import CallPlan.Proofs.Planner.Reply
import CallPlan.Proofs.Reference.Pointwise
import CallPlan.Proofs.Plan.Document
import CallPlan.Proofs.Envelope.Forms
import CallPlan.Proofs.Tool.Promise
import CallPlan.Proofs.Reference.Lookup
import CallPlan.Proofs.Reference.Grammar
import CallPlan.Proofs.Schema.Report
import CallPlan.Proofs.Planner.Chatter
import CallPlan.Proofs.Execution.Independence
import CallPlan.Proofs.Execution.Transparency
import CallPlan.Proofs.Validation.Truth
import CallPlan.Proofs.Validation.Alike
import CallPlan.Proofs.Registry.Ordered
import CallPlan.Proofs.Execution.Account
import CallPlan.Proofs.Shell.Retry
import CallPlan.Proofs.Planner.Escape
import CallPlan.Proofs.Shell.Survival
import CallPlan.Proofs.Json.Rewriting
import CallPlan.Proofs.Validation.Argument
