import ToolGate.Main
import ToolGate.Hub.Resource
import ToolGate.Hub.Statistics
import ToolGate.Schema.Equality
import ToolGate.Proofs.Correspondence
import ToolGate.Proofs.Dispatcher
import ToolGate.Proofs.Dispatcher.Binding
import ToolGate.Proofs.Dispatcher.Guard
import ToolGate.Proofs.Dispatcher.Run
import ToolGate.Proofs.Entries
import ToolGate.Proofs.Json.Equality
import ToolGate.Proofs.Json.Merge
import ToolGate.Proofs.Json.Projection
import ToolGate.Proofs.Json.Reading
import ToolGate.Proofs.Json.WellFormed
import ToolGate.Proofs.Registry
import ToolGate.Proofs.Schema.Compilation
import ToolGate.Proofs.Schema.Correctness
import ToolGate.Proofs.Schema.Reading
import ToolGate.Proofs.Schema.Semantics
import ToolGate.Proofs.Schema.Structure
import ToolGate.Proofs.Validator.Acceptance
import ToolGate.Proofs.Validator.Frame
import ToolGate.Proofs.Validator.Intersection
import ToolGate.Proofs.Validator.Issues
import ToolGate.Proofs.Validator.Leniency
import ToolGate.Proofs.Validator.Projection
import ToolGate.Proofs.Validator.Reacceptance
import ToolGate.Proofs.Validator.RoundTrip
import ToolGate.Proofs.Validator.Rules
import ToolGate.Proofs.Validator.Structure
import ToolGate.Proofs.Validator.Verdict
import ToolGate.Proofs.Schema.Policies
import ToolGate.Proofs.Validator.Positions
import ToolGate.Proofs.Validator.Violations
import ToolGate.Proofs.ToolName
import ToolGate.Proofs.Dispatcher.Exposure
import ToolGate.Proofs.Dispatcher.Isolation
import ToolGate.Proofs.Schema.Equality
import ToolGate.Proofs.Schema.Rendering
import ToolGate.Proofs.Registry.Run
import ToolGate.Proofs.Registry.History
import ToolGate.Proofs.Registry.Replay
import ToolGate.Proofs.Hub
import ToolGate.Proofs.Registry.Advertisement
import ToolGate.Proofs.EntryPoints
import ToolGate.Proofs.Json.Equivalence
import ToolGate.Proofs.Json.MergeMembers
import ToolGate.Proofs.Schema.Congruence
import ToolGate.Proofs.Schema.Monotonicity
import ToolGate.Proofs.Schema.Replacement
import ToolGate.Proofs.Validator.Congruence
import ToolGate.Proofs.Validator.Idempotence
import ToolGate.Proofs.Validator.Locality
import ToolGate.Proofs.Validator.Widening
import ToolGate.Proofs.Json.Arrangement
import ToolGate.Proofs.Validator.Contributions
import ToolGate.Proofs.Validator.Indistinguishability
import ToolGate.Proofs.Json.Positions
import ToolGate.Proofs.Validator.Composition
import ToolGate.Proofs.ToolName.Splitting
import ToolGate.Proofs.Number.Rounding
import ToolGate.Proofs.Schema.Bounds
import ToolGate.Proofs.Schema.Literals
import ToolGate.Proofs.Schema.Patterns
import ToolGate.Proofs.Entries.Rewriting
import ToolGate.Proofs.Hub.Reading
import ToolGate.Proofs.Dispatcher.Loading
import ToolGate.Proofs.Shape.Requirement
import ToolGate.Proofs.Schema.Absence
import ToolGate.Proofs.Validator.Interchange
import ToolGate.Proofs.Schema.Transparency
import ToolGate.Proofs.Text.Digit
import ToolGate.Proofs.Calendar
import ToolGate.Proofs.Format
import ToolGate.Proofs.Format.Form
import ToolGate.Proofs.Format.DateTime
import ToolGate.Proofs.Format.Email
import ToolGate.Proofs.Format.IpAddress
import ToolGate.Proofs.Schema.Sizes
import ToolGate.Proofs.Schema.Types
import ToolGate.Proofs.Schema.NormalForm
import ToolGate.Proofs.Hub.RoundTrip
