import RigScript.Main
import RigScript.Proofs.Condition.Grammar
import RigScript.Proofs.Execution.Checked
import RigScript.Proofs.Macro.Deferred
import RigScript.Proofs.Macro.Substitution
import RigScript.Proofs.Macro.Completion
import RigScript.Proofs.Statement.Grammar
import RigScript.Proofs.Execution.Variables
import RigScript.Proofs.Execution.Readiness
import RigScript.Proofs.Plugin.Lifecycle
import RigScript.Proofs.Plugin.Loading
import RigScript.Proofs.Plugin.Bringing
import RigScript.Proofs.Plugin.Registering
import RigScript.Proofs.Runner.Stages
import RigScript.Proofs.Runner.Phases
import RigScript.Proofs.Runner.Release
import RigScript.Proofs.Session.Account
import RigScript.Proofs.Execution.Lockstep
import RigScript.Proofs.Runner.Detached
import RigScript.Proofs.Program.Relisting
import RigScript.Proofs.Execution.Admission
import RigScript.Proofs.Execution.Tally
import RigScript.Proofs.Program.Building
import RigScript.Proofs.Plugin.Provenance
import RigScript.Proofs.Execution.Provenance
import RigScript.Proofs.Runner.Supply
import RigScript.Proofs.Runner.Interchange
import RigScript.Proofs.Condition.Fault
import RigScript.Proofs.Statement.Overlap
import RigScript.Proofs.Script.Comment
import RigScript.Proofs.Script.Selection
import RigScript.Proofs.Script.TrailingComment
import RigScript.Proofs.Script.Writing
import RigScript.Proofs.Version.Order
import RigScript.Proofs.Version.Reading
import RigScript.Proofs.Condition.Layout
