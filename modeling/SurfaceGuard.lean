import SurfaceGuard.Main
import SurfaceGuard.Proofs.Baseline.NormalForm
import SurfaceGuard.Proofs.Baseline.Replacement
import SurfaceGuard.Proofs.Baseline.Separation
import SurfaceGuard.Proofs.CommandLine.Options
import SurfaceGuard.Proofs.Compatibility
import SurfaceGuard.Proofs.Config.Resolved
import SurfaceGuard.Proofs.Diff.Patch
import SurfaceGuard.Proofs.Export.FindGraph
import SurfaceGuard.Proofs.Export.Outcome
import SurfaceGuard.Proofs.Export.Territory
import SurfaceGuard.Proofs.Gate
import SurfaceGuard.Proofs.Graph.Noise
import SurfaceGuard.Proofs.Graph.Signature
import SurfaceGuard.Proofs.Graph.Visible
import SurfaceGuard.Proofs.Guard.Check
import SurfaceGuard.Proofs.Guard.History
import SurfaceGuard.Proofs.Guard.Isolation
import SurfaceGuard.Proofs.Guard.Order
import SurfaceGuard.Proofs.Guard.Recorded
import SurfaceGuard.Proofs.Policy.Report
import SurfaceGuard.Proofs.Process.Captured
import SurfaceGuard.Proofs.Process.TimeLimit
import SurfaceGuard.Proofs.Program.Agreement
import SurfaceGuard.Proofs.Program.Validation
import SurfaceGuard.Proofs.Program.Verbosity
import SurfaceGuard.Proofs.Report.Verdict
import SurfaceGuard.Proofs.Value.Refusal
import SurfaceGuard.Workflow.Program
import SurfaceGuard.Proofs.Program.Exit
