import SurfaceGuard.Run

/-!
# The plain report

The report for a terminal: a part for each target, and a last line with the verdict on
the whole run.
-/

namespace SurfaceGuard.Report

/-- The part of one target. -/
def plainPart : TargetResult → Text
  | .updated target .. => "Updated baseline: " ++ target
  | .checked _ decision .. => decision.report
  | .failed target error _ =>
    "Target: " ++ target ++ "\n  Error (" ++ error.kind.name ++ "): " ++ error.message

/-- The number of failed targets out of all. -/
def failedOfAll (s : Summary) : Text :=
  Text.ofNat s.failedCount ++ " of " ++ Text.ofNat s.total ++ " target(s)"

/-- The last line. -/
def verdictLine (run : RunResult) : Text :=
  match run.update, run.passed with
  | true, true => "APIGuard: baseline updated."
  | true, false => "APIGuard: baseline update failed for " ++ failedOfAll run.summary ++ "."
  | false, true => "APIGuard: OK"
  | false, false => "APIGuard: FAIL (" ++ failedOfAll run.summary ++ ")"

/-- The report for a terminal. -/
def plain (run : RunResult) : Text :=
  Text.lines (run.results.map plainPart ++ [verdictLine run]) ++ Text.newline

end SurfaceGuard.Report
