import SurfaceGuard.Run
import SurfaceGuard.Schema
import SurfaceGuard.Value.Canonical

/-!
# The JSON report

The report for other programs: every result in full, as canonical JSON with a line feed
at the end.
-/

namespace SurfaceGuard

open Value

/-- A diff as a value. -/
def Diff.toValue (d : Diff) : Value :=
  record [("target", string d.target), ("added", texts d.added), ("removed", texts d.removed),
    ("changed", texts d.changed)]

/-- A change as a value. -/
def SignatureChange.toValue (c : SignatureChange) : Value :=
  record [("identifier", string c.identifier), ("before", string c.before),
    ("after", string c.after)]

/-- A decision as a value. -/
def Decision.toValue (d : Decision) : Value :=
  record [("target", string d.target), ("mode", string d.mode.name),
    ("failOnAdditions", boolean d.failOnAdditions), ("passed", boolean d.passed),
    ("outcome", string d.outcome.name), ("diff", d.diff.toValue), ("report", string d.report)]

/-- A failure as a value. -/
def ErrorInfo.toValue (e : ErrorInfo) : Value :=
  record [("kind", string e.kind.name), ("message", string e.message)]

/-- A result as a value. -/
def TargetResult.toValue : TargetResult → Value
  | updated target symbolCount baselinePath durationMs =>
    record [("status", string "updated"), ("target", string target),
      ("symbolCount", number symbolCount), ("baselinePath", string baselinePath),
      ("durationMs", number durationMs)]
  | checked target decision changes durationMs =>
    record [("status", string "checked"), ("target", string target),
      ("decision", decision.toValue), ("changes", list (changes.map SignatureChange.toValue)),
      ("durationMs", number durationMs)]
  | failed target error durationMs =>
    record [("status", string "error"), ("target", string target), ("error", error.toValue),
      ("durationMs", number durationMs)]

/-- The results of a run as a value. -/
def RunResult.toValue (run : RunResult) : Value :=
  record [("generatedAt", string run.generatedAt), ("update", boolean run.update),
    ("mode", string run.mode.name), ("failOnAdditions", boolean run.failOnAdditions),
    ("results", list (run.results.map TargetResult.toValue)), ("passed", boolean run.passed)]

/-- The failure for a value without a JSON form. -/
def Unsupported.toError (u : Unsupported) : GuardError := .unsupported u.placeText u.typeName

namespace Report

/-- The report for other programs.  It fails for a number that is not finite. -/
def json (run : RunResult) : Except GuardError Text :=
  match run.toValue.canonicalText with
  | .ok t => .ok (t ++ Text.newline)
  | .error u => .error u.toError

end Report

end SurfaceGuard
