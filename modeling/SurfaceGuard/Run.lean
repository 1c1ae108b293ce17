import SurfaceGuard.Failure
import SurfaceGuard.Policy

/-!
# The results of a run

A run has one result per configured target, in the order of the configuration.  A target
was updated, or checked with a decision, or it failed.  The run passes if every target
does.
-/

namespace SurfaceGuard

/-- What came out for one target. -/
inductive TargetResult where
  /-- A new baseline was stored. -/
  | updated (target : Text) (symbolCount : Number) (baselinePath : Text) (durationMs : Number)
  /-- The current interface was compared with the baseline. -/
  | checked (target : Text) (decision : Decision) (changes : List SignatureChange)
      (durationMs : Number)
  /-- The target could not be updated or checked. -/
  | failed (target : Text) (error : ErrorInfo) (durationMs : Number)
  deriving DecidableEq, Repr

namespace TargetResult

/-- The target of a result. -/
def target : TargetResult → Text
  | updated t .. => t
  | checked t .. => t
  | failed t .. => t

/-- Does the target pass? -/
def isPassing : TargetResult → Bool
  | updated .. => true
  | checked _ decision .. => decision.passed
  | failed .. => false

/-- Did the target fail without a decision? -/
def isFailure : TargetResult → Bool
  | failed .. => true
  | _ => false

end TargetResult

/-- What came out of a run. -/
structure RunResult where
  generatedAt : Text
  update : Bool
  mode : Mode
  failOnAdditions : Bool
  results : List TargetResult
  passed : Bool
  deriving DecidableEq, Repr

/-- The results of a run, counted. -/
structure Summary where
  total : Nat
  passedCount : Nat
  failedCount : Nat
  errorCount : Nat
  deriving DecidableEq, Repr

/-- The counts of a run. -/
def RunResult.summary (run : RunResult) : Summary :=
  let passedCount := (run.results.filter TargetResult.isPassing).length
  { total := run.results.length
    passedCount := passedCount
    failedCount := run.results.length - passedCount
    errorCount := (run.results.filter TargetResult.isFailure).length }

end SurfaceGuard
