import SurfaceGuard.Baseline.File
import SurfaceGuard.Host.Task
import SurfaceGuard.Number.Decimal

/-!
# Storing baselines

A baseline is replaced in one step: the new content is written to a file of its own
beside the old one, which is then put in its place.  If that fails, the file of its own
is removed and the old baseline stays.
-/

namespace SurfaceGuard.Baseline

/-- The stored baseline of a target.  A missing file is a failure, never an empty snapshot. -/
def load (dir target : Text) : Task Snapshot := do
  let file := path dir target
  if ← Task.pathExists file then
    let content ← Task.readText file
    Task.ofGuard (decode content file)
  else
    Task.fail (.guard (.baselineMissing target file))

/-- The path at which the new content is written first. -/
def temporaryPath (dir target : Text) (processId : Nat) (clock : Number) : Text :=
  Path.join dir ("." ++ target ++ ".json." ++ Text.ofNat processId ++ "." ++ clock.toText ++ ".tmp")

/-- Writes a content at one path and puts it in the place of another. -/
def replace (temporary file : Text) (content : Bytes) : Task Unit := do
  Task.writeBytes temporary content
  Task.rename temporary file

/-- Stores the baseline of a snapshot's target, and returns its path. -/
def save (s : Snapshot) (dir : Text) : Task Text := do
  Task.makeDirectories dir
  let file := path dir s.target
  let temporary ← Task.look fun w => temporaryPath dir s.target w.processId w.clock
  match ← Task.outcome (replace temporary file (encode s)) with
  | .ok () => return file
  | .error e =>
    Task.removeFile temporary
    Task.fail e

end SurfaceGuard.Baseline
