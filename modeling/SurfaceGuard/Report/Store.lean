import SurfaceGuard.Host.Task
import SurfaceGuard.Path
import SurfaceGuard.Report.Data
import SurfaceGuard.Report.Markdown
import SurfaceGuard.Report.Plain

/-!
# Storing reports

The JSON and the Markdown report of a run go to a directory of their own below the
output directory.
-/

namespace SurfaceGuard.Report

/-- Where the reports of a run are. -/
structure Saved where
  jsonPath : Text
  markdownPath : Text
  deriving DecidableEq, Repr

/-- Writes the reports of a run and returns where they are. -/
def save (run : RunResult) (markdownText outputDir : Text) : Task Saved := do
  let dir := Path.join outputDir "apiguard-report"
  Task.makeDirectories dir
  let jsonPath := Path.join dir "apiguard-report.json"
  let jsonText ← Task.ofGuard (json run)
  Task.writeBytes jsonPath (Utf8.encode jsonText)
  Task.say .info ("📄 JSON report saved to: " ++ jsonPath)
  let markdownPath := Path.join dir "API_GUARD_REPORT.md"
  Task.writeBytes markdownPath (Utf8.encode markdownText)
  Task.say .info ("📄 Markdown report saved to: " ++ markdownPath)
  return ⟨jsonPath, markdownPath⟩

end SurfaceGuard.Report
