import SurfaceGuard.Number.Decimal
import SurfaceGuard.Run

/-!
# The Markdown report

The report for reading in a browser: a heading, a table of counts, the verdict, and a
section for each target with the identifiers that differ.
-/

namespace SurfaceGuard.Report

/-- A list item with an identifier as code. -/
def codeItem (id : Text) : Text := "- \x60" ++ id ++ "\x60"

/-- The heading of a report and what the run was asked to do. -/
def headLines (run : RunResult) : List Text :=
  [if run.update then "# API Baseline Update" else "# API Guard Report",
    [],
    "**Generated:** " ++ run.generatedAt,
    "**Mode:** " ++ run.mode.name
      ++ (if run.failOnAdditions then (" (additions disallowed)" : Text) else []),
    []]

/-- The table of counts. -/
def summaryLines (s : Summary) : List Text :=
  ["## Summary",
    [],
    "| Metric | Value |",
    "|--------|-------|",
    "| Targets | " ++ Text.ofNat s.total ++ " |",
    "| Passed | " ++ Text.ofNat s.passedCount ++ " |",
    "| Failed | " ++ Text.ofNat s.failedCount ++ " |",
    "| Errors | " ++ Text.ofNat s.errorCount ++ " |",
    []]

/-- The heading with the verdict. -/
def verdictHeading (passed : Bool) : Text :=
  if passed then "## ✅ No Breaking API Changes" else "## ❌ API Guard Failed"

/-- The removed identifiers, if there are any. -/
def removedLines (removed : List Text) : List Text :=
  if removed.isEmpty then [] else (["#### Removed", []] : List Text) ++ removed.map codeItem ++ [[]]

/-- The changes as one block, if there are any. -/
def changedLines (changes : List SignatureChange) : List Text :=
  if changes.isEmpty then []
  else ["#### Changed", [], "\x60\x60\x60diff",
    Text.lines (changes.map SignatureChange.text), "\x60\x60\x60", []]

/-- The added identifiers folded away, if there are any. -/
def addedLines (added : List Text) : List Text :=
  if added.isEmpty then []
  else (["<details>",
      "<summary><strong>Added (" ++ Text.ofNat added.length ++ ")</strong></summary>",
        []] : List Text)
    ++ added.map codeItem ++ ([[], "</details>", []] : List Text)

/-- What a section says below its heading. -/
def sectionBody : TargetResult → List Text
  | .updated _ symbolCount .. =>
    ["Baseline written with " ++ symbolCount.toText ++ " public symbols.", []]
  | .failed _ error _ => ["**" ++ error.kind.name ++ ":** " ++ error.message, []]
  | .checked _ decision changes _ =>
    ["- **Outcome:** " ++ decision.outcome.name,
      "- **Removed:** " ++ Text.ofNat decision.diff.removed.length,
      "- **Changed:** " ++ Text.ofNat decision.diff.changed.length,
      "- **Added:** " ++ Text.ofNat decision.diff.added.length,
      []]
      ++ removedLines decision.diff.removed ++ changedLines changes
      ++ addedLines decision.diff.added

/-- The section of one target. -/
def sectionLines (r : TargetResult) : List Text :=
  ["### " ++ (if r.isPassing then ("✅" : Text) else "❌") ++ " " ++ r.target, []] ++ sectionBody r

/-- The report as Markdown. -/
def markdown (run : RunResult) : Text :=
  Text.lines (headLines run ++ summaryLines run.summary ++ [verdictHeading run.passed, []]
    ++ run.results.flatMap sectionLines)

end SurfaceGuard.Report
