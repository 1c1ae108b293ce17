import SurfaceGuard.Graph
import SurfaceGuard.Path
import SurfaceGuard.Policy

/-!
# Configuration

What is guarded and how.  Only the targets must be given; every other field has a
default, which applies if the field is absent.  The three directories are read relative
to the directory in which the guard runs.
-/

namespace SurfaceGuard

/-- What is guarded and how. -/
structure Config where
  targets : List Text
  mode : Mode
  baselineDir : Text
  outputDir : Text
  failOnAdditions : Bool
  exportCommand : List Text
  symbolGraphDir : Text
  exportTimeoutMs : Number
  deriving DecidableEq, Repr

namespace Config

open Shape

/-- The name of the configuration file where none is given. -/
def defaultPath : Text := ".apiguard.json"

/-- The export command where none is configured. -/
def defaultCommand : List Text := ["swift", "package", "dump-symbol-graph"]

/-- The shape of a configuration file. -/
def shape : Shape Config := object fun o =>
  Config.mk
    <$> field "targets" (nonemptyList nonemptyText) o
    <*> field "mode" (withDefault .semver (word Mode.words)) o
    <*> field "baselineDir" (withDefault "api-baseline" nonemptyText) o
    <*> field "outputDir" (withDefault ".build/apiguard" nonemptyText) o
    <*> field "failOnAdditions" (withDefault false flag) o
    <*> field "exportCommand" (withDefault defaultCommand (nonemptyList nonemptyText)) o
    <*> field "symbolGraphDir" (withDefault ".build/symbol-graphs" nonemptyText) o
    <*> field "exportTimeoutMs" (withDefault (Number.ofNat 600000) positiveWhole) o

/-- The configuration with its directories read relative to the given one. -/
def resolved (cwd : Text) (c : Config) : Config :=
  { c with
    baselineDir := Path.resolve cwd c.baselineDir
    outputDir := Path.resolve cwd c.outputDir
    symbolGraphDir := Path.resolve cwd c.symbolGraphDir }

/-- The configuration of a text that was taken from the given source. -/
def parse (text source cwd : Text) : Except GuardError Config :=
  match Json.read? text with
  | none => .error (.configInvalid source Graph.notJson)
  | some json =>
    match shape (some json) with
    | .valid c => .ok (c.resolved cwd)
    | .invalid issues => .error (.configInvalid source (Issue.report issues))

end Config

end SurfaceGuard
