import SurfaceGuard.CommandLine.Options
import SurfaceGuard.Log

/-!
# What the command line answers without running

The help text, the version, and the messages for arguments that cannot be read.
-/

namespace SurfaceGuard.CommandLine

/-- The version of the guard. -/
def version : Text := "1.1.0"

/-- The help text. -/
def help : Text := Text.lines (([
  "Usage: apiguard [options]",
  "",
  "Snapshot public API symbol graphs and block breaking changes",
  "",
  "Options:",
  "  -v, --version           Show version number",
  "  -c, --config <path>     Path to config file (default: \".apiguard.json\")",
  "  --update                Update baseline snapshots with current API (default:",
  "                          false)",
  "  --mode <mode>           Override the configured mode (choices: \"semver\",",
  "                          \"strict\")",
  "  --fail-on-additions     Fail on added symbols in semver mode",
  "  --no-fail-on-additions  Allow added symbols even if the config disallows them",
  "  --report-dir <dir>      Write JSON and markdown reports to this directory",
  "  --verbose               Show debug output (default: false)",
  "  -q, --quiet             Only print errors and the final report (default:",
  "                          false)",
  "  -h, --help              display help for command",
  "",
  "Configuration (.apiguard.json):",
  "  \x7b",
  "    \"targets\": [\"YourPublicTarget\"],",
  "    \"mode\": \"semver\",",
  "    \"baselineDir\": \"api-baseline\",",
  "    \"outputDir\": \".build/apiguard\",",
  "    \"failOnAdditions\": false",
  "  \x7d",
  "",
  "Modes:",
  "  semver   Fail only on breaking changes (removals, signature changes)",
  "  strict   Fail on any API change (additions, removals, changes)",
  "",
  "Workflow:",
  "  1. First run: apiguard --update  (creates baseline)",
  "  2. CI runs:   apiguard           (compares against baseline)",
  "  3. On API change: apiguard --update && commit",
  "",
  "Exit codes:",
  "  0  No breaking changes (or baseline updated)",
  "  1  Breaking changes detected or error occurred"] : List String).map Text.ofString)

namespace Stop

/-- The exit code after reading has stopped. -/
def exitCode : Stop → Nat
  | help => 0
  | version => 0
  | _ => 1

/-- What is written when reading has stopped. -/
def streams : Stop → Streams
  | help => .out (CommandLine.help ++ Text.newline)
  | version => .out (CommandLine.version ++ Text.newline)
  | unknownOption argument => .err ("error: unknown option '" ++ argument ++ "'\n")
  | missingValue flag => .err ("error: option '" ++ flag.usage ++ "' argument missing\n")
  | unknownMode value =>
    .err ("error: option '" ++ Flag.mode.usage ++ "' argument '" ++ value
      ++ "' is invalid. Allowed choices are semver, strict.\n")

end Stop

end SurfaceGuard.CommandLine
