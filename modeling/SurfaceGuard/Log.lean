import SurfaceGuard.Text.Basic

/-!
# The log

What happens during a run is recorded as a list of entries, whoever watches.  A logger
is a rendering of entries as output, so how much is shown has no influence on what is
done.

* `console` writes to the error stream, with a sign in front of each level; debug
  messages only show if it is verbose.
* `quiet` shows errors alone.
* `workflow` writes the commands of a continuous-integration runner to the output stream.
-/

namespace SurfaceGuard

/-- The levels of a message. -/
inductive Level where
  | info | warning | error | debug
  deriving DecidableEq, Repr

/-- The name of a level. -/
def Level.name : Level → Text
  | info => "info"
  | warning => "warning"
  | error => "error"
  | debug => "debug"

/-- One thing that a run records. -/
inductive Entry where
  | message (level : Level) (text : Text)
  /-- A group of entries starts. -/
  | openGroup (title : Text)
  /-- The innermost group ends. -/
  | closeGroup
  /-- A named result of the run, for a runner that takes it as a command. -/
  | output (name value : Text)
  deriving DecidableEq, Repr

/-- What is written to the two streams. -/
structure Streams where
  stdout : Text
  stderr : Text
  deriving DecidableEq, Repr

namespace Streams

/-- Nothing written. -/
def empty : Streams := ⟨[], []⟩

/-- One after the other, stream by stream. -/
def append (a b : Streams) : Streams := ⟨a.stdout ++ b.stdout, a.stderr ++ b.stderr⟩

instance : Append Streams := ⟨append⟩

/-- A text on the output stream. -/
def out (t : Text) : Streams := ⟨t, []⟩

/-- A text on the error stream. -/
def err (t : Text) : Streams := ⟨[], t⟩

end Streams

/-- Who watches a run. -/
inductive Logger where
  | console (verbose : Bool)
  | quiet
  | workflow
  deriving DecidableEq, Repr

namespace Logger

/-- A unit in the data of a workflow command. -/
def escapeDataUnit (u : CodeUnit) : Text :=
  if u == 0x25 then "%25" else if u == 0x0D then "%0D" else if u == 0x0A then "%0A" else [u]

/-- A workflow command with its data on one line. -/
def command (name data : Text) : Text :=
  "::" ++ name ++ "::" ++ data.flatMap escapeDataUnit ++ Text.newline

/-- An entry as the console shows it. -/
def consoleEntry (verbose : Bool) : Entry → Streams
  | .message .info t => .err (t ++ Text.newline)
  | .message .warning t => .err ("⚠️  " ++ t ++ Text.newline)
  | .message .error t => .err ("❌ " ++ t ++ Text.newline)
  | .message .debug t => if verbose then .err ("🔍 " ++ t ++ Text.newline) else .empty
  | .openGroup title => .err (Text.newline ++ "▶ " ++ title ++ Text.newline)
  | .closeGroup => .empty
  | .output .. => .empty

/-- An entry for the quiet logger. -/
def quietEntry : Entry → Streams
  | .message .error t => .err (t ++ Text.newline)
  | _ => .empty

/-- An entry as workflow commands. -/
def workflowEntry : Entry → Streams
  | .message .info t => .out (t ++ Text.newline)
  | .message level t => .out (command level.name t)
  | .openGroup title => .out (command "group" title)
  | .closeGroup => .out (command "endgroup" [])
  | .output name value => .out (Text.newline ++ command ("set-output name=" ++ name) value)

/-- What one entry writes. -/
def entry : Logger → Entry → Streams
  | console verbose => consoleEntry verbose
  | quiet => quietEntry
  | workflow => workflowEntry

/-- What a list of entries writes. -/
def render (logger : Logger) (entries : List Entry) : Streams :=
  ⟨entries.flatMap fun e => (logger.entry e).stdout,
    entries.flatMap fun e => (logger.entry e).stderr⟩

end Logger

end SurfaceGuard
