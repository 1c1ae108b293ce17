import SurfaceGuard.Value.Display

/-!
# Failures

`GuardError` has the causes that the guard itself reports, each with what is needed to
act on it, and `GuardError.message` has the wording of all of them.  `Thrown` is
everything that can end a task: a cause, the message of any other error, or a bare value
that an exporter threw.  `Thrown.describe` flattens it to a kind and a message for a
report, and fails in turn only for a value that has no text.
-/

namespace SurfaceGuard

/-- The kinds of failure that a report distinguishes. -/
inductive ErrorKind where
  | exportUnavailable
  | malformedExport
  | malformedBaseline
  | baselineMissing
  | serialization
  | configNotFound
  | configInvalid
  /-- Anything that the guard does not report itself. -/
  | unexpected
  deriving DecidableEq, Repr

/-- The name of a kind. -/
def ErrorKind.name : ErrorKind → Text
  | exportUnavailable => "ExportUnavailable"
  | malformedExport => "MalformedExport"
  | malformedBaseline => "MalformedBaseline"
  | baselineMissing => "BaselineMissing"
  | serialization => "SerializationError"
  | configNotFound => "ConfigNotFound"
  | configInvalid => "ConfigInvalid"
  | unexpected => "Unexpected"

/-- All kinds. -/
def ErrorKind.all : List ErrorKind :=
  [exportUnavailable, malformedExport, malformedBaseline, baselineMissing, serialization,
    configNotFound, configInvalid, unexpected]

/-- The kind with the given name. -/
def ErrorKind.ofName? (name : Text) : Option ErrorKind := all.find? (·.name == name)

/-- A failure that the guard reports itself. -/
inductive GuardError where
  /-- The export command failed, timed out, or left no symbol graph behind. -/
  | exportUnavailable (target reason output : Text)
  /-- A symbol graph that is no JSON or has another shape. -/
  | malformedExport (source : Text) (issues : List Text)
  /-- A baseline that is no JSON or has another shape. -/
  | malformedBaseline (path : Text) (issues : List Text)
  /-- No baseline has been recorded for the target. -/
  | baselineMissing (target path : Text)
  /-- A value without a JSON form at the given place. -/
  | unsupported (place typeName : Text)
  /-- There is no configuration file. -/
  | configNotFound (path : Text)
  /-- A configuration, or an input that overrides it, is not acceptable. -/
  | configInvalid (path : Text) (issues : List Text)
  deriving DecidableEq, Repr

namespace GuardError

/-- The kind of a failure. -/
def kind : GuardError → ErrorKind
  | exportUnavailable .. => .exportUnavailable
  | malformedExport .. => .malformedExport
  | malformedBaseline .. => .malformedBaseline
  | baselineMissing .. => .baselineMissing
  | unsupported .. => .serialization
  | configNotFound .. => .configNotFound
  | configInvalid .. => .configInvalid

/-- Issues on one line. -/
def listIssues (issues : List Text) : Text := Text.join "; " issues

/-- The wording of a failure. -/
def message : GuardError → Text
  | exportUnavailable _ reason output =>
    if output.isEmpty then reason else reason ++ Text.newline ++ output
  | malformedExport source issues =>
    "Malformed symbol graph " ++ source ++ ": " ++ listIssues issues
  | malformedBaseline path issues =>
    "Malformed API baseline " ++ path ++ ": " ++ listIssues issues
  | baselineMissing target path =>
    "API baseline missing for target: " ++ target ++ " (expected " ++ path ++ ")"
  | unsupported place typeName => "Unsupported JSON value at " ++ place ++ ": " ++ typeName
  | configNotFound path => "Config not found: " ++ path
  | configInvalid path issues => "Config decode failed (" ++ path ++ "): " ++ listIssues issues

end GuardError

/-- What can end a task. -/
inductive Thrown where
  /-- A failure that the guard reports itself. -/
  | guard (e : GuardError)
  /-- Any other error, with its message. -/
  | error (message : Text)
  /-- An argument that no operation takes, with what is wrong with it. -/
  | badArgument (message : Text)
  /-- A value that is no error. -/
  | value (v : Value)
  deriving Repr

/-- A failure as it stands in a report. -/
structure ErrorInfo where
  kind : ErrorKind
  message : Text
  deriving DecidableEq, Repr

namespace Thrown

/-- Is it a failure that the guard reports itself? -/
def isGuardError : Thrown → Bool
  | guard _ => true
  | _ => false

/-- The kind and the message for a report. -/
def describe : Thrown → Except NoText ErrorInfo
  | guard e => .ok ⟨e.kind, e.message⟩
  | error message => .ok ⟨.unexpected, message⟩
  | badArgument message => .ok ⟨.unexpected, message⟩
  | value (.foreign .error) => .ok ⟨.unexpected, "x"⟩
  | value v => v.display.map fun text => ⟨.unexpected, text⟩

end Thrown

end SurfaceGuard
