import SurfaceGuard.Json.Writer
import SurfaceGuard.Path
import SurfaceGuard.Snapshot
import SurfaceGuard.Text.Utf8

/-!
# Baseline files

The stored form of a snapshot: canonical JSON, one file per target, with a line feed at
the end.  Equal tables give equal bytes, in whatever order their symbols were found.
-/

namespace SurfaceGuard.Baseline

open Shape

/-- The path of the baseline of a target. -/
def path (dir target : Text) : Text := Path.join dir (target ++ ".json")

/-! ## Writing -/

/-- The JSON value of a snapshot, every object with its members in ascending order. -/
def toJson (s : Snapshot) : Json :=
  .object [("createdAt", .string s.createdAt),
    ("symbols", .object ((Members.sort s.symbols.toList).map fun e => (e.1, .string e.2))),
    ("target", .string s.target)]

/-- The text of a baseline file. -/
def text (s : Snapshot) : Text := (toJson s).write ++ Text.newline

/-- The content of a baseline file. -/
def encode (s : Snapshot) : Bytes := Utf8.encode (text s)

/-! ## Reading -/

/-- The shape of a baseline file. -/
def shape : Shape Snapshot := object fun o =>
  (fun target createdAt symbols => (⟨target, createdAt, SymbolTable.ofList symbols⟩ : Snapshot))
    <$> field "target" Shape.text o
    <*> field "createdAt" Shape.text o
    <*> field "symbols" (record Shape.text) o

/-- The snapshot of the text of a baseline file. -/
def decode (t source : Text) : Except GuardError Snapshot :=
  match Json.read? t with
  | none => .error (.malformedBaseline source Graph.notJson)
  | some json =>
    match shape (some json) with
    | .valid s => .ok s
    | .invalid issues => .error (.malformedBaseline source (Issue.report issues))

end SurfaceGuard.Baseline
