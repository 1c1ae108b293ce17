import SurfaceGuard.Json.Basic

/-!
# Shapes of JSON values

A `Shape` reads a JSON value, or the absence of one, into a typed value, or lists every
violation it finds.  Violations come in the order of the declared fields, depth first; a
violation of the size of a list comes before those of its items.  Fields that a shape
does not declare are dropped without notice.

Reading collects violations side by side instead of stopping at the first one, so
`Checked` is an applicative functor and no monad.
-/

namespace SurfaceGuard

/-! ## Violations -/

/-- The kinds of JSON values that a message names. -/
inductive JsonKind where
  | null | boolean | number | string | array | object
  deriving DecidableEq, Repr

/-- The kind of a JSON value. -/
def Json.kind : Json → JsonKind
  | null => .null
  | boolean _ => .boolean
  | number _ => .number
  | string _ => .string
  | array _ => .array
  | object _ => .object

/-- The name of a kind. -/
def JsonKind.name : JsonKind → Text
  | null => "null"
  | boolean => "boolean"
  | number => "number"
  | string => "string"
  | array => "array"
  | object => "object"

/-- What is wrong with a value. -/
inductive Violation where
  /-- A field that must be there is absent. -/
  | required
  /-- A value of another kind was expected. -/
  | wrongKind (expected received : JsonKind)
  /-- One of the given words was expected, and the value is no text. -/
  | noWord (words : List Text) (received : JsonKind)
  /-- One of the given words was expected, and the value is another text. -/
  | otherWord (words : List Text) (received : Text)
  | emptyText
  | emptyList
  | notWhole
  | notPositive
  deriving DecidableEq, Repr

/-- A violation and the place where it occurs, from the root on. -/
structure Issue where
  place : List Text
  violation : Violation
  deriving DecidableEq, Repr

namespace Violation

/-- The words of an enumeration, quoted. -/
def listWords (words : List Text) : Text :=
  Text.join " | " (words.map fun w => "'" ++ w ++ "'")

/-- The wording of a violation. -/
def message : Violation → Text
  | required => "Required"
  | wrongKind expected received => "Expected " ++ expected.name ++ ", received " ++ received.name
  | noWord words received => "Expected " ++ listWords words ++ ", received " ++ received.name
  | otherWord words received =>
    "Invalid enum value. Expected " ++ listWords words ++ ", received '" ++ received ++ "'"
  | emptyText => "String must contain at least 1 character(s)"
  | emptyList => "Array must contain at least 1 element(s)"
  | notWhole => "Expected integer, received float"
  | notPositive => "Number must be greater than 0"

end Violation

namespace Issue

/-- The issue as it is reported: its place, and what is wrong there. -/
def text (i : Issue) : Text :=
  (if i.place.isEmpty then ("root" : Text) else Text.join "." i.place)
    ++ ": " ++ i.violation.message

/-- How many issues a failure reports at most. -/
def reported : Nat := 5

/-- The issues that a failure reports. -/
def report (issues : List Issue) : List Text := (issues.take reported).map text

end Issue

/-! ## Reading with all violations -/

/-- A value, or the violations that stand in its way. -/
inductive Checked (α : Type) where
  | valid (a : α)
  | invalid (issues : List Issue)
  deriving Repr

namespace Checked

variable {α β : Type}

/-- The violations; none for a valid value. -/
def issues : Checked α → List Issue
  | valid _ => []
  | invalid is => is

/-- A function of the value. -/
def map (f : α → β) : Checked α → Checked β
  | valid a => valid (f a)
  | invalid is => invalid is

/-- Two readings side by side: both values, or all violations in order. -/
def both (f : Checked (α → β)) (a : Checked α) : Checked β :=
  match f, a with
  | valid f, valid a => valid (f a)
  | f, a => invalid (f.issues ++ a.issues)

instance : Functor Checked := ⟨map, fun a => map fun _ => a⟩

instance : Applicative Checked where
  pure := valid
  seq f a := both f (a ())

/-- The reading seen from one step further out. -/
def within (step : Text) : Checked α → Checked α
  | valid a => valid a
  | invalid is => invalid (is.map fun i => ⟨step :: i.place, i.violation⟩)

/-- A single violation at the root. -/
def fail (v : Violation) : Checked α := invalid [⟨[], v⟩]

end Checked

/-- A reading of a JSON value that may be absent. -/
abbrev Shape (α : Type) := Option Json → Checked α

namespace Shape

variable {α : Type}

/-! ## Scalars -/

/-- A text. -/
def text : Shape Text
  | none => .fail .required
  | some (.string s) => .valid s
  | some j => .fail (.wrongKind .string j.kind)

/-- A text that is not empty. -/
def nonemptyText : Shape Text := fun j? =>
  match text j? with
  | .valid [] => .fail .emptyText
  | read => read

/-- A truth value. -/
def flag : Shape Bool
  | none => .fail .required
  | some (.boolean b) => .valid b
  | some j => .fail (.wrongKind .boolean j.kind)

/-- A positive whole number. -/
def positiveWhole : Shape Number
  | none => .fail .required
  | some (.number n) =>
    match (if n.isWhole then [] else [⟨[], .notWhole⟩])
        ++ (if n.isPositive then [] else [⟨[], .notPositive⟩]) with
    | [] => .valid n
    | issues => .invalid issues
  | some j => .fail (.wrongKind .number j.kind)

/-- One of the given words, each with its meaning. -/
def word (meanings : List (Text × α)) : Shape α
  | none => .fail .required
  | some (.string s) =>
    match meanings.lookup s with
    | some a => .valid a
    | none => .fail (.otherWord (meanings.map Prod.fst) s)
  | some j => .fail (.noWord (meanings.map Prod.fst) j.kind)

/-! ## Lists, records and fields -/

/-- The items of a list from the given index on. -/
def items (shape : Shape α) : Nat → List Json → Checked (List α)
  | _, [] => .valid []
  | index, j :: rest =>
    .both (((shape (some j)).within (Text.ofNat index)).map List.cons) (items shape (index + 1) rest)

/-- A list. -/
def list (shape : Shape α) : Shape (List α)
  | none => .fail .required
  | some (.array js) => items shape 0 js
  | some j => .fail (.wrongKind .array j.kind)

/-- A list that is not empty. -/
def nonemptyList (shape : Shape α) : Shape (List α)
  | none => .fail .required
  | some (.array []) => .fail .emptyList
  | some (.array js) => items shape 0 js
  | some j => .fail (.wrongKind .array j.kind)

/-- The entries of a record, in order. -/
def entries (shape : Shape α) : List (Text × Json) → Checked (List (Text × α))
  | [] => .valid []
  | (name, j) :: rest =>
    .both (((shape (some j)).within name).map fun a => List.cons (name, a)) (entries shape rest)

/-- The name that a record cannot hold. -/
def reservedName : Text := "__proto__"

/-- A record: any names, all values of one shape.  The entry of the reserved name is read, and
then dropped. -/
def record (shape : Shape α) : Shape (List (Text × α))
  | none => .fail .required
  | some (.object members) =>
    (entries shape (Members.enumerated members)).map fun es =>
      es.filter fun e => e.1 ≠ reservedName
  | some j => .fail (.wrongKind .object j.kind)

/-- An object whose members are read by the given function. -/
def object (read : List (Text × Json) → Checked α) : Shape α
  | none => .fail .required
  | some (.object members) => read members
  | some j => .fail (.wrongKind .object j.kind)

/-- A shape for a field that may be absent. -/
def optional (shape : Shape α) : Shape (Option α)
  | none => .valid none
  | some j => (shape (some j)).map some

/-- A shape for a field with a default. -/
def withDefault (default : α) (shape : Shape α) : Shape α
  | none => .valid default
  | some j => shape (some j)

/-- The field of the given name. -/
def field (name : Text) (shape : Shape α) (members : List (Text × Json)) : Checked α :=
  (shape (Members.get? name members)).within name

end Shape

end SurfaceGuard
