import SurfaceGuard.Failure
import SurfaceGuard.Json.Reader
import SurfaceGuard.Schema
import SurfaceGuard.Text.Space

/-!
# Symbol graphs

A symbol graph is what the export command leaves behind: one record per symbol of a
module.  Of each record the guard uses the identifier, the access level and a signature,
which is the folded text of the declaration or, where there is none, the kind and the
title.
-/

namespace SurfaceGuard

/-- A piece of a declaration. -/
structure Fragment where
  kind : Text
  spelling : Text
  deriving DecidableEq, Repr

/-- A symbol as it is exported. -/
structure Symbol where
  identifier : Text
  title : Text
  kind : Text
  displayName : Option Text
  accessLevel : Option Text
  fragments : Option (List Fragment)
  deriving DecidableEq, Repr

/-- The exported symbols of a module. -/
structure Graph where
  symbols : List Symbol
  deriving DecidableEq, Repr

/-! ## Signatures and visibility -/

/-- The access levels of symbols that a client of the module can use. -/
def visibleLevels : List Text := ["public", "open"]

/-- Can a client use a symbol of this access level?  Not if the level is absent. -/
def isVisibleLevel (level? : Option Text) : Bool := level?.any (visibleLevels.contains ·)

namespace Symbol

/-- Can a client of the module use the symbol? -/
def isVisible (s : Symbol) : Bool := isVisibleLevel s.accessLevel

/-- The declaration as it was exported, its pieces side by side. -/
def declaration (fragments : List Fragment) : Text := (fragments.map Fragment.spelling).flatten

/-- The signature by which two versions of a symbol are compared. -/
def signature (s : Symbol) : Text :=
  match s.fragments with
  | some (f :: fs) => Text.fold (declaration (f :: fs))
  | _ => s.kind ++ " " ++ s.title

end Symbol

/-! ## The format -/

namespace Graph

open Shape

/-- The shape of a piece of a declaration. -/
def fragmentShape : Shape Fragment := object fun o =>
  Fragment.mk <$> field "kind" text o <*> field "spelling" text o

/-- The shape of the kind of a symbol: its identifier and its name for display. -/
def kindShape : Shape (Text × Option Text) := object fun o =>
  Prod.mk <$> field "identifier" text o <*> field "displayName" (optional text) o

/-- The shape of a symbol. -/
def symbolShape : Shape Symbol := object fun o =>
  (fun identifier title (kind : Text × Option Text) accessLevel fragments =>
      (⟨identifier, title, kind.1, kind.2, accessLevel, fragments⟩ : Symbol))
    <$> field "identifier" (object (field "precise" text)) o
    <*> field "names" (object (field "title" text)) o
    <*> field "kind" kindShape o
    <*> field "accessLevel" (optional text) o
    <*> field "declarationFragments" (optional (list fragmentShape)) o

/-- The shape of a symbol graph. -/
def shape : Shape Graph := object fun o => Graph.mk <$> field "symbols" (list symbolShape) o

/-- The one issue of a text that is no JSON. -/
def notJson : List Text := ["invalid JSON"]

/-- The graph of a text that was taken from the given source. -/
def parse (text source : Text) : Except GuardError Graph :=
  match Json.read? text with
  | none => .error (.malformedExport source notJson)
  | some json =>
    match shape (some json) with
    | .valid graph => .ok graph
    | .invalid issues => .error (.malformedExport source (Issue.report issues))

end Graph

end SurfaceGuard
