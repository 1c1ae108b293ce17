import Mathlib.Data.List.Forall2
import SurfaceGuard.Graph

/-!
# What a shape sees of a document

A shape looks up the names it declares and nothing else.  So the layout of a document, the order
of its members and the members that are not declared, at any depth, make no difference to what
is read from it.  `Json.Likeness` mirrors the combinators of `Shape`: one relation for lists, one
for objects with declared fields, and equality for everything else.  A shape that `Respects` a
likeness reads like values alike, violations included.
-/

namespace SurfaceGuard

/-- When two JSON values count as the same. -/
abbrev Json.Likeness := Json → Json → Prop

namespace Json.Likeness

/-- Lists whose items are alike, place by place. -/
def items (R : Likeness) : Likeness
  | .array js, .array js' => List.Forall₂ R js js'
  | j, j' => j = j'

/-- Objects that have the same declared fields, with values that are alike.  Other members, and
the order of all members, are free. -/
def members (fields : List (Text × Likeness)) : Likeness
  | .object ms, .object ms' =>
    ∀ f ∈ fields, Option.Rel f.2 (Members.get? f.1 ms) (Members.get? f.1 ms')
  | j, j' => j = j'

end Json.Likeness

namespace Shape

open Json.Likeness

variable {α : Type} {shape : Shape α} {R : Json.Likeness}

/-- Values that are alike are read alike. -/
def Respects (shape : Shape α) (R : Json.Likeness) : Prop :=
  ∀ j j', R j j' → shape (some j) = shape (some j')

theorem respects_eq (shape : Shape α) : shape.Respects Eq := by
  rintro j _ rfl
  rfl

theorem Respects.optional (h : shape.Respects R) : (optional shape).Respects R := by
  intro j j' hj
  rw [Shape.optional, Shape.optional, h j j' hj]

theorem Respects.items (h : shape.Respects R) {js js' : List Json} (hjs : List.Forall₂ R js js')
    (index : Nat) : items shape index js = items shape index js' := by
  induction hjs generalizing index with
  | nil => rfl
  | cons hj _ ih => rw [Shape.items, Shape.items, h _ _ hj, ih]

theorem Respects.list (h : shape.Respects R) : (list shape).Respects (.items R) := by
  intro j j' hj
  unfold Json.Likeness.items at hj
  split at hj
  · exact h.items hj 0
  · rw [hj]

theorem Respects.of_rel (h : shape.Respects R) {j? j?' : Option Json} (hj : Option.Rel R j? j?') :
    shape j? = shape j?' := by
  cases hj with
  | none => rfl
  | some hj => exact h _ _ hj

theorem Respects.field (h : shape.Respects R) (name : Text) {ms ms' : List (Text × Json)}
    (hms : Option.Rel R (Members.get? name ms) (Members.get? name ms')) :
    field name shape ms = field name shape ms' := by
  rw [Shape.field, Shape.field, h.of_rel hms]

/-- An object respects a likeness of its fields if what is read from them does. -/
theorem respects_object {read : List (Text × Json) → Checked α}
    {fields : List (Text × Json.Likeness)}
    (h : ∀ ms ms', (∀ f ∈ fields, Option.Rel f.2 (Members.get? f.1 ms) (Members.get? f.1 ms')) →
      read ms = read ms') : (object read).Respects (.members fields) := by
  intro j j' hj
  unfold Json.Likeness.members at hj
  split at hj
  · exact h _ _ hj
  · rw [hj]

/-- An object of which one field is read. -/
theorem Respects.object_field (h : shape.Respects R) (name : Text) :
    (object (Shape.field name shape)).Respects (.members [(name, R)]) :=
  respects_object fun _ _ hms => h.field name (hms (name, R) (List.mem_singleton.2 rfl))

end Shape

/-! ## Symbol graphs -/

namespace Graph

open Shape Json.Likeness

/-- Pieces of a declaration that differ in undeclared members only. -/
def fragmentLikeness : Json.Likeness := members [("kind", Eq), ("spelling", Eq)]

/-- Kinds of symbols that differ in undeclared members only. -/
def kindLikeness : Json.Likeness := members [("identifier", Eq), ("displayName", Eq)]

/-- Symbols that differ in undeclared members only, at any depth. -/
def symbolLikeness : Json.Likeness :=
  members [("identifier", members [("precise", Eq)]), ("names", members [("title", Eq)]),
    ("kind", kindLikeness), ("accessLevel", Eq),
    ("declarationFragments", items fragmentLikeness)]

/-- Symbol graphs that differ in undeclared members only, at any depth. -/
def likeness : Json.Likeness := members [("symbols", items symbolLikeness)]

theorem respects_fragmentShape : fragmentShape.Respects fragmentLikeness := by
  refine respects_object fun ms ms' h => ?_
  simp only [List.forall_mem_cons] at h
  obtain ⟨hkind, hspelling, -⟩ := h
  rw [(respects_eq text).field _ hkind, (respects_eq text).field _ hspelling]

theorem respects_kindShape : kindShape.Respects kindLikeness := by
  refine respects_object fun ms ms' h => ?_
  simp only [List.forall_mem_cons] at h
  obtain ⟨hidentifier, hdisplayName, -⟩ := h
  rw [(respects_eq text).field _ hidentifier, (respects_eq (optional text)).field _ hdisplayName]

theorem respects_symbolShape : symbolShape.Respects symbolLikeness := by
  refine respects_object fun ms ms' h => ?_
  simp only [List.forall_mem_cons] at h
  obtain ⟨hidentifier, hnames, hkind, haccess, hfragments, -⟩ := h
  rw [((respects_eq text).object_field _).field _ hidentifier,
    ((respects_eq text).object_field _).field _ hnames, respects_kindShape.field _ hkind,
    (respects_eq (optional text)).field _ haccess,
    respects_fragmentShape.list.optional.field _ hfragments]

/-- The reading of a symbol graph sees what it declares, and nothing else. -/
theorem respects_shape : shape.Respects likeness := by
  refine respects_object fun ms ms' h => ?_
  rw [respects_symbolShape.list.field _ (h _ (List.mem_singleton.2 rfl))]

/-- A text is accepted exactly if it is JSON of the shape of a symbol graph. -/
theorem parse_eq_ok_iff {text source : Text} {graph : Graph} :
    parse text source = .ok graph ↔
      ∃ json, Json.read? text = some json ∧ shape (some json) = .valid graph := by
  rw [parse]
  cases hread : Json.read? text with
  | none => simp
  | some json => cases hshape : shape (some json) <;> simp [hshape]

end Graph

end SurfaceGuard
