import SurfaceGuard.Proofs.Graph.Likeness
import SurfaceGuard.Proofs.Schema.Reading

/-!
# Members that a format does not declare

A format sees the fields it declares and nothing else.  Documents that are alike for a format, so
that at every depth they have the same declared fields, have the same violations and the same
declared part (`Format.listing_eq_of_likeness`, `Format.projection_eq_of_likeness`).
-/

namespace SurfaceGuard

/-- Records with the same names in the same order, and values that are alike. -/
def Json.Likeness.entries (R : Likeness) : Likeness
  | .object ms, .object ms' =>
    List.Forall₂ (fun m m' => m.1 = m'.1 ∧ R m.2 m'.2) (Members.enumerated ms)
      (Members.enumerated ms')
  | j, j' => j = j'

namespace Format

mutual

/-- Documents that differ, at any depth, in members that the format does not declare, or in the
order of members. -/
def likeness : Format → Json.Likeness
  | scalar _ => Eq
  | list _ item => .items (likeness item)
  | record value => .entries (likeness value)
  | object fields => .members (fieldLikenesses fields)

/-- The likeness of each declared field. -/
def fieldLikenesses : List (Text × Absence × Format) → List (Text × Json.Likeness)
  | [] => []
  | (name, _, f) :: rest => (name, likeness f) :: fieldLikenesses rest

end

variable {f : Format} {j j' : Json}

theorem fieldLikenesses_eq_map (fields : List (Text × Absence × Format)) :
    fieldLikenesses fields = fields.map fun field => (field.1, field.2.2.likeness) := by
  induction fields with
  | nil => rfl
  | cons field fields ih =>
    obtain ⟨name, absence, f⟩ := field
    exact congrArg (List.cons _) ih

theorem likeness_object_iff {fields : List (Text × Absence × Format)}
    {ms ms' : List (Text × Json)} : (object fields).likeness (.object ms) (.object ms') ↔
      ∀ field ∈ fields,
        Option.Rel field.2.2.likeness (Members.get? field.1 ms) (Members.get? field.1 ms') := by
  rw [likeness, fieldLikenesses_eq_map, Json.Likeness.members, List.forall_mem_map]

theorem likeness_refl (f : Format) (j : Json) : f.likeness j j := by
  induction f using induct generalizing j with
  | scalar s => rfl
  | list size item ih =>
    cases j with
    | array js => exact List.forall₂_same.2 fun j _ => ih j
    | _ => rfl
  | record value ih =>
    cases j with
    | object ms => exact List.forall₂_same.2 fun m _ => ⟨rfl, ih m.2⟩
    | _ => rfl
  | object fields ih =>
    cases j with
    | object ms =>
      refine likeness_object_iff.2 fun field hfield => ?_
      cases Members.get? field.1 ms with
      | none => exact .none
      | some j => exact .some (ih field hfield j)
    | _ => rfl

/-- An object is like every other one that has the same declared fields. -/
theorem likeness_of_get?_eq {fields : List (Text × Absence × Format)} {ms ms' : List (Text × Json)}
    (h : ∀ field ∈ fields, Members.get? field.1 ms = Members.get? field.1 ms') :
    (object fields).likeness (.object ms) (.object ms') := by
  refine likeness_object_iff.2 fun field hfield => ?_
  rw [h field hfield]
  exact likeness_object_iff.1 (likeness_refl (object fields) (.object ms')) field hfield

/-! ## Alike is the same for a format -/

/-- Members that are alike, name by name. -/
def AlikeMembers (R : Json.Likeness) : List (Text × Json) → List (Text × Json) → Prop :=
  List.Forall₂ fun m m' => m.1 = m'.1 ∧ R m.2 m'.2

theorem alikeMembers_numbered {R : Json.Likeness} {js js' : List Json}
    (h : List.Forall₂ R js js') (k : Nat) : AlikeMembers R (numbered k js) (numbered k js') := by
  induction h generalizing k with
  | nil => exact .nil
  | cons hj _ ih => exact .cons ⟨rfl, hj⟩ (ih (k + 1))

theorem AlikeMembers.map_eq {α : Type} {R : Json.Likeness} {ms ms' : List (Text × Json)}
    (h : AlikeMembers R ms ms') {g : Json → α} (hg : ∀ j j', R j j' → g j = g j') :
    ms.map (fun m => (m.1, g m.2)) = ms'.map fun m => (m.1, g m.2) := by
  induction h with
  | nil => rfl
  | cons hm _ ih => rw [List.map_cons, List.map_cons, hm.1, hg _ _ hm.2, ih]

/-- Documents that are alike for a format have the same violations and the same declared part. -/
theorem eq_of_likeness (h : f.likeness j j') :
    f.listing j = f.listing j' ∧ f.projection j = f.projection j' := by
  induction f using induct generalizing j j' with
  | scalar s =>
    cases h
    exact ⟨rfl, rfl⟩
  | list size item ih =>
    rw [likeness] at h
    unfold Json.Likeness.items at h
    split at h
    · next js js' =>
      have hempty : js = [] ↔ js' = [] := by cases h <;> simp
      have hlisting := (alikeMembers_numbered h 0).map_eq fun j j' hj => (ih hj).1
      have hitems : List.Forall₂ Eq (js.map item.projection) (js'.map item.projection) :=
        List.forall₂_map_left_iff.2 (List.forall₂_map_right_iff.2 (h.imp fun _ _ hj => (ih hj).2))
      rw [List.forall₂_eq_eq_eq] at hitems
      simp only [listing, projection, hempty, hlisting, hitems, and_self]
    · rw [h]
      exact ⟨rfl, rfl⟩
  | record value ih =>
    rw [likeness] at h
    unfold Json.Likeness.entries at h
    split at h
    · next ms ms' =>
      have hlisting := AlikeMembers.map_eq h fun j j' hj => (ih hj).1
      have hprojection := AlikeMembers.map_eq h fun j j' hj => (ih hj).2
      rw [listing, listing, projection, projection, hlisting, hprojection]
      exact ⟨rfl, rfl⟩
    · rw [h]
      exact ⟨rfl, rfl⟩
  | object fields ih =>
    rw [likeness] at h
    unfold Json.Likeness.members at h
    split at h
    · next ms ms' =>
      replace h := likeness_object_iff.1 h
      have hfields : ∀ field ∈ fields, fieldListing field ms = fieldListing field ms'
          ∧ fieldProjection ms field = fieldProjection ms' field := by
        intro field hfield
        have hrel := h field hfield
        unfold fieldListing fieldProjection fieldValue?
        generalize Members.get? field.1 ms = j?, Members.get? field.1 ms' = j?' at hrel ⊢
        cases hrel with
        | none => exact ⟨rfl, rfl⟩
        | some hj =>
          obtain ⟨hlisting, hprojection⟩ := ih field hfield hj
          simp only [hlisting, hprojection, and_self]
      rw [listing_object, listing_object, projection_object, projection_object,
        List.map_congr_left fun field hfield => congrArg (Prod.mk field.1) (hfields field hfield).1,
        List.flatMap_congr fun field hfield => (hfields field hfield).2]
      exact ⟨rfl, rfl⟩
    · rw [h]
      exact ⟨rfl, rfl⟩

end Format

end SurfaceGuard
