import SurfaceGuard.Proofs.Schema.Reading

/-!
# The declared part has the format

A format is sound if no object of it declares a field twice and every default has the format of its
field.  The declared part of a value that conforms to a sound format conforms as well.
-/

namespace SurfaceGuard.Format

/-- No field is declared twice, and every default has the format of its field. -/
inductive Sound : Format → Prop
  | scalar (s : Scalar) : Sound (.scalar s)
  | list {size : Size} {item : Format} : Sound item → Sound (.list size item)
  | record {value : Format} : Sound value → Sound (.record value)
  | object {fields : List (Text × Absence × Format)} : (Members.names fields).Nodup →
      (∀ field ∈ fields, Sound field.2.2) →
      (∀ field ∈ fields, ∀ v, field.2.1 = .default v → field.2.2.Conforms v) →
      Sound (.object fields)

/-! ## Fields of the declared part -/

variable {fields : List (Text × Absence × Format)} {members : List (Text × Json)}
  {field : Text × Absence × Format}

theorem get?_optionalMember_append (name : Text) (j? : Option Json) (k : Text)
    (ms : List (Text × Json)) : Members.get? k (optionalMember name j? ++ ms)
      = if name = k then j?.or (Members.get? k ms) else Members.get? k ms := by
  cases j? with
  | none => simp [optionalMember]
  | some j => exact Members.get?_cons k name j ms

theorem get?_projection_of_not_mem {name : Text} (h : name ∉ Members.names fields) :
    Members.get? name (fields.flatMap (fieldProjection members)) = none := by
  induction fields with
  | nil => rfl
  | cons field fields ih =>
    rw [Members.names, List.map_cons, List.mem_cons, not_or] at h
    rw [List.flatMap_cons, fieldProjection, get?_optionalMember_append, if_neg (Ne.symm h.1)]
    exact ih h.2

/-- The declared part has each field with its value. -/
theorem get?_projection (hd : (Members.names fields).Nodup) (hfield : field ∈ fields) :
    Members.get? field.1 (fields.flatMap (fieldProjection members))
      = fieldValue? members field := by
  induction fields with
  | nil => cases hfield
  | cons first fields ih =>
    rw [Members.names, List.map_cons, List.nodup_cons] at hd
    rw [List.flatMap_cons, fieldProjection, get?_optionalMember_append]
    rcases List.mem_cons.1 hfield with rfl | hfield
    · rw [if_pos rfl, get?_projection_of_not_mem hd.1, Option.or_none]
    · have hne : first.1 ≠ field.1 := by
        intro heq
        exact hd.1 (heq ▸ List.mem_map.2 ⟨field, hfield, rfl⟩)
      rw [if_neg hne]
      exact ih hd.2 hfield

/-! ## The declared part conforms -/

theorem conforms_projection {f : Format} {j : Json} (hf : f.Sound) (h : f.Conforms j) :
    f.Conforms (f.projection j) := by
  induction h with
  | scalar h => exact .scalar h
  | @list size item js hsize _ ih =>
    cases hf with
    | list hitem =>
      refine .list (fun hs hnil => hsize hs (List.map_eq_nil_iff.1 hnil)) fun j hj => ?_
      obtain ⟨j, hmem, rfl⟩ := List.mem_map.1 hj
      exact ih j hmem hitem
  | record _ ih =>
    cases hf with
    | record hvalue =>
      refine .record fun m hm => ?_
      obtain ⟨m, hmem, rfl⟩ := List.mem_map.1 (List.mem_of_mem_filter hm)
      exact ih m ((Members.enumerated_perm _).mem_iff.1 hmem) hvalue
  | @object fields members hthere _ ih =>
    cases hf with
    | object hd hfields hdefault =>
      rw [projection_object]
      refine .object (fun field hfield hget habsence => ?_) fun field hfield j hget => ?_
      · rw [get?_projection hd hfield, fieldValue?, habsence] at hget
        cases hvalue : Members.get? field.1 members with
        | none => exact hthere field hfield hvalue habsence
        | some j => simp [hvalue] at hget
      · rw [get?_projection hd hfield, fieldValue?] at hget
        split at hget
        · next j' hvalue =>
          cases hget
          exact ih field hfield j' hvalue (hfields field hfield)
        · next habsence =>
          cases hget
          exact hdefault field hfield _ habsence
        · cases hget

end SurfaceGuard.Format
