import SurfaceGuard.Proofs.Schema.Report

/-!
# Shapes that follow a format

A shape reads what a format describes (`Shape.Follows`) if it lists the violations of the value in
the order of the report and, where there are none, reads a value that is shown by the declared part
of the input.  Every combinator of shapes keeps this, with the constructor of formats that belongs
to it; so each document needs one statement for each of its objects.
-/

namespace SurfaceGuard

/-! ## What a reading gives -/

namespace Checked

variable {α β : Type} {c : Checked α} {issues : List Issue} {P : α → Prop}

/-- The reading lists the given issues; without issues it is a value with the property. -/
inductive Gives : Checked α → List Issue → (α → Prop) → Prop
  | valid {a : α} {P : α → Prop} : P a → Gives (.valid a) [] P
  | invalid {issues : List Issue} {P : α → Prop} : issues ≠ [] → Gives (.invalid issues) issues P

theorem Gives.imp {Q : α → Prop} (h : c.Gives issues P) (hPQ : ∀ a, P a → Q a) :
    c.Gives issues Q := by
  cases h with
  | valid ha => exact .valid (hPQ _ ha)
  | invalid hne => exact .invalid hne

theorem Gives.map (h : c.Gives issues P) (f : α → β) :
    (f <$> c).Gives issues fun b => ∃ a, P a ∧ f a = b := by
  cases h with
  | valid ha => exact .valid ⟨_, ha, rfl⟩
  | invalid hne => exact .invalid hne

/-- Side by side, the issues of both readings are listed. -/
theorem Gives.seq {f : Checked (α → β)} {issues' : List Issue} {Q : (α → β) → Prop}
    (hf : f.Gives issues' Q) (h : c.Gives issues P) :
    (f <*> c).Gives (issues' ++ issues) fun b => ∃ g a, Q g ∧ P a ∧ g a = b := by
  cases hf with
  | valid hg =>
    cases h with
    | valid ha => exact .valid ⟨_, _, hg, ha, rfl⟩
    | invalid hne => exact .invalid hne
  | invalid hne' =>
    have hne : issues' ++ issues ≠ [] := fun h => hne' (List.append_eq_nil_iff.1 h).1
    cases h with
    | valid ha =>
      show Gives (.invalid (issues' ++ [])) _ _
      exact .invalid hne
    | invalid _ => exact .invalid hne

theorem Gives.within (h : c.Gives issues P) (step : Text) :
    (c.within step).Gives (issues.map (Issue.within step)) P := by
  cases h with
  | valid ha => exact .valid ha
  | invalid hne => exact .invalid (by simpa using hne)

end Checked

/-! ## Lists of violations by their parts -/

namespace Format

/-- The issues of the members of a list of pairs. -/
def memberIssues (f : Format) (members : List (Text × Json)) : List Issue :=
  members.flatMap fun m => (f.violations m.2).map (Issue.within m.1)

/-- The issues of a declared field. -/
def fieldIssues (members : List (Text × Json)) (field : Text × Absence × Format) : List Issue :=
  ((fieldListing field members).map Prod.snd).map (Issue.within field.1)

/-- The value of a declared field. -/
def fieldValue? (members : List (Text × Json)) (field : Text × Absence × Format) : Option Json :=
  match Members.get? field.1 members, field.2.1 with
  | some j, _ => some (field.2.2.projection j)
  | none, .default value => some value
  | none, _ => none

/-- The declared field, as a member of an object. -/
def fieldProjection (members : List (Text × Json)) (field : Text × Absence × Format) :
    List (Text × Json) := optionalMember field.1 (fieldValue? members field)

theorem violations_list (size : Size) (item : Format) (js : List Json) :
    (list size item).violations (.array js)
      = if size = .nonempty ∧ js = [] then [⟨[], .emptyList⟩]
        else item.memberIssues (numbered 0 js) := by
  rw [violations, listing]
  split
  · rfl
  · rw [map_snd_ofParts, List.flatMap_map]
    rfl

theorem violations_record (value : Format) (members : List (Text × Json)) :
    (record value).violations (.object members)
      = value.memberIssues (Members.enumerated members) := by
  rw [violations, listing, map_snd_ofParts, List.flatMap_map]
  rfl

theorem violations_object (fields : List (Text × Absence × Format))
    (members : List (Text × Json)) :
    (object fields).violations (.object members) = fields.flatMap (fieldIssues members) := by
  rw [violations, listing_object, map_snd_ofParts, List.flatMap_map]
  rfl

theorem projection_object (fields : List (Text × Absence × Format))
    (members : List (Text × Json)) :
    (object fields).projection (.object members)
      = .object (fields.flatMap (fieldProjection members)) := by
  have hfields : projectedFields fields members = fields.flatMap (fieldProjection members) := by
    induction fields with
    | nil => rfl
    | cons field fields ih =>
      obtain ⟨name, absence, f⟩ := field
      rw [List.flatMap_cons, ← ih]
      rfl
  rw [projection, hfields]

end Format

/-! ## Shapes -/

namespace Shape

open Format

variable {α : Type} {shape : Shape α} {format : Format} {render : α → Json}

/-- The shape reads the values of the format, and shows what it read as the declared part. -/
structure Follows (shape : Shape α) (format : Format) (render : α → Json) : Prop where
  absent : shape none = .fail .required
  present : ∀ j,
    (shape (some j)).Gives (format.violations j) fun a => render a = format.projection j

/-! ### Scalars -/

theorem follows_text : Shape.text.Follows (.scalar (.text .any)) .string := by
  refine ⟨rfl, fun j => ?_⟩
  cases j with
  | string t => exact .valid rfl
  | _ => exact .invalid (List.cons_ne_nil _ _)

theorem follows_nonemptyText : nonemptyText.Follows (.scalar (.text .nonempty)) .string := by
  refine ⟨rfl, fun j => ?_⟩
  cases j with
  | string t =>
    cases t with
    | nil => exact .invalid (List.cons_ne_nil _ _)
    | cons u t => exact .valid rfl
  | _ => exact .invalid (List.cons_ne_nil _ _)

theorem follows_flag : flag.Follows (.scalar .flag) .boolean := by
  refine ⟨rfl, fun j => ?_⟩
  cases j with
  | boolean b => exact .valid rfl
  | _ => exact .invalid (List.cons_ne_nil _ _)

theorem follows_positiveWhole : positiveWhole.Follows (.scalar .positiveWhole) .number := by
  refine ⟨rfl, fun j => ?_⟩
  cases j with
  | number n =>
    rw [positiveWhole, violations, listing, Scalar.violations]
    cases n.isWhole with
    | true =>
      cases n.isPositive with
      | true => exact .valid rfl
      | false => exact .invalid (List.cons_ne_nil _ _)
    | false =>
      cases n.isPositive with
      | true => exact .invalid (List.cons_ne_nil _ _)
      | false => exact .invalid (List.cons_ne_nil _ _)
  | _ => exact .invalid (List.cons_ne_nil _ _)

theorem follows_word {meanings : List (Text × α)} {name : α → Text}
    (h : ∀ m ∈ meanings, name m.2 = m.1) :
    (word meanings).Follows (.scalar (.word (meanings.map Prod.fst)))
      fun a => .string (name a) := by
  refine ⟨rfl, fun j => ?_⟩
  cases j with
  | string t =>
    rw [word, violations, listing, Scalar.violations]
    cases hlookup : meanings.lookup t with
    | some a =>
      have hmem : (t, a) ∈ meanings := Members.mem_of_get? hlookup
      rw [if_pos (List.contains_iff_mem.2 (List.mem_map.2 ⟨_, hmem, rfl⟩))]
      exact .valid (congrArg Json.string (h _ hmem))
    | none =>
      have hmem : t ∉ meanings.map Prod.fst := Members.get?_eq_none_iff.1 hlookup
      rw [if_neg (by simpa using hmem)]
      exact .invalid (List.cons_ne_nil _ _)
  | _ => exact .invalid (List.cons_ne_nil _ _)

/-! ### Lists and records -/

theorem Follows.items (h : shape.Follows format render) (k : Nat) (js : List Json) :
    (items shape k js).Gives (format.memberIssues (numbered k js)) fun as =>
      as.map render = js.map format.projection := by
  induction js generalizing k with
  | nil => exact .valid rfl
  | cons j js ih =>
    refine ((((h.present j).within (Text.ofNat k)).map List.cons).seq (ih (k + 1))).imp ?_
    rintro _ ⟨_, as, ⟨a, ha, rfl⟩, has, rfl⟩
    rw [List.map_cons, List.map_cons, ha, has]

theorem Follows.entries (h : shape.Follows format render) (members : List (Text × Json)) :
    (entries shape members).Gives (format.memberIssues members) fun es =>
      es.map (fun e => (e.1, render e.2)) = members.map fun m => (m.1, format.projection m.2) := by
  induction members with
  | nil => exact .valid rfl
  | cons m members ih =>
    obtain ⟨name, j⟩ := m
    refine ((((h.present j).within name).map fun a => List.cons (name, a)).seq ih).imp ?_
    rintro _ ⟨_, es, ⟨a, ha, rfl⟩, hes, rfl⟩
    rw [List.map_cons, List.map_cons, ha, hes]

theorem Follows.list (h : shape.Follows format render) :
    (list shape).Follows (.list .any format) fun as => .array (as.map render) := by
  refine ⟨rfl, fun j => ?_⟩
  cases j with
  | array js =>
    rw [violations_list, if_neg (by simp)]
    exact (h.items 0 js).imp fun as has => congrArg Json.array has
  | _ => exact .invalid (List.cons_ne_nil _ _)

theorem Follows.nonemptyList (h : shape.Follows format render) :
    (nonemptyList shape).Follows (.list .nonempty format) fun as => .array (as.map render) := by
  refine ⟨rfl, fun j => ?_⟩
  cases j with
  | array js =>
    cases js with
    | nil => exact .invalid (List.cons_ne_nil _ _)
    | cons j js =>
      rw [violations_list, if_neg (by simp)]
      exact (h.items 0 (j :: js)).imp fun as has => congrArg Json.array has
  | _ => exact .invalid (List.cons_ne_nil _ _)

theorem Follows.record (h : shape.Follows format render) :
    (record shape).Follows (.record format) fun es =>
      .object (es.map fun e => (e.1, render e.2)) := by
  refine ⟨rfl, fun j => ?_⟩
  cases j with
  | object members =>
    rw [violations_record]
    refine ((h.entries (Members.enumerated members)).map _).imp ?_
    rintro _ ⟨es, hes, rfl⟩
    have hkept := congrArg (List.filter fun m => m.1 ≠ reservedName) hes
    rw [List.filter_map] at hkept
    exact congrArg Json.object hkept
  | _ => exact .invalid (List.cons_ne_nil _ _)

/-! ### Fields and objects -/

variable (name : Text) (members : List (Text × Json))

theorem Follows.required (h : shape.Follows format render) :
    (field name shape members).Gives (fieldIssues members (name, .fault, format)) fun a =>
      fieldProjection members (name, .fault, format) = [(name, render a)] := by
  rw [field, fieldIssues, fieldListing, fieldProjection, fieldValue?]
  cases Members.get? name members with
  | none =>
    rw [h.absent]
    exact .invalid (List.cons_ne_nil _ _)
  | some j => exact ((h.present j).within name).imp fun a ha => by rw [ha]; rfl

theorem Follows.optional (h : shape.Follows format render) :
    (field name (optional shape) members).Gives (fieldIssues members (name, .allowed, format))
      fun a? => fieldProjection members (name, .allowed, format)
        = optionalMember name (a?.map render) := by
  rw [field, fieldIssues, fieldListing, fieldProjection, fieldValue?]
  cases Members.get? name members with
  | none => exact .valid rfl
  | some j =>
    refine (((h.present j).map some).within name).imp ?_
    rintro _ ⟨a, ha, rfl⟩
    simp [optionalMember, ha]

theorem Follows.withDefault (h : shape.Follows format render) (default : α) :
    (field name (withDefault default shape) members).Gives
      (fieldIssues members (name, .default (render default), format)) fun a =>
        fieldProjection members (name, .default (render default), format) = [(name, render a)] := by
  rw [field, fieldIssues, fieldListing, fieldProjection, fieldValue?]
  cases Members.get? name members with
  | none => exact .valid rfl
  | some j => exact ((h.present j).within name).imp fun a ha => by rw [ha]; rfl

theorem gives_object {read : List (Text × Json) → Checked α}
    {fields : List (Text × Absence × Format)} {P : α → Json → Prop}
    (h : ∀ members, (read members).Gives (fields.flatMap (fieldIssues members)) fun a =>
      P a (.object (fields.flatMap (fieldProjection members)))) (j : Json) :
    (object read (some j)).Gives ((Format.object fields).violations j) fun a =>
      P a ((Format.object fields).projection j) := by
  cases j with
  | object members =>
    rw [violations_object, projection_object]
    exact h members
  | _ => exact .invalid (List.cons_ne_nil _ _)

/-- An object follows its format if what is read of the members shows the declared fields. -/
theorem follows_object {read : List (Text × Json) → Checked α}
    {fields : List (Text × Absence × Format)}
    (h : ∀ members, (read members).Gives (fields.flatMap (fieldIssues members)) fun a =>
      render a = .object (fields.flatMap (fieldProjection members))) :
    (object read).Follows (.object fields) render :=
  ⟨rfl, fun j => gives_object (P := fun a j => render a = j) h j⟩

end Shape

end SurfaceGuard
