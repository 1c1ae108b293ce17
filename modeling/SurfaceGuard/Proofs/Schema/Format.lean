import Mathlib.Data.List.Basic
import SurfaceGuard.Proofs.Json.Members
import SurfaceGuard.Proofs.Number.Whole
import SurfaceGuard.Schema

/-!
# Formats of JSON documents

A `Format` says as data what a document has to look like.  It says so without a reader: `Conforms`
tells which values have the format, `Violated` where a value departs from it and how, and
`projection` what of a value the format declares.

Violations are ordered by the way to them: each one carries the positions, from the outside in, of
the parts that lead to it, where the parts of an object are the fields in the order of the format,
those of a record its members as they are enumerated, and those of a list its items.  A report
(`IsReport`) lists the violations of a value in lexicographic order of these ways, which is the
depth-first order of the format, each one once.
-/

namespace SurfaceGuard

/-! ## Formats -/

/-- How many units a text, or items a list, must have. -/
inductive Size where
  | any
  | nonempty
  deriving DecidableEq

/-- Is a text or a list of the given size allowed? -/
def Size.Allows {α : Type} (size : Size) (xs : List α) : Prop := size = .nonempty → xs ≠ []

/-- The format of a value without parts. -/
inductive Scalar where
  | text (size : Size)
  | flag
  | positiveWhole
  | word (words : List Text)

/-- What the absence of a field means. -/
inductive Absence where
  /-- The field must be there. -/
  | fault
  /-- The field need not be there. -/
  | allowed
  /-- The field then has the given value. -/
  | default (value : Json)

/-- The format of a value. -/
inductive Format where
  | scalar (s : Scalar)
  | list (size : Size) (item : Format)
  /-- Any names, and values of one format. -/
  | record (value : Format)
  /-- The declared fields; other members are free. -/
  | object (fields : List (Text × Absence × Format))

namespace Format

/-- A text, of any size. -/
abbrev anyText : Format := .scalar (.text .any)

/-- A text that is not empty. -/
abbrev someText : Format := .scalar (.text .nonempty)

/-- A property of every format follows the parts: of an object, the formats of its fields. -/
theorem induct {motive : Format → Prop} (scalar : ∀ s, motive (.scalar s))
    (list : ∀ size item, motive item → motive (.list size item))
    (record : ∀ value, motive value → motive (.record value))
    (object : ∀ fields, (∀ field ∈ fields, motive field.2.2) → motive (.object fields))
    (f : Format) : motive f := by
  refine @Format.rec motive (fun fields => ∀ field ∈ fields, motive field.2.2)
    (fun field => motive field.2.2) (fun field => motive field.2)
    scalar list record object ?nil ?cons ?named ?declared f
  case nil => exact fun _ h => absurd h List.not_mem_nil
  case cons =>
    intro field fields hfield hfields
    exact List.forall_mem_cons.2 ⟨hfield, hfields⟩
  case named => exact fun _ _ h => h
  case declared => exact fun _ _ h => h

end Format

/-! ## Values that conform -/

/-- The value has the format. -/
inductive Scalar.Accepts : Scalar → Json → Prop
  | text {size : Size} {t : Text} : size.Allows t → Accepts (.text size) (.string t)
  | flag (b : Bool) : Accepts .flag (.boolean b)
  | positiveWhole {n : Number} {k : Nat} : 0 < k → n.Is k → Accepts .positiveWhole (.number n)
  | word {words : List Text} {t : Text} : t ∈ words → Accepts (.word words) (.string t)

/-- The value has the format, at every depth. -/
inductive Format.Conforms : Format → Json → Prop
  | scalar {s : Scalar} {j : Json} : s.Accepts j → Conforms (.scalar s) j
  | list {size : Size} {item : Format} {js : List Json} : size.Allows js →
      (∀ j ∈ js, Conforms item j) → Conforms (.list size item) (.array js)
  | record {value : Format} {members : List (Text × Json)} :
      (∀ m ∈ members, Conforms value m.2) → Conforms (.record value) (.object members)
  | object {fields : List (Text × Absence × Format)} {members : List (Text × Json)} :
      (∀ field ∈ fields, Members.get? field.1 members = none → field.2.1 ≠ .fault) →
      (∀ field ∈ fields, ∀ j, Members.get? field.1 members = some j → Conforms field.2.2 j) →
      Conforms (.object fields) (.object members)

/-! ## Violations -/

/-- The issue seen from one step further out. -/
def Issue.within (step : Text) (i : Issue) : Issue := ⟨step :: i.place, i.violation⟩

/-- The order in which the violations of one and the same scalar are listed. -/
def Violation.order : Violation → Nat
  | .notPositive => 1
  | _ => 0

/-- The kind of the values of the format. -/
def Scalar.kind : Scalar → JsonKind
  | text _ => .string
  | flag => .boolean
  | positiveWhole => .number
  | word _ => .string

/-- What is wrong with a value of another kind. -/
def Scalar.mismatch : Scalar → JsonKind → Violation
  | word words, received => .noWord words received
  | s, received => .wrongKind s.kind received

/-- The value departs from the format in the given way. -/
inductive Scalar.Violated : Scalar → Json → Violation → Prop
  | mismatch {s : Scalar} {j : Json} : j.kind ≠ s.kind → Violated s j (s.mismatch j.kind)
  | emptyText : Violated (.text .nonempty) (.string []) .emptyText
  | notWhole {n : Number} : n.isWhole = false → Violated .positiveWhole (.number n) .notWhole
  | notPositive {n : Number} : n.isPositive = false →
      Violated .positiveWhole (.number n) .notPositive
  | otherWord {words : List Text} {t : Text} : t ∉ words →
      Violated (.word words) (.string t) (.otherWord words t)

namespace Format

/-- The kind of the values of the format. -/
def kind : Format → JsonKind
  | scalar s => s.kind
  | list _ _ => .array
  | record _ => .object
  | object _ => .object

/-- The value departs from the format: the positions of the parts on the way to the violation, and
the violation with the place where it occurs. -/
inductive Violated : Format → Json → List Nat → Issue → Prop
  | scalar {s : Scalar} {j : Json} {v : Violation} :
      s.Violated j v → Violated (.scalar s) j [v.order] ⟨[], v⟩
  | mismatch {f : Format} {j : Json} : (∀ s, f ≠ .scalar s) → j.kind ≠ f.kind →
      Violated f j [] ⟨[], .wrongKind f.kind j.kind⟩
  | emptyList {item : Format} : Violated (.list .nonempty item) (.array []) [] ⟨[], .emptyList⟩
  | item {size : Size} {item : Format} {js : List Json} {i : Nat} {j : Json} {way : List Nat}
      {issue : Issue} : js[i]? = some j → Violated item j way issue →
      Violated (.list size item) (.array js) (i :: way) (issue.within (Text.ofNat i))
  | entry {value : Format} {members : List (Text × Json)} {i : Nat} {name : Text} {j : Json}
      {way : List Nat} {issue : Issue} : (Members.enumerated members)[i]? = some (name, j) →
      Violated value j way issue →
      Violated (.record value) (.object members) (i :: way) (issue.within name)
  | absent {fields : List (Text × Absence × Format)} {members : List (Text × Json)} {i : Nat}
      {name : Text} {f : Format} : fields[i]? = some (name, .fault, f) →
      Members.get? name members = none →
      Violated (.object fields) (.object members) [i] ⟨[name], .required⟩
  | field {fields : List (Text × Absence × Format)} {members : List (Text × Json)} {i : Nat}
      {name : Text} {absence : Absence} {f : Format} {j : Json} {way : List Nat} {issue : Issue} :
      fields[i]? = some (name, absence, f) → Members.get? name members = some j →
      Violated f j way issue →
      Violated (.object fields) (.object members) (i :: way) (issue.within name)

/-- The complete list of violations, each one once, in depth-first order. -/
def IsReport (f : Format) (j : Json) (issues : List Issue) : Prop :=
  ∃ listed : List (List Nat × Issue), issues = listed.map Prod.snd
    ∧ listed.Pairwise (fun a b => a.1 < b.1)
    ∧ ∀ way issue, (way, issue) ∈ listed ↔ f.Violated j way issue

/-! ## What a format declares of a value -/

/-- A member that may be absent. -/
def optionalMember (name : Text) (j? : Option Json) : List (Text × Json) :=
  (j?.map (Prod.mk name)).toList

mutual

/-- The declared part of a value, at every depth: of an object the declared fields with their
defaults, of a record its members in the order in which they are enumerated, without the
reserved name. -/
def projection : Format → Json → Json
  | list _ item, .array js => .array (js.map fun j => projection item j)
  | record value, .object members =>
    .object (((Members.enumerated members).map fun m => (m.1, projection value m.2)).filter
      fun m => m.1 ≠ Shape.reservedName)
  | object fields, .object members => .object (projectedFields fields members)
  | _, j => j

/-- The declared members of an object. -/
def projectedFields : List (Text × Absence × Format) → List (Text × Json) → List (Text × Json)
  | [], _ => []
  | (name, absence, f) :: rest, members =>
    optionalMember name (match Members.get? name members, absence with
      | some j, _ => some (projection f j)
      | none, .default value => some value
      | none, _ => none) ++ projectedFields rest members

end

theorem optionalMember_inj {name : Text} {j? j?' : Option Json}
    (h : optionalMember name j? = optionalMember name j?') : j? = j?' := by
  cases j? <;> cases j?' <;> simp_all [optionalMember]

/-- Of two optional members with different names each one can be told from the list of both. -/
theorem optionalMember_append_inj {name name' : Text} {j? k? j?' k?' : Option Json}
    (hne : name ≠ name') (h : optionalMember name j? ++ optionalMember name' k?
      = optionalMember name j?' ++ optionalMember name' k?') : j? = j?' ∧ k? = k?' := by
  cases j? <;> cases k? <;> cases j?' <;> cases k?' <;> simp_all [optionalMember]

end Format

/-! ## Kinds -/

namespace Json

variable {j : Json}

theorem kind_eq_string_iff : j.kind = .string ↔ ∃ t, j = .string t := by cases j <;> simp [kind]

theorem kind_eq_boolean_iff : j.kind = .boolean ↔ ∃ b, j = .boolean b := by cases j <;> simp [kind]

theorem kind_eq_number_iff : j.kind = .number ↔ ∃ n, j = .number n := by cases j <;> simp [kind]

theorem kind_eq_array_iff : j.kind = .array ↔ ∃ js, j = .array js := by cases j <;> simp [kind]

theorem kind_eq_object_iff : j.kind = .object ↔ ∃ members, j = .object members := by
  cases j <;> simp [kind]

end Json

/-! ## Scalars -/

namespace Scalar

variable {s : Scalar} {j : Json} {v : Violation}

theorem accepts_iff : s.Accepts j ↔ ∀ v, ¬ s.Violated j v := by
  constructor
  · intro h v hv
    cases h with
    | text hsize => cases hv with
      | mismatch hkind => exact hkind rfl
      | emptyText => exact hsize rfl rfl
    | flag b => cases hv with
      | mismatch hkind => exact hkind rfl
    | positiveWhole hk hn =>
      obtain ⟨hwhole, hpositive⟩ := Number.isWhole_and_isPositive_iff.2 ⟨_, hk, hn⟩
      cases hv with
      | mismatch hkind => exact hkind rfl
      | notWhole h => simp [hwhole] at h
      | notPositive h => simp [hpositive] at h
    | word ht => cases hv with
      | mismatch hkind => exact hkind rfl
      | otherWord h => exact h ht
  · intro h
    have hkind : j.kind = s.kind := by
      by_contra hkind
      exact h _ (.mismatch hkind)
    cases s with
    | text size =>
      obtain ⟨t, rfl⟩ := Json.kind_eq_string_iff.1 hkind
      refine .text ?_
      rintro rfl rfl
      exact h _ .emptyText
    | flag =>
      obtain ⟨b, rfl⟩ := Json.kind_eq_boolean_iff.1 hkind
      exact .flag b
    | positiveWhole =>
      obtain ⟨n, rfl⟩ := Json.kind_eq_number_iff.1 hkind
      have hwhole : n.isWhole = true := by
        by_contra hn
        exact h _ (.notWhole (by simpa using hn))
      have hpositive : n.isPositive = true := by
        by_contra hn
        exact h _ (.notPositive (by simpa using hn))
      obtain ⟨k, hk, hn⟩ := Number.isWhole_and_isPositive_iff.1 ⟨hwhole, hpositive⟩
      exact .positiveWhole hk hn
    | word words =>
      obtain ⟨t, rfl⟩ := Json.kind_eq_string_iff.1 hkind
      refine .word ?_
      by_contra ht
      exact h _ (.otherWord ht)

end Scalar

/-! ## What stands against a format -/

namespace Format

variable {f : Format} {j : Json} {way : List Nat} {issue : Issue}

theorem violated_scalar_iff {s : Scalar} : (scalar s).Violated j way issue ↔
    ∃ v, s.Violated j v ∧ way = [v.order] ∧ issue = ⟨[], v⟩ := by
  constructor
  · intro h
    cases h with
    | scalar hv => exact ⟨_, hv, rfl, rfl⟩
    | mismatch hf => exact absurd rfl (hf s)
  · rintro ⟨v, hv, rfl, rfl⟩
    exact .scalar hv

theorem violated_of_kind_ne_iff (hf : ∀ s, f ≠ .scalar s) (hkind : j.kind ≠ f.kind) :
    f.Violated j way issue ↔ way = [] ∧ issue = ⟨[], .wrongKind f.kind j.kind⟩ := by
  constructor
  · intro h
    cases h with
    | scalar => exact absurd rfl (hf _)
    | mismatch => exact ⟨rfl, rfl⟩
    | emptyList => exact absurd rfl hkind
    | item => exact absurd rfl hkind
    | entry => exact absurd rfl hkind
    | absent => exact absurd rfl hkind
    | field => exact absurd rfl hkind
  · rintro ⟨rfl, rfl⟩
    exact .mismatch hf hkind

theorem violated_list_iff {size : Size} {item : Format} {js : List Json} :
    (list size item).Violated (.array js) way issue ↔
      (size = .nonempty ∧ js = [] ∧ way = [] ∧ issue = ⟨[], .emptyList⟩)
        ∨ ∃ i j rest inner, js[i]? = some j ∧ item.Violated j rest inner
          ∧ way = i :: rest ∧ issue = inner.within (Text.ofNat i) := by
  constructor
  · intro h
    cases h with
    | mismatch _ hkind => exact absurd rfl hkind
    | emptyList => exact Or.inl ⟨rfl, rfl, rfl, rfl⟩
    | item hi h => exact Or.inr ⟨_, _, _, _, hi, h, rfl, rfl⟩
  · rintro (⟨rfl, rfl, rfl, rfl⟩ | ⟨i, j, rest, inner, hi, h, rfl, rfl⟩)
    · exact .emptyList
    · exact .item hi h

theorem violated_record_iff {value : Format} {members : List (Text × Json)} :
    (record value).Violated (.object members) way issue ↔
      ∃ i name j rest inner, (Members.enumerated members)[i]? = some (name, j)
        ∧ value.Violated j rest inner ∧ way = i :: rest ∧ issue = inner.within name := by
  constructor
  · intro h
    cases h with
    | mismatch _ hkind => exact absurd rfl hkind
    | entry hi h => exact ⟨_, _, _, _, _, hi, h, rfl, rfl⟩
  · rintro ⟨i, name, j, rest, inner, hi, h, rfl, rfl⟩
    exact .entry hi h

theorem violated_object_iff {fields : List (Text × Absence × Format)}
    {members : List (Text × Json)} :
    (object fields).Violated (.object members) way issue ↔
      ∃ i name absence f, fields[i]? = some (name, absence, f)
        ∧ ((absence = .fault ∧ Members.get? name members = none ∧ way = [i]
            ∧ issue = ⟨[name], .required⟩)
          ∨ ∃ j rest inner, Members.get? name members = some j ∧ f.Violated j rest inner
            ∧ way = i :: rest ∧ issue = inner.within name) := by
  constructor
  · intro h
    cases h with
    | mismatch _ hkind => exact absurd rfl hkind
    | absent hi hget => exact ⟨_, _, _, _, hi, Or.inl ⟨rfl, hget, rfl, rfl⟩⟩
    | field hi hget h => exact ⟨_, _, _, _, hi, Or.inr ⟨_, _, _, hget, h, rfl, rfl⟩⟩
  · rintro ⟨i, name, absence, f, hi, ⟨rfl, hget, rfl, rfl⟩ | ⟨j, rest, inner, hget, h, rfl, rfl⟩⟩
    · exact .absent hi hget
    · exact .field hi hget h

theorem kind_eq_of_not_violated (h : ∀ way issue, ¬ f.Violated j way issue)
    (hf : ∀ s, f ≠ .scalar s) : j.kind = f.kind := by
  by_contra hkind
  exact h _ _ (.mismatch hf hkind)

/-- A value has the format exactly if nothing of it departs from it. -/
theorem conforms_iff : f.Conforms j ↔ ∀ way issue, ¬ f.Violated j way issue := by
  constructor
  · intro h
    induction h with
    | scalar h =>
      intro way issue hv
      obtain ⟨v, hv, -⟩ := violated_scalar_iff.1 hv
      exact Scalar.accepts_iff.1 h v hv
    | list hsize _ ih =>
      intro way issue hv
      obtain ⟨hs, hjs, -⟩ | ⟨i, j, rest, inner, hj, hv, -⟩ := violated_list_iff.1 hv
      · exact hsize hs hjs
      · exact ih j (List.mem_of_getElem? hj) rest inner hv
    | record _ ih =>
      intro way issue hv
      obtain ⟨i, name, j, rest, inner, hm, hv, -⟩ := violated_record_iff.1 hv
      exact ih _ ((Members.enumerated_perm _).mem_iff.1 (List.mem_of_getElem? hm)) rest inner hv
    | object hthere _ ih =>
      intro way issue hv
      obtain ⟨i, name, absence, f, hfield, ⟨habsence, hget, -⟩ | ⟨j, rest, inner, hget, hv, -⟩⟩ :=
        violated_object_iff.1 hv
      · exact hthere _ (List.mem_of_getElem? hfield) hget habsence
      · exact ih _ (List.mem_of_getElem? hfield) j hget rest inner hv
  · intro h
    induction f using induct generalizing j with
    | scalar s =>
      exact .scalar (Scalar.accepts_iff.2 fun v hv => h _ _ (.scalar hv))
    | list size item ih =>
      have hkind : j.kind = .array := kind_eq_of_not_violated h nofun
      obtain ⟨js, rfl⟩ := Json.kind_eq_array_iff.1 hkind
      refine .list ?_ fun j hj => ih fun way issue hv => ?_
      · rintro rfl rfl
        exact h _ _ .emptyList
      · obtain ⟨i, hi⟩ := List.mem_iff_getElem?.1 hj
        exact h _ _ (.item hi hv)
    | record value ih =>
      have hkind : j.kind = .object := kind_eq_of_not_violated h nofun
      obtain ⟨members, rfl⟩ := Json.kind_eq_object_iff.1 hkind
      refine .record fun m hm => ih fun way issue hv => ?_
      obtain ⟨i, hi⟩ := List.mem_iff_getElem?.1 ((Members.enumerated_perm members).mem_iff.2 hm)
      exact h _ _ (.entry hi hv)
    | object fields ih =>
      have hkind : j.kind = .object := kind_eq_of_not_violated h nofun
      obtain ⟨members, rfl⟩ := Json.kind_eq_object_iff.1 hkind
      refine .object ?_ fun field hfield j hget => ih field hfield fun way issue hv => ?_
      · rintro ⟨name, absence, f⟩ hfield hget rfl
        obtain ⟨i, hi⟩ := List.mem_iff_getElem?.1 hfield
        exact h _ _ (.absent hi hget)
      · obtain ⟨i, hi⟩ := List.mem_iff_getElem?.1 hfield
        exact h _ _ (.field hi hget hv)

/-- The null value has no format: where it stands, nothing is absent and nothing conforms. -/
theorem not_conforms_null (f : Format) : ¬ f.Conforms .null := by
  intro h
  cases h with
  | scalar h => cases h

/-! ## Conforming by parts -/

theorem conforms_someText_iff {t : Text} : someText.Conforms (.string t) ↔ t ≠ [] := by
  constructor
  · intro h
    cases h with
    | scalar h => cases h with
      | text hsize => exact hsize rfl
  · exact fun ht => .scalar (.text fun _ => ht)

theorem conforms_texts_iff {ts : List Text} :
    (list .nonempty someText).Conforms (.array (ts.map .string))
      ↔ ts ≠ [] ∧ ∀ t ∈ ts, t ≠ [] := by
  constructor
  · intro h
    cases h with
    | list hsize hitems =>
      refine ⟨fun hnil => hsize rfl (by rw [hnil]; rfl), fun t ht => ?_⟩
      exact conforms_someText_iff.1 (hitems _ (List.mem_map_of_mem ht))
  · rintro ⟨hne, hitems⟩
    refine .list (fun _ hnil => hne (List.map_eq_nil_iff.1 hnil)) fun j hj => ?_
    obtain ⟨t, ht, rfl⟩ := List.mem_map.1 hj
    exact conforms_someText_iff.2 (hitems t ht)

theorem conforms_positiveWhole_iff {n : Number} :
    (scalar .positiveWhole).Conforms (.number n) ↔ ∃ k, 0 < k ∧ n.Is k := by
  constructor
  · intro h
    cases h with
    | scalar h => cases h with
      | positiveWhole hk hn => exact ⟨_, hk, hn⟩
  · rintro ⟨k, hk, hn⟩
    exact .scalar (.positiveWhole hk hn)

theorem conforms_object_iff {fields : List (Text × Absence × Format)}
    {members : List (Text × Json)} : (object fields).Conforms (.object members) ↔
      ∀ field ∈ fields, (Members.get? field.1 members = none → field.2.1 ≠ .fault)
        ∧ ∀ j, Members.get? field.1 members = some j → field.2.2.Conforms j := by
  constructor
  · intro h
    cases h with
    | object hthere hconforms =>
      exact fun field hfield => ⟨hthere field hfield, hconforms field hfield⟩
  · intro h
    exact .object (fun field hfield => (h field hfield).1) fun field hfield => (h field hfield).2

end Format

end SurfaceGuard
