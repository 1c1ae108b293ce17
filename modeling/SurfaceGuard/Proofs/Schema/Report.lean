import SurfaceGuard.Proofs.Schema.Format

/-!
# The report of a document

`violations` computes the report of a value by the parts of the format.  The report is unique
(`Format.IsReport.unique`), it is the computed list (`Format.isReport_violations`), and it is empty
exactly for the values that conform (`Format.violations_eq_nil_iff`).

A reader sees one line for each issue: the place, with points between the names, and the wording of
the violation (`Issue.text_eq_iff`).
-/

namespace SurfaceGuard

/-! ## The list of violations -/

namespace Format

/-- Issues with the ways to them. -/
abbrev Listing := List (List Nat × Issue)

/-- The issues of the parts from the given position on, seen from the whole. -/
def ofParts : Nat → List (Text × Listing) → Listing
  | _, [] => []
  | k, (step, listing) :: rest =>
    (listing.map fun e => (k :: e.1, e.2.within step)) ++ ofParts (k + 1) rest

/-- The items of a list, each under its position. -/
def numbered : Nat → List Json → List (Text × Json)
  | _, [] => []
  | k, j :: js => (Text.ofNat k, j) :: numbered (k + 1) js

end Format

/-- The violations of a scalar. -/
def Scalar.violations : Scalar → Json → List Violation
  | text size, .string t => if size = .nonempty ∧ t = [] then [.emptyText] else []
  | flag, .boolean _ => []
  | positiveWhole, .number n =>
    (if n.isWhole then [] else [.notWhole]) ++ if n.isPositive then [] else [.notPositive]
  | word words, .string t => if words.contains t then [] else [.otherWord words t]
  | s, j => [s.mismatch j.kind]

namespace Format

mutual

/-- The violations of a value, with the ways to them, in depth-first order. -/
def listing : Format → Json → Listing
  | scalar s, j => (s.violations j).map fun v => ([v.order], ⟨[], v⟩)
  | list size item, .array js =>
    if size = .nonempty ∧ js = [] then [([], ⟨[], .emptyList⟩)]
    else ofParts 0 ((numbered 0 js).map fun m => (m.1, listing item m.2))
  | record value, .object members =>
    ofParts 0 ((Members.enumerated members).map fun m => (m.1, listing value m.2))
  | object fields, .object members => ofParts 0 (listedFields fields members)
  | f, j => [([], ⟨[], .wrongKind f.kind j.kind⟩)]

/-- The violations of each declared field. -/
def listedFields : List (Text × Absence × Format) → List (Text × Json) → List (Text × Listing)
  | [], _ => []
  | (name, absence, f) :: rest, members =>
    (name, match Members.get? name members, absence with
      | some j, _ => listing f j
      | none, .fault => [([], ⟨[], .required⟩)]
      | none, _ => []) :: listedFields rest members

end

/-- The violations of a value in depth-first order. -/
def violations (f : Format) (j : Json) : List Issue := (f.listing j).map Prod.snd

end Format

/-! ## Scalars -/

namespace Scalar

variable {s : Scalar} {j : Json} {v : Violation}

theorem mem_violations_iff : v ∈ s.violations j ↔ s.Violated j v := by
  constructor
  · intro h
    unfold violations at h
    split at h
    · next size t =>
      split at h
      · next hempty =>
        obtain ⟨rfl, rfl⟩ := hempty
        rw [List.mem_singleton.1 h]
        exact .emptyText
      · simp at h
    · simp at h
    · next n =>
      rcases List.mem_append.1 h with h | h
      · cases hn : n.isWhole <;> simp [hn] at h
        exact h ▸ .notWhole hn
      · cases hn : n.isPositive <;> simp [hn] at h
        exact h ▸ .notPositive hn
    · next words t =>
      split at h
      · simp at h
      · next ht =>
        rw [List.mem_singleton.1 h]
        exact .otherWord (by simpa using ht)
    · next htext hflag hnumber hword =>
      rw [List.mem_singleton.1 h]
      refine .mismatch fun hkind => ?_
      cases s <;> cases j <;> simp_all [Json.kind, Scalar.kind]
  · intro h
    cases h with
    | mismatch hkind => cases s <;> cases j <;> simp_all [violations, Json.kind, Scalar.kind]
    | emptyText => simp [violations]
    | notWhole hn => simp [violations, hn]
    | notPositive hn => simp [violations, hn]
    | otherWord ht => simp [violations, ht]

/-- The violations of a scalar are listed in their order, each one once. -/
theorem pairwise_violations (s : Scalar) (j : Json) :
    (s.violations j).Pairwise fun v w => v.order < w.order := by
  unfold violations
  split
  · split <;> simp
  · simp
  · next n => cases n.isWhole <;> cases n.isPositive <;> simp [Violation.order]
  · split <;> simp
  · simp

end Scalar

/-! ## The issues of parts -/

namespace Format

variable {f : Format} {j : Json} {way : List Nat} {issue : Issue}

theorem mem_ofParts {k : Nat} {parts : List (Text × Listing)} :
    (way, issue) ∈ ofParts k parts ↔ ∃ i step listing rest inner,
      parts[i]? = some (step, listing) ∧ (rest, inner) ∈ listing
        ∧ way = (k + i) :: rest ∧ issue = Issue.within step inner := by
  induction parts generalizing k with
  | nil => simp [ofParts]
  | cons part parts ih =>
    obtain ⟨step, listing⟩ := part
    simp only [ofParts, List.mem_append, ih, List.mem_map, Prod.mk.injEq, Prod.exists]
    constructor
    · rintro (⟨rest, inner, hmem, rfl, rfl⟩ | ⟨i, step', listing', rest, inner, hi, hmem, rfl, rfl⟩)
      · exact ⟨0, step, listing, rest, inner, rfl, hmem, rfl, rfl⟩
      · refine ⟨i + 1, step', listing', rest, inner, hi, hmem, ?_, rfl⟩
        simp
        omega
    · rintro ⟨_ | i, step', listing', rest, inner, hi, hmem, rfl, rfl⟩
      · cases hi
        exact Or.inl ⟨rest, inner, hmem, rfl, rfl⟩
      · refine Or.inr ⟨i, step', listing', rest, inner, hi, hmem, ?_, rfl⟩
        simp
        omega

/-- The issues of the members of a list of pairs, each with its name. -/
theorem mem_ofParts_map {α : Type} {parts : List α} {name : α → Text} {listing : α → Listing} :
    (way, issue) ∈ ofParts 0 (parts.map fun a => (name a, listing a)) ↔ ∃ (i : Nat) (a : α)
      (rest : List Nat) (inner : Issue), parts[i]? = some a ∧ (rest, inner) ∈ listing a
        ∧ way = i :: rest ∧ issue = inner.within (name a) := by
  simp only [mem_ofParts, List.getElem?_map, Option.map_eq_some_iff, Prod.mk.injEq, Nat.zero_add]
  constructor
  · rintro ⟨i, _, _, rest, inner, ⟨a, ha, rfl, rfl⟩, hmem, hway, hissue⟩
    exact ⟨i, a, rest, inner, ha, hmem, hway, hissue⟩
  · rintro ⟨i, a, rest, inner, ha, hmem, hway, hissue⟩
    exact ⟨i, _, _, rest, inner, ⟨a, ha, rfl, rfl⟩, hmem, hway, hissue⟩

/-- The issues of parts are in order if those of each part are. -/
theorem pairwise_ofParts {α : Type} {parts : List α} {name : α → Text} {listing : α → Listing}
    (h : ∀ a ∈ parts, (listing a).Pairwise fun x y => x.1 < y.1) (k : Nat) :
    (ofParts k (parts.map fun a => (name a, listing a))).Pairwise fun x y => x.1 < y.1 := by
  induction parts generalizing k with
  | nil => exact .nil
  | cons a parts ih =>
    obtain ⟨ha, hparts⟩ := List.forall_mem_cons.1 h
    rw [List.map_cons, ofParts, List.pairwise_append]
    refine ⟨?_, ih hparts (k + 1), ?_⟩
    · rw [List.pairwise_map]
      exact ha.imp fun hxy => List.cons_lt_cons_iff.2 (Or.inr ⟨rfl, hxy⟩)
    · rintro x hx ⟨way, issue⟩ hy
      obtain ⟨e, -, rfl⟩ := List.mem_map.1 hx
      obtain ⟨i, -, -, rest, -, -, -, rfl, -⟩ := mem_ofParts.1 hy
      exact List.cons_lt_cons_iff.2 (Or.inl (by omega))

theorem map_snd_ofParts (k : Nat) (parts : List (Text × Listing)) :
    (ofParts k parts).map Prod.snd
      = parts.flatMap fun part => (part.2.map Prod.snd).map (Issue.within part.1) := by
  induction parts generalizing k with
  | nil => rfl
  | cons part parts ih =>
    rw [ofParts, List.map_append, ih, List.flatMap_cons, List.map_map, List.map_map]
    rfl

theorem getElem?_numbered (k : Nat) (js : List Json) (i : Nat) :
    (numbered k js)[i]? = js[i]?.map fun j => (Text.ofNat (k + i), j) := by
  induction js generalizing k i with
  | nil => rfl
  | cons j js ih =>
    cases i with
    | zero => rfl
    | succ i =>
      rw [numbered, List.getElem?_cons_succ, List.getElem?_cons_succ, ih, Nat.add_right_comm,
        Nat.add_assoc]

/-! ## The list is the report -/

/-- The issues of one field. -/
def fieldListing (field : Text × Absence × Format) (members : List (Text × Json)) : Listing :=
  match Members.get? field.1 members, field.2.1 with
  | some j, _ => listing field.2.2 j
  | none, .fault => [([], ⟨[], .required⟩)]
  | none, _ => []

theorem listing_object (fields : List (Text × Absence × Format)) (members : List (Text × Json)) :
    (object fields).listing (.object members)
      = ofParts 0 (fields.map fun field => (field.1, fieldListing field members)) := by
  have hfields : listedFields fields members
      = fields.map fun field => (field.1, fieldListing field members) := by
    induction fields with
    | nil => rfl
    | cons field fields ih =>
      obtain ⟨name, absence, f⟩ := field
      exact congrArg (List.cons _) ih
  rw [listing, hfields]

theorem listing_of_kind_ne (hf : ∀ s, f ≠ .scalar s) (hkind : j.kind ≠ f.kind) :
    f.listing j = [([], ⟨[], .wrongKind f.kind j.kind⟩)] := by
  cases f with
  | scalar s => exact absurd rfl (hf s)
  | list size item => cases j <;> first | rfl | exact absurd rfl hkind
  | record value => cases j <;> first | rfl | exact absurd rfl hkind
  | object fields => cases j <;> first | rfl | exact absurd rfl hkind

/-- The issues of a value are listed by the ways to them, each one once. -/
theorem pairwise_listing (f : Format) (j : Json) :
    (f.listing j).Pairwise fun a b => a.1 < b.1 := by
  induction f using induct generalizing j with
  | scalar s =>
    rw [listing, List.pairwise_map]
    exact (s.pairwise_violations j).imp fun h => List.cons_lt_cons_iff.2 (Or.inl h)
  | list size item ih =>
    by_cases hkind : j.kind = .array
    · obtain ⟨js, rfl⟩ := Json.kind_eq_array_iff.1 hkind
      rw [listing]
      split
      · exact List.pairwise_singleton _ _
      · exact pairwise_ofParts (fun m _ => ih m.2) 0
    · rw [listing_of_kind_ne (f := list size item) nofun hkind]
      exact List.pairwise_singleton _ _
  | record value ih =>
    by_cases hkind : j.kind = .object
    · obtain ⟨members, rfl⟩ := Json.kind_eq_object_iff.1 hkind
      exact pairwise_ofParts (fun m _ => ih m.2) 0
    · rw [listing_of_kind_ne (f := record value) nofun hkind]
      exact List.pairwise_singleton _ _
  | object fields ih =>
    by_cases hkind : j.kind = .object
    · obtain ⟨members, rfl⟩ := Json.kind_eq_object_iff.1 hkind
      rw [listing_object]
      refine pairwise_ofParts (fun field hfield => ?_) 0
      unfold fieldListing
      split
      · exact ih field hfield _
      · exact List.pairwise_singleton _ _
      · exact .nil
    · rw [listing_of_kind_ne (f := object fields) nofun hkind]
      exact List.pairwise_singleton _ _

/-- The list has the violations of the value, and nothing else. -/
theorem mem_listing_iff : (way, issue) ∈ f.listing j ↔ f.Violated j way issue := by
  induction f using induct generalizing j way issue with
  | scalar s =>
    rw [violated_scalar_iff, listing, List.mem_map]
    refine exists_congr fun v => and_congr Scalar.mem_violations_iff ?_
    simp [eq_comm]
  | list size item ih =>
    by_cases hkind : j.kind = .array
    · obtain ⟨js, rfl⟩ := Json.kind_eq_array_iff.1 hkind
      rw [violated_list_iff, listing]
      split
      · next hempty =>
        obtain ⟨rfl, rfl⟩ := hempty
        simp
      · next hempty =>
        rw [mem_ofParts_map, or_iff_right fun h => hempty ⟨h.1, h.2.1⟩]
        simp only [getElem?_numbered, Option.map_eq_some_iff, Nat.zero_add, ih]
        constructor
        · rintro ⟨i, _, rest, inner, ⟨j, hj, rfl⟩, h⟩
          exact ⟨i, j, rest, inner, hj, h⟩
        · rintro ⟨i, j, rest, inner, hj, h⟩
          exact ⟨i, _, rest, inner, ⟨j, hj, rfl⟩, h⟩
    · rw [violated_of_kind_ne_iff (f := list size item) nofun hkind,
        listing_of_kind_ne (f := list size item) nofun hkind]
      simp
  | record value ih =>
    by_cases hkind : j.kind = .object
    · obtain ⟨members, rfl⟩ := Json.kind_eq_object_iff.1 hkind
      rw [violated_record_iff, listing, mem_ofParts_map]
      simp only [Prod.exists, ih]
    · rw [violated_of_kind_ne_iff (f := record value) nofun hkind,
        listing_of_kind_ne (f := record value) nofun hkind]
      simp
  | object fields ih =>
    by_cases hkind : j.kind = .object
    · obtain ⟨members, rfl⟩ := Json.kind_eq_object_iff.1 hkind
      rw [violated_object_iff, listing_object, mem_ofParts_map]
      constructor
      · rintro ⟨i, ⟨name, absence, f⟩, rest, inner, hfield, hmem, rfl, rfl⟩
        refine ⟨i, name, absence, f, hfield, ?_⟩
        unfold fieldListing at hmem
        split at hmem
        · next j hget =>
          exact Or.inr ⟨j, rest, inner, hget, (ih _ (List.mem_of_getElem? hfield)).1 hmem, rfl, rfl⟩
        · next hget habsence =>
          cases List.mem_singleton.1 hmem
          exact Or.inl ⟨habsence, hget, rfl, rfl⟩
        · cases hmem
      · rintro ⟨i, name, absence, f, hfield, ⟨rfl, hget, rfl, rfl⟩ | ⟨j, rest, inner, hget, h,
          rfl, rfl⟩⟩
        · refine ⟨i, _, [], ⟨[], .required⟩, hfield, ?_, rfl, rfl⟩
          simp [fieldListing, hget]
        · refine ⟨i, _, rest, inner, hfield, ?_, rfl, rfl⟩
          simpa [fieldListing, hget] using (ih _ (List.mem_of_getElem? hfield)).2 h
    · rw [violated_of_kind_ne_iff (f := object fields) nofun hkind,
        listing_of_kind_ne (f := object fields) nofun hkind]
      simp

theorem isReport_violations (f : Format) (j : Json) : f.IsReport j (f.violations j) :=
  ⟨f.listing j, rfl, pairwise_listing f j, fun _ _ => mem_listing_iff⟩

/-- A value has one report. -/
theorem IsReport.unique {issues issues' : List Issue} (h : f.IsReport j issues)
    (h' : f.IsReport j issues') : issues = issues' := by
  obtain ⟨listed, rfl, hpairwise, hmem⟩ := h
  obtain ⟨listed', rfl, hpairwise', hmem'⟩ := h'
  have hnodup : ∀ {l : List (List Nat × Issue)}, (l.Pairwise fun a b => a.1 < b.1) → l.Nodup :=
    fun hl => hl.imp fun hab heq => absurd (heq ▸ hab) (List.lt_irrefl _)
  have hperm : listed.Perm listed' :=
    (List.perm_ext_iff_of_nodup (hnodup hpairwise) (hnodup hpairwise')).2 fun e =>
      (hmem e.1 e.2).trans (hmem' e.1 e.2).symm
  rw [hperm.eq_of_pairwise (fun a b _ _ hab hba => absurd hba (List.lt_asymm hab))
    hpairwise hpairwise']

theorem violations_eq_nil_iff : f.violations j = [] ↔ f.Conforms j := by
  rw [violations, List.map_eq_nil_iff, conforms_iff, List.eq_nil_iff_forall_not_mem]
  exact ⟨fun h way issue hv => h _ (mem_listing_iff.2 hv),
    fun h e he => h _ _ (mem_listing_iff.1 he)⟩

end Format

/-! ## The lines of a report -/

/-- The parts with the separator between neighbours. -/
inductive Text.Joined (separator : Text) : List Text → Text → Prop
  | none : Joined separator [] []
  | one (part : Text) : Joined separator [part] part
  | more (part : Text) {next t : Text} {rest : List Text} (h : Joined separator (next :: rest) t) :
      Joined separator (part :: next :: rest) (part ++ separator ++ t)

theorem Text.joined_iff {separator : Text} {parts : List Text} {t : Text} :
    Joined separator parts t ↔ t = join separator parts := by
  constructor
  · intro h
    induction h with
    | none => rfl
    | one part => simp [join]
    | more part _ ih => simp [ih, join]
  · rintro rfl
    induction parts with
    | nil => exact .none
    | cons part rest ih =>
      cases rest with
      | nil => simpa [join] using Joined.one part
      | cons next rest => simpa [join] using ih.more part

/-- What a kind of value is called. -/
inductive JsonKind.IsCalled : JsonKind → Text → Prop
  | null : IsCalled .null "null"
  | boolean : IsCalled .boolean "boolean"
  | number : IsCalled .number "number"
  | string : IsCalled .string "string"
  | array : IsCalled .array "array"
  | object : IsCalled .object "object"

theorem JsonKind.isCalled_iff {kind : JsonKind} {name : Text} :
    kind.IsCalled name ↔ name = kind.name := by
  constructor
  · intro h
    cases h <;> rfl
  · rintro rfl
    cases kind <;> constructor

/-- A word between quotation marks. -/
def Violation.quoted (word : Text) : Text := "'" ++ word ++ "'"

/-- What a report says about a violation, word for word. -/
inductive Violation.Says : Violation → Text → Prop
  | required : Says .required "Required"
  | wrongKind {expected received : JsonKind} {e r : Text} (he : expected.IsCalled e)
      (hr : received.IsCalled r) :
      Says (.wrongKind expected received) ("Expected " ++ e ++ ", received " ++ r)
  | noWord {words : List Text} {received : JsonKind} {ws r : Text}
      (hw : Text.Joined " | " (words.map quoted) ws) (hr : received.IsCalled r) :
      Says (.noWord words received) ("Expected " ++ ws ++ ", received " ++ r)
  | otherWord {words : List Text} {received ws : Text}
      (hw : Text.Joined " | " (words.map quoted) ws) :
      Says (.otherWord words received)
        ("Invalid enum value. Expected " ++ ws ++ ", received " ++ quoted received)
  | emptyText : Says .emptyText "String must contain at least 1 character(s)"
  | emptyList : Says .emptyList "Array must contain at least 1 element(s)"
  | notWhole : Says .notWhole "Expected integer, received float"
  | notPositive : Says .notPositive "Number must be greater than 0"

theorem Violation.says_iff {v : Violation} {t : Text} : v.Says t ↔ t = v.message := by
  have hreceived : ∀ front received : Text,
      front ++ ", received " ++ quoted received = front ++ ", received '" ++ received ++ "'" := by
    intro front received
    simp [quoted, Text.ofString, Text.ofScalar]
  constructor
  · intro h
    cases h with
    | wrongKind he hr => rw [message, JsonKind.isCalled_iff.1 he, JsonKind.isCalled_iff.1 hr]
    | noWord hw hr => rw [message, listWords, Text.joined_iff.1 hw, JsonKind.isCalled_iff.1 hr]; rfl
    | otherWord hw => rw [hreceived, message, listWords, Text.joined_iff.1 hw]; rfl
    | _ => rfl
  · rintro rfl
    cases v with
    | required => exact .required
    | wrongKind => exact .wrongKind (JsonKind.isCalled_iff.2 rfl) (JsonKind.isCalled_iff.2 rfl)
    | noWord => exact .noWord (Text.joined_iff.2 rfl) (JsonKind.isCalled_iff.2 rfl)
    | otherWord words received =>
      rw [message, ← hreceived]
      exact .otherWord (Text.joined_iff.2 rfl)
    | emptyText => exact .emptyText
    | emptyList => exact .emptyList
    | notWhole => exact .notWhole
    | notPositive => exact .notPositive

/-- The line of an issue: the names on the way to its place, or `root` if there are none, and what
is wrong there. -/
inductive Issue.Reads : Issue → Text → Prop
  | root {v : Violation} {m : Text} (hm : v.Says m) : Reads ⟨[], v⟩ ("root: " ++ m)
  | below {place : List Text} {v : Violation} {p m : Text} (hne : place ≠ [])
      (hp : Text.Joined "." place p) (hm : v.Says m) : Reads ⟨place, v⟩ (p ++ ": " ++ m)

/-- An issue is reported by its line. -/
theorem Issue.text_eq_iff {i : Issue} {line : Text} : i.text = line ↔ i.Reads line := by
  obtain ⟨place, v⟩ := i
  constructor
  · rintro rfl
    cases place with
    | nil => exact .root (Violation.says_iff.2 rfl)
    | cons name place =>
      exact .below (List.cons_ne_nil name place) (Text.joined_iff.2 rfl) (Violation.says_iff.2 rfl)
  · intro h
    cases h with
    | root hm =>
      rw [Violation.says_iff.1 hm]
      rfl
    | below hne hp hm =>
      rw [Text.joined_iff.1 hp, Violation.says_iff.1 hm, text, if_neg]
      rwa [List.isEmpty_iff]

end SurfaceGuard
