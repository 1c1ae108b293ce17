import SurfaceGuard.Failure
import SurfaceGuard.Json.Reader
import SurfaceGuard.Proofs.Schema.Undeclared

/-!
# Readers that follow a format

What it is that a reader of texts follows a format (`Format.Describes`): it returns for the JSON
texts of the format and no others, it returns the declared part, it fails with the start of the
report, and it does not see what the format does not declare.  The reader of a shape follows the
format that the shape follows (`Shape.describes_parse`).
-/

namespace SurfaceGuard

open Format

/-! ## Readers of documents -/

/-- A reader of texts follows a format. -/
structure Format.Describes {α : Type} (format : Format) (Shows : α → Json → Prop)
    (failure : List Text → GuardError) (read : Text → Except GuardError α) : Prop where
  /-- It returns exactly if the text is JSON and its value has the format. -/
  returns_iff : ∀ t, (∃ a, read t = .ok a) ↔
    ∃ json, Json.read? t = some json ∧ format.Conforms json
  /-- What it returns shows the declared part of the value, and that alone. -/
  ok_iff : ∀ t a, read t = .ok a ↔
    ∃ json, Json.read? t = some json ∧ format.Conforms json ∧ Shows a (format.projection json)
  /-- Otherwise it fails: with the one message of a text that is no JSON, or with the first five
  of all violations. -/
  error_iff : ∀ t e, read t = .error e ↔
    (Json.read? t = none ∧ e = failure ["invalid JSON"])
      ∨ ∃ json issues, Json.read? t = some json ∧ format.IsReport json issues ∧ issues ≠ []
        ∧ e = failure ((issues.take 5).map Issue.text)
  /-- Members that are not declared make no difference. -/
  unaffected : ∀ t t' json json', Json.read? t = some json → Json.read? t' = some json' →
    format.likeness json json' → read t = read t'

/-- The reader of a shape. -/
def Shape.parse {α : Type} (shape : Shape α) (failure : List Text → GuardError) (t : Text) :
    Except GuardError α :=
  match Json.read? t with
  | none => .error (failure ["invalid JSON"])
  | some json =>
    match shape (some json) with
    | .valid a => .ok a
    | .invalid issues => .error (failure ((issues.take 5).map Issue.text))

namespace Shape

section

variable {α : Type} {shape : Shape α} {format : Format} {Shows : α → Json → Prop}
    {failure : List Text → GuardError} {t : Text} {json : Json}

theorem parse_of_conforms (failure : List Text → GuardError) (hread : Json.read? t = some json)
    (hgives : (shape (some json)).Gives (format.violations json) fun a =>
      Shows a (format.projection json)) (hconforms : format.Conforms json) :
    ∃ a, shape.parse failure t = .ok a ∧ Shows a (format.projection json) := by
  rw [violations_eq_nil_iff.2 hconforms] at hgives
  cases hchecked : shape (some json) with
  | valid a =>
    rw [hchecked] at hgives
    cases hgives with
    | valid ha => exact ⟨a, by simp only [parse, hread, hchecked], ha⟩
  | invalid issues =>
    rw [hchecked] at hgives
    cases hgives with
    | invalid hne => exact absurd rfl hne

theorem parse_of_not_conforms (hread : Json.read? t = some json)
    (hgives : (shape (some json)).Gives (format.violations json) fun a =>
      Shows a (format.projection json)) (hnot : ¬ format.Conforms json) :
    shape.parse failure t
      = .error (failure (((format.violations json).take 5).map Issue.text)) := by
  have hne : format.violations json ≠ [] := fun h => hnot (violations_eq_nil_iff.1 h)
  generalize format.violations json = issues at hgives hne ⊢
  cases hchecked : shape (some json) with
  | valid a =>
    rw [hchecked] at hgives
    cases hgives with
    | valid ha => exact absurd rfl hne
  | invalid issues' =>
    rw [hchecked] at hgives
    cases hgives with
    | invalid hne => simp only [parse, hread, hchecked]

theorem parse_of_not_json (h : Json.read? t = none) :
    shape.parse failure t = .error (failure ["invalid JSON"]) := by
  simp only [parse, h]

end

/-! ### What a reader of a shape does -/

section

variable {α : Type} {shape : Shape α} {format : Format} {Shows : α → Json → Prop}
    {failure : List Text → GuardError} {t : Text}
    (hgives : ∀ t json, Json.read? t = some json → (shape (some json)).Gives
      (format.violations json) fun a => Shows a (format.projection json))

include hgives

theorem parse_eq_ok_iff (hunique : ∀ a b json, Shows a json → Shows b json → a = b) {a : α} :
    shape.parse failure t = .ok a ↔ ∃ json, Json.read? t = some json ∧ format.Conforms json
      ∧ Shows a (format.projection json) := by
  constructor
  · intro ha
    cases hread : Json.read? t with
    | none => cases ha.symm.trans (parse_of_not_json hread)
    | some json =>
      by_cases hconforms : format.Conforms json
      · obtain ⟨b, hb, hshows⟩ :=
          parse_of_conforms failure hread (hgives t json hread) hconforms
        cases ha.symm.trans hb
        exact ⟨json, rfl, hconforms, hshows⟩
      · cases ha.symm.trans (parse_of_not_conforms hread (hgives t json hread) hconforms)
  · rintro ⟨json, hread, hconforms, hshows⟩
    obtain ⟨b, hb, hshows'⟩ :=
      parse_of_conforms failure hread (hgives t json hread) hconforms
    rw [hb, hunique a b _ hshows hshows']

theorem parse_eq_error_iff {e : GuardError} :
    shape.parse failure t = .error e ↔ (Json.read? t = none ∧ e = failure ["invalid JSON"])
      ∨ ∃ json issues, Json.read? t = some json ∧ format.IsReport json issues ∧ issues ≠ []
        ∧ e = failure ((issues.take 5).map Issue.text) := by
  constructor
  · intro he
    cases hread : Json.read? t with
    | none =>
      cases he.symm.trans (parse_of_not_json hread)
      exact Or.inl ⟨rfl, rfl⟩
    | some json =>
      by_cases hconforms : format.Conforms json
      · obtain ⟨b, hb, -⟩ :=
          parse_of_conforms failure hread (hgives t json hread) hconforms
        cases he.symm.trans hb
      · cases he.symm.trans (parse_of_not_conforms hread (hgives t json hread) hconforms)
        exact Or.inr ⟨json, _, rfl, isReport_violations format json,
          fun h => hconforms (violations_eq_nil_iff.1 h), rfl⟩
  · rintro (⟨hnone, rfl⟩ | ⟨json, issues, hread, hreport, hne, rfl⟩)
    · exact parse_of_not_json hnone
    · cases hreport.unique (isReport_violations format json)
      exact parse_of_not_conforms hread (hgives t json hread)
        fun h => hne (violations_eq_nil_iff.2 h)

/-- The reader of a shape follows the format of the shape. -/
theorem describes_parse (hunique : ∀ a b json, Shows a json → Shows b json → a = b) :
    format.Describes Shows failure (shape.parse failure) where
  returns_iff t := by
    constructor
    · rintro ⟨a, ha⟩
      obtain ⟨json, hread, hconforms, -⟩ := (parse_eq_ok_iff hgives hunique).1 ha
      exact ⟨json, hread, hconforms⟩
    · rintro ⟨json, hread, hconforms⟩
      obtain ⟨a, ha, -⟩ := parse_of_conforms failure hread (hgives t json hread) hconforms
      exact ⟨a, ha⟩
  ok_iff t a := parse_eq_ok_iff hgives hunique
  error_iff t e := parse_eq_error_iff hgives
  unaffected t t' json json' hread hread' halike := by
    obtain ⟨hlisting, hprojection⟩ := eq_of_likeness halike
    have hviolations : format.violations json = format.violations json' := by
      rw [violations, violations, hlisting]
    by_cases hconforms : format.Conforms json
    · have hconforms' : format.Conforms json' := by
        rwa [← violations_eq_nil_iff, ← hviolations, violations_eq_nil_iff]
      obtain ⟨a, ha, hshows⟩ :=
        parse_of_conforms failure hread (hgives t json hread) hconforms
      rw [ha, eq_comm, parse_eq_ok_iff hgives hunique]
      exact ⟨json', hread', hconforms', hprojection ▸ hshows⟩
    · have hconforms' : ¬ format.Conforms json' := by
        rwa [← violations_eq_nil_iff, ← hviolations, violations_eq_nil_iff]
      rw [parse_of_not_conforms hread (hgives t json hread) hconforms,
        parse_of_not_conforms hread' (hgives t' json' hread') hconforms', hviolations]

end

end Shape

/-- A function of what is read. -/
theorem Format.Describes.map {α β : Type} {format : Format} {Shows : α → Json → Prop}
    {failure : List Text → GuardError} {read : Text → Except GuardError α}
    (h : format.Describes Shows failure read) (f : α → β) :
    format.Describes (fun b json => ∃ a, Shows a json ∧ f a = b) failure
      fun t => (read t).map f where
  returns_iff t := by
    rw [← h.returns_iff t]
    cases read t <;> simp [Except.map]
  ok_iff t b := by
    constructor
    · intro hb
      cases ha : read t with
      | error e => simp [ha, Except.map] at hb
      | ok a =>
        obtain ⟨json, hread, hconforms, hshows⟩ := (h.ok_iff t a).1 ha
        exact ⟨json, hread, hconforms, a, hshows, by simpa [ha, Except.map] using hb⟩
    · rintro ⟨json, hread, hconforms, a, hshows, rfl⟩
      simp only [(h.ok_iff t a).2 ⟨json, hread, hconforms, hshows⟩, Except.map]
  error_iff t e := by
    rw [← h.error_iff t e]
    cases read t <;> simp [Except.map]
  unaffected t t' json json' hread hread' halike := by
    simp only [h.unaffected t t' json json' hread hread' halike]

end SurfaceGuard
