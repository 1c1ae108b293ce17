import SurfaceGuard.Config

/-!
# Configurations that are read

What a valid reading says of the value that was read, from the parts of a shape
(`Checked.seq_eq_valid_iff` and the like) up to a whole configuration file
(`Config.parse_eq_ok_iff`).
-/

namespace SurfaceGuard

/-! ## Valid readings -/

namespace Checked

variable {α β : Type} {a : Checked α} {b : β}

theorem map_eq_valid_iff {f : α → β} : f <$> a = .valid b ↔ ∃ x, a = .valid x ∧ f x = b := by
  cases a with
  | valid x => exact ⟨fun h => ⟨x, rfl, by cases h; rfl⟩, by rintro ⟨_, ⟨⟩, rfl⟩; rfl⟩
  | invalid issues => exact ⟨nofun, by rintro ⟨_, ⟨⟩, -⟩⟩

theorem seq_eq_valid_iff {f : Checked (α → β)} :
    f <*> a = .valid b ↔ ∃ g x, f = .valid g ∧ a = .valid x ∧ g x = b := by
  cases f with
  | valid g =>
    cases a with
    | valid x =>
      exact ⟨fun h => ⟨g, x, rfl, rfl, by cases h; rfl⟩, by rintro ⟨_, _, ⟨⟩, ⟨⟩, rfl⟩; rfl⟩
    | invalid issues => exact ⟨nofun, by rintro ⟨_, _, -, ⟨⟩, -⟩⟩
  | invalid issues => cases a <;> exact ⟨nofun, by rintro ⟨_, _, ⟨⟩, -⟩⟩

theorem within_eq_valid_iff {step : Text} {x : α} : a.within step = .valid x ↔ a = .valid x := by
  cases a with
  | valid y => rfl
  | invalid issues => exact iff_of_false nofun nofun

end Checked

namespace Shape

variable {α : Type} {shape : Shape α} {j? : Option Json} {a : α} {members : List (Text × Json)}

theorem object_eq_valid_iff {read : List (Text × Json) → Checked α} : object read j? = .valid a ↔
    ∃ members, j? = some (.object members) ∧ read members = .valid a := by
  unfold object
  split
  · exact iff_of_false nofun (by rintro ⟨_, ⟨⟩, -⟩)
  · next members => exact ⟨fun h => ⟨members, rfl, h⟩, by rintro ⟨_, ⟨⟩, h⟩; exact h⟩
  · next j hj =>
    refine iff_of_false nofun ?_
    rintro ⟨members, heq, -⟩
    exact hj members (Option.some.inj heq)

theorem field_eq_valid_iff {name : Text} :
    field name shape members = .valid a ↔ shape (Members.get? name members) = .valid a :=
  Checked.within_eq_valid_iff

theorem withDefault_eq_valid_iff {default : α} : withDefault default shape j? = .valid a ↔
    (j? = none ∧ default = a) ∨ j?.isSome ∧ shape j? = .valid a := by
  cases j? with
  | none => exact ⟨fun h => Or.inl ⟨rfl, by cases h; rfl⟩, by rintro (⟨-, rfl⟩ | ⟨⟨⟩, -⟩); rfl⟩
  | some j => exact ⟨fun h => Or.inr ⟨rfl, h⟩, by rintro (⟨⟨⟩, -⟩ | ⟨-, h⟩); exact h⟩

theorem positiveWhole_eq_valid_iff {n : Number} : positiveWhole j? = .valid n ↔
    j? = some (.number n) ∧ n.isWhole = true ∧ n.isPositive = true := by
  unfold positiveWhole
  split
  · exact iff_of_false nofun (by rintro ⟨⟨⟩, -⟩)
  · next m =>
    cases hwhole : m.isWhole with
    | false =>
      refine iff_of_false nofun ?_
      rintro ⟨⟨⟩, h, -⟩
      exact absurd (hwhole.symm.trans h) Bool.false_ne_true
    | true =>
      cases hpositive : m.isPositive with
      | false =>
        refine iff_of_false nofun ?_
        rintro ⟨⟨⟩, -, h⟩
        exact absurd (hpositive.symm.trans h) Bool.false_ne_true
      | true => exact ⟨fun h => by cases h; exact ⟨rfl, hwhole, hpositive⟩, by rintro ⟨⟨⟩, -⟩; rfl⟩
  · next j hj =>
    refine iff_of_false nofun ?_
    rintro ⟨heq, -⟩
    exact hj n (Option.some.inj heq)

end Shape

/-! ## Configurations -/

namespace Config

open Shape

variable {c : Config}

/-- A configuration file is an object, and each part of the configuration is that of one member. -/
theorem shape_eq_valid_iff {j? : Option Json} : shape j? = .valid c ↔
    ∃ o, j? = some (.object o)
      ∧ nonemptyList nonemptyText (Members.get? "targets" o) = .valid c.targets
      ∧ withDefault .semver (word Mode.words) (Members.get? "mode" o) = .valid c.mode
      ∧ withDefault ("api-baseline" : Text) nonemptyText (Members.get? "baselineDir" o)
        = .valid c.baselineDir
      ∧ withDefault (".build/apiguard" : Text) nonemptyText (Members.get? "outputDir" o)
        = .valid c.outputDir
      ∧ withDefault false flag (Members.get? "failOnAdditions" o) = .valid c.failOnAdditions
      ∧ withDefault defaultCommand (nonemptyList nonemptyText) (Members.get? "exportCommand" o)
        = .valid c.exportCommand
      ∧ withDefault (".build/symbol-graphs" : Text) nonemptyText
          (Members.get? "symbolGraphDir" o) = .valid c.symbolGraphDir
      ∧ withDefault (Number.ofNat 600000) positiveWhole (Members.get? "exportTimeoutMs" o)
        = .valid c.exportTimeoutMs := by
  rw [shape, object_eq_valid_iff]
  refine exists_congr fun o => and_congr_right fun _ => ?_
  simp only [Checked.seq_eq_valid_iff, Checked.map_eq_valid_iff, field_eq_valid_iff]
  constructor
  · rintro ⟨_, t, ⟨_, sd, ⟨_, ec, ⟨_, fa, ⟨_, od, ⟨_, bd, ⟨_, m, ⟨ts, hts, rfl⟩, hm, rfl⟩, hbd,
      rfl⟩, hod, rfl⟩, hfa, rfl⟩, hec, rfl⟩, hsd, rfl⟩, ht, rfl⟩
    exact ⟨hts, hm, hbd, hod, hfa, hec, hsd, ht⟩
  · rintro ⟨hts, hm, hbd, hod, hfa, hec, hsd, ht⟩
    exact ⟨_, _, ⟨_, _, ⟨_, _, ⟨_, _, ⟨_, _, ⟨_, _, ⟨_, _, ⟨_, hts, rfl⟩, hm, rfl⟩, hbd,
      rfl⟩, hod, rfl⟩, hfa, rfl⟩, hec, rfl⟩, hsd, rfl⟩, ht, rfl⟩

/-- What is read of a text is what it says, with the directories taken from the given one. -/
theorem parse_eq_ok_iff {text source cwd : Text} : parse text source cwd = .ok c ↔
    ∃ json read, Json.read? text = some json ∧ shape (some json) = .valid read
      ∧ read.resolved cwd = c := by
  unfold parse
  split
  · next hnone => exact iff_of_false nofun (by rintro ⟨_, _, h, -⟩; rw [hnone] at h; cases h)
  · next json hjson =>
    split
    · next read hread =>
      constructor
      · intro h
        exact ⟨json, read, hjson, hread, Except.ok.inj h⟩
      · rintro ⟨json', read', hjson', hread', rfl⟩
        rw [hjson, Option.some.injEq] at hjson'
        rw [← hjson', hread] at hread'
        cases hread'
        rfl
    · next issues hread =>
      refine iff_of_false nofun ?_
      rintro ⟨json', read', hjson', hread', rfl⟩
      rw [hjson, Option.some.injEq] at hjson'
      rw [← hjson', hread] at hread'
      cases hread'

end Config

end SurfaceGuard
