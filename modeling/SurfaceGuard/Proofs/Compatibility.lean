import SurfaceGuard.Proofs.Policy

/-!
# Compatibility is a preorder

A snapshot is compatible with an older one if the policy lets the change from one to the
other pass.  This file says what kind of relation that is, for each mode
(`Policy.compatible_preorder`): every snapshot is compatible with itself, and a chain of
compatible changes is compatible as a whole, so that updates can be accepted one at a
time.  Where no addition is accepted, compatible snapshots have equal tables; where
additions are accepted, this is so for snapshots that are compatible in both directions.

All of it is read off what a mode demands of the two tables (`Policy.Accepts`), and so
targets, times and the order of the symbols play no part.
-/

namespace SurfaceGuard.Policy

variable {mode : Mode} {failOnAdditions : Bool}

/-! ## What a mode demands, as a relation -/

section Accepts

variable {f g h : Text → Option Text}

theorem Accepts.refl (f : Text → Option Text) : Accepts mode failOnAdditions f f := by
  unfold Accepts
  split
  · intro id
    rfl
  · intro id
    rfl
  · intro id signature hid
    exact hid

theorem Accepts.trans (hfg : Accepts mode failOnAdditions f g)
    (hgh : Accepts mode failOnAdditions g h) : Accepts mode failOnAdditions f h := by
  unfold Accepts at *
  split
  · intro id
    rw [hfg id, hgh id]
  · intro id
    rw [hfg id, hgh id]
  · intro id signature hid
    exact hgh id signature (hfg id signature hid)

/-- What is demanded in strict mode is enough for every other setting. -/
theorem Accepts.of_strict {failOnAdditions' : Bool} (hfg : Accepts .strict failOnAdditions' f g) :
    Accepts mode failOnAdditions f g := by
  have heq : ∀ id, f id = g id := hfg
  have hext : f = g := funext heq
  subst hext
  exact Accepts.refl f

/-- Where additions are not accepted, nothing may differ. -/
theorem accepts_iff_of_exact (hexact : mode = .strict ∨ failOnAdditions = true) :
    Accepts mode failOnAdditions f g ↔ ∀ id, f id = g id := by
  cases mode with
  | strict => rfl
  | semver =>
    have hadditions : failOnAdditions = true := by simpa using hexact
    subst hadditions
    rfl

/-- Tables that are acceptable after each other do not differ: no symbol can be added on the way
there that is not removed on the way back. -/
theorem Accepts.antisymm (hfg : Accepts mode failOnAdditions f g)
    (hgf : Accepts mode failOnAdditions g f) : ∀ id, f id = g id := by
  by_cases hexact : mode = .strict ∨ failOnAdditions = true
  · exact (accepts_iff_of_exact hexact).1 hfg
  · have hmode : mode = .semver := by cases mode <;> simp_all
    have hadditions : failOnAdditions = false := by simp_all
    subst hmode hadditions
    have hforth : ∀ id signature, f id = some signature → g id = some signature := hfg
    have hback : ∀ id signature, g id = some signature → f id = some signature := hgf
    intro id
    cases hid : f id with
    | some signature => rw [hforth id signature hid]
    | none =>
      cases hid' : g id with
      | none => rfl
      | some signature =>
        have hsome := hback id signature hid'
        rw [hid] at hsome
        cases hsome

end Accepts

/-! ## Compatible snapshots -/

/-- The policy lets the change from the first snapshot to the second one pass. -/
def Compatible (mode : Mode) (failOnAdditions : Bool) (old new : Snapshot) : Prop :=
  (evaluate (Diff.between old new) mode failOnAdditions).passed = true

variable {a a' b b' c : Snapshot}

theorem compatible_iff :
    Compatible mode failOnAdditions a b ↔
      Accepts mode failOnAdditions a.symbols.get? b.symbols.get? :=
  passed_evaluate_iff a b mode failOnAdditions

theorem compatible_refl (a : Snapshot) : Compatible mode failOnAdditions a a :=
  compatible_iff.2 (Accepts.refl _)

theorem Compatible.trans (hab : Compatible mode failOnAdditions a b)
    (hbc : Compatible mode failOnAdditions b c) : Compatible mode failOnAdditions a c := by
  rw [compatible_iff] at *
  exact hab.trans hbc

/-- Snapshots with equal tables are compatible with the same snapshots. -/
theorem compatible_congr (ha : a.symbols.Agree a'.symbols) (hb : b.symbols.Agree b'.symbols) :
    Compatible mode failOnAdditions a b ↔ Compatible mode failOnAdditions a' b' := by
  have hget : a.symbols.get? = a'.symbols.get? := funext ha
  have hget' : b.symbols.get? = b'.symbols.get? := funext hb
  rw [compatible_iff, compatible_iff, hget, hget']

theorem compatible_iff_agree (hexact : mode = .strict ∨ failOnAdditions = true) :
    Compatible mode failOnAdditions a b ↔ a.symbols.Agree b.symbols := by
  rw [compatible_iff, accepts_iff_of_exact hexact]
  rfl

/-- Compatibility is a preorder on snapshots that depends on their tables alone.  In strict mode,
and where additions are ruled out, it is equality of the tables and so symmetric; in any mode
snapshots that are compatible in both directions have equal tables.  What passes in strict mode
passes in every setting. -/
theorem compatible_preorder (mode : Mode) (failOnAdditions : Bool) :
    (∀ a, Compatible mode failOnAdditions a a)
    ∧ (∀ a b c, Compatible mode failOnAdditions a b → Compatible mode failOnAdditions b c →
        Compatible mode failOnAdditions a c)
    ∧ (∀ a a' b b' : Snapshot, a.symbols.Agree a'.symbols → b.symbols.Agree b'.symbols →
        (Compatible mode failOnAdditions a b ↔ Compatible mode failOnAdditions a' b'))
    ∧ (mode = .strict ∨ failOnAdditions = true → ∀ a b,
        (Compatible mode failOnAdditions a b ↔ a.symbols.Agree b.symbols)
          ∧ (Compatible mode failOnAdditions a b → Compatible mode failOnAdditions b a))
    ∧ (∀ a b, Compatible mode failOnAdditions a b → Compatible mode failOnAdditions b a →
        a.symbols.Agree b.symbols)
    ∧ ∀ a b failOnAdditions', Compatible .strict failOnAdditions' a b →
        Compatible mode failOnAdditions a b := by
  refine ⟨compatible_refl, fun a b c hab hbc => hab.trans hbc,
    fun a a' b b' ha hb => compatible_congr ha hb, fun hexact a b => ?_, fun a b hab hba => ?_,
    fun a b failOnAdditions' hab => ?_⟩
  · refine ⟨compatible_iff_agree hexact, fun hab => ?_⟩
    have hagree := (compatible_iff_agree hexact).1 hab
    exact (compatible_iff_agree hexact).2 fun id => (hagree id).symm
  · rw [compatible_iff] at hab hba
    exact hab.antisymm hba
  · rw [compatible_iff] at *
    exact hab.of_strict

/-- Two additions that are accepted one after the other are accepted together, and cannot be taken
back. -/
theorem compatible_preorder_of_additions :
    let snapshot (symbols : List (Text × Text)) : Snapshot := ⟨"M", "t", .ofList symbols⟩
    let a := snapshot [("s:f", "func f")]
    let b := snapshot [("s:g", "func g"), ("s:f", "func f")]
    let c := snapshot [("s:f", "func f"), ("s:g", "func g"), ("s:h", "func h")]
    Compatible .semver false a b ∧ Compatible .semver false b c ∧ Compatible .semver false a c
      ∧ ¬Compatible .semver false c a := by
  intro snapshot a b c
  have hab : Compatible .semver false a b := by unfold Compatible; decide +kernel
  have hbc : Compatible .semver false b c := by unfold Compatible; decide +kernel
  obtain ⟨-, htrans, -, -, hequal, -⟩ := compatible_preorder .semver false
  have hac := htrans a b c hab hbc
  refine ⟨hab, hbc, hac, fun hca => ?_⟩
  have hagree := hequal a c hac hca "s:h"
  exact absurd hagree (by decide +kernel)

end SurfaceGuard.Policy
