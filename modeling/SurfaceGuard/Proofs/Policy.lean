import SurfaceGuard.Policy
import SurfaceGuard.Proofs.Diff

/-!
# What the policy accepts

A decision passes if and only if the two tables are as the mode demands
(`Policy.passed_evaluate_iff`): equal in strict mode and where additions are ruled out,
and otherwise the old one within the new one.
-/

namespace SurfaceGuard.Policy

/-- What a mode demands of the signatures before and after. -/
def Accepts (mode : Mode) (failOnAdditions : Bool) (before after : Text → Option Text) : Prop :=
  match mode, failOnAdditions with
  | .strict, _ => ∀ id, before id = after id
  | .semver, true => ∀ id, before id = after id
  | .semver, false => ∀ id signature, before id = some signature → after id = some signature

theorem isBreaking_eq_false_iff {old new : Snapshot} :
    isBreaking (Diff.between old new) = false ↔ old.symbols.Within new.symbols := by
  rw [isBreaking, Bool.or_eq_false_iff, Bool.not_eq_false', Bool.not_eq_false', List.isEmpty_iff,
    List.isEmpty_iff, Diff.within_iff, ← @Text.sort_eq_nil_iff (Diff.onlyIn _ _),
    ← @Text.sort_eq_nil_iff (Diff.differing _ _)]
  rfl

theorem isAdding_eq_false_iff {old new : Snapshot} :
    isAdding (Diff.between old new) = false ↔
      ∀ id, new.symbols.contains id = true → old.symbols.contains id = true := by
  rw [isAdding, Bool.not_eq_false', List.isEmpty_iff, ← Diff.onlyIn_eq_nil_iff,
    ← @Text.sort_eq_nil_iff (Diff.onlyIn _ _)]
  rfl

/-- No difference of any kind is left exactly if the tables agree. -/
theorem no_difference_iff {old new : Snapshot} :
    (isBreaking (Diff.between old new) = false ∧ isAdding (Diff.between old new) = false)
      ↔ old.symbols.Agree new.symbols := by
  rw [isBreaking_eq_false_iff, isAdding_eq_false_iff, SymbolTable.agree_iff]

/-- A decision passes if and only if the tables are as the mode demands. -/
theorem passed_evaluate_iff (old new : Snapshot) (mode : Mode) (failOnAdditions : Bool) :
    (evaluate (Diff.between old new) mode failOnAdditions).passed = true ↔
      Accepts mode failOnAdditions old.symbols.get? new.symbols.get? := by
  have hb := @isBreaking_eq_false_iff old new
  have hn := @no_difference_iff old new
  rw [evaluate, Option.isNone_iff_eq_none]
  cases mode with
  | strict =>
    rw [Accepts, ← SymbolTable.Agree, ← hn, objection?]
    cases isBreaking (Diff.between old new) <;> cases isAdding (Diff.between old new) <;> simp
  | semver =>
    cases failOnAdditions with
    | true =>
      rw [Accepts, ← SymbolTable.Agree, ← hn, objection?]
      cases isBreaking (Diff.between old new) <;> cases isAdding (Diff.between old new) <;> simp
    | false =>
      rw [Accepts, ← SymbolTable.Within, ← hb, objection?]
      cases isBreaking (Diff.between old new) <;> simp

end SurfaceGuard.Policy
