import SurfaceGuard.Proofs.Baseline.RoundTrip
import SurfaceGuard.Proofs.Policy

/-!
# The gate from end to end

A check compares the snapshot of today with one that was stored.  Storing changes nothing
about the decision, and the decision says what it should about the two symbol graphs: it
passes if and only if their public surfaces are as the mode demands.
-/

namespace SurfaceGuard

/-- Every step of a check succeeds on two graphs, where the snapshot of the old one was stored
and read back.  The diff and the decision are those of the two snapshots in memory, and the
decision passes if and only if the public surfaces are as the mode demands. -/
theorem check_through_baseline (oldText newText oldSource newSource target source : Text)
    (past now : Number) (mode : Mode) (failOnAdditions : Bool) :
    ∀ old new : Graph, Graph.parse oldText oldSource = .ok old →
      Graph.parse newText newSource = .ok new →
      Timestamp.IsValid past → Timestamp.IsValid now →
      (∀ s ∈ old.symbols, s.isVisible = true → s.identifier ≠ Shape.reservedName) →
      ∃ before after stored, old.snapshot? target past = some before
        ∧ new.snapshot? target now = some after
        ∧ Baseline.decode (Utf8.decode (Baseline.encode before)) source = .ok stored
        ∧ Diff.between stored after = Diff.between before after
        ∧ Policy.evaluate (Diff.between stored after) mode failOnAdditions
          = Policy.evaluate (Diff.between before after) mode failOnAdditions
        ∧ ((Policy.evaluate (Diff.between stored after) mode failOnAdditions).passed = true ↔
            Policy.Accepts mode failOnAdditions old.surface new.surface) := by
  intro old new _ _ hpast hnow hreserved
  obtain ⟨before, hbefore, hold⟩ := old.exists_snapshot? hpast target
  obtain ⟨after, hafter, hnew⟩ := new.exists_snapshot? hnow target
  have hstored := Baseline.decode_decode_encode before source
  -- no visible symbol has the reserved name, so all of them come back
  have hagree := Baseline.agree_ofList_kept_iff.2 (hold ▸ Graph.not_mem_ids_table hreserved)
  have hdiff : Diff.between ⟨before.target, before.createdAt,
      SymbolTable.ofList (Baseline.kept before.symbols)⟩ after = Diff.between before after :=
    Diff.between_congr rfl hagree fun _ => rfl
  have hpassed := Policy.passed_evaluate_iff before after mode failOnAdditions
  have hsurface : before.symbols.get? = old.surface := by
    rw [hold]
    exact funext old.get?_table
  have hsurface' : after.symbols.get? = new.surface := by
    rw [hnew]
    exact funext new.get?_table
  rw [hsurface, hsurface'] at hpassed
  refine ⟨before, after, _, hbefore, hafter, hstored, hdiff, ?_, ?_⟩
  · rw [hdiff]
  · rw [hdiff]
    exact hpassed

/-- A function that is public in the old graph and not in the new one breaks its clients. -/
theorem check_through_baseline_of_removal :
    let oldText : Text := "\x7b\"symbols\":[\x7b\"identifier\":\x7b\"precise\":\"s:f\"\x7d,"
      ++ "\"names\":\x7b\"title\":\"f\"\x7d,\"kind\":\x7b\"identifier\":\"func\"\x7d,"
      ++ "\"accessLevel\":\"public\"\x7d]\x7d"
    let newText : Text := "\x7b\"symbols\":[]\x7d"
    ∃ old new before after stored, Graph.parse oldText "old" = .ok old
      ∧ Graph.parse newText "new" = .ok new
      ∧ old.snapshot? "Mod" (.zero false) = some before
      ∧ new.snapshot? "Mod" (.zero false) = some after
      ∧ Baseline.decode (Utf8.decode (Baseline.encode before)) "stored" = .ok stored
      ∧ (Policy.evaluate (Diff.between stored after) .semver false).passed = false := by
  intro oldText newText
  have hparse : ∀ {text source : Text} {graph : Graph},
      (Graph.parse text source).toOption = some graph → Graph.parse text source = .ok graph := by
    intro text source graph h
    cases hp : Graph.parse text source with
    | error e => rw [hp] at h; cases h
    | ok g => rw [hp] at h; cases h; rfl
  have hold : Graph.parse oldText "old"
      = .ok ⟨[⟨"s:f", "f", "func", none, some "public", none⟩]⟩ := hparse (by decide +kernel)
  have hnew : Graph.parse newText "new" = .ok ⟨[]⟩ := hparse (by decide +kernel)
  obtain ⟨before, after, stored, hbefore, hafter, hstored, -, -, hpassed⟩ :=
    check_through_baseline oldText newText "old" "new" "Mod" "stored" (.zero false) (.zero false)
      .semver false _ _ hold hnew Timestamp.isValid_zero Timestamp.isValid_zero (by decide)
  refine ⟨_, _, before, after, stored, hold, hnew, hbefore, hafter, hstored, ?_⟩
  rw [← Bool.not_eq_true, hpassed]
  intro h
  have hlost := h "s:f" "func f" (by decide)
  revert hlost
  decide

end SurfaceGuard
