import SurfaceGuard.Proofs.Guard.Turn

/-!
# The failure of one target

What the exporter throws for a target becomes the result of that target, and the targets
after it have their turns all the same.  The exception is a value that has no text: its
description fails, and with it the whole run.
-/

open SurfaceGuard.Task

namespace SurfaceGuard.Guard

namespace Turn

variable (t : Turn)

/-- Does the turn come to the export?  A check reads the baseline first. -/
def reachesExport : Bool :=
  t.isUpdate || (Baseline.load t.context.config.baselineDir t.target t.opened).1.isOk

/-- What the exporter throws in the turn, if the turn comes to the export. -/
def thrown? : Option Thrown :=
  if t.reachesExport then
    match (t.context.exporter t.target t.opened).1 with
    | .ok _ => none
    | .error e => some e
  else none

variable {t} {e : Thrown}

/-- What the exporter throws ends the work of the turn. -/
theorem work_of_thrown (h : t.thrown? = some e) : ∃ w, t.work = (.error e, w) := by
  rw [thrown?] at h
  split at h
  case isFalse => cases h
  case isTrue hreaches =>
  obtain ⟨r, w, hexport⟩ : ∃ r w, t.context.exporter t.target t.opened = (r, w) := ⟨_, _, rfl⟩
  rw [hexport] at h
  cases r with
  | ok file => cases h
  | error e' =>
    obtain rfl : e' = e := Option.some.inj h
    have hproduce := produce_of_exporter_error hexport
    refine ⟨w, ?_⟩
    cases hupdate : t.isUpdate with
    | true =>
      rw [work_of_update hupdate]
      exact update_of_produce_error hproduce
    | false =>
      rw [reachesExport, hupdate, Bool.false_or] at hreaches
      rw [work_of_check hupdate]
      have hload := (Baseline.reads_load t.context.config.baselineDir t.target).eq t.opened
      cases hstored : (Baseline.load t.context.config.baselineDir t.target t.opened).1 with
      | error e =>
        rw [hstored] at hreaches
        cases hreaches
      | ok stored =>
        rw [hstored] at hload
        exact check_of_produce_error hload hproduce

/-- A snapshot is only without a description of its failure if the exporter throws one. -/
theorem exporter_of_produce_textless {ctx : Context} {target : Text} {w w' : World}
    (h : produce ctx target w = (.error e, w')) (he : e.Textless) :
    ctx.exporter target w = (.error e, w') := by
  rcases produce_cases h with ⟨_, hexport, hr⟩ | ⟨file, u, entries, -, -, hr⟩
  · cases hr
    exact hexport
  · exact absurd he (not_textless_of_snapshotIn hr.symm)

/-- Only the exporter ends the work of a turn with something that has no description. -/
theorem thrown_of_work_textless {w : World} (h : t.work = (.error e, w)) (he : e.Textless) :
    t.thrown? = some e := by
  have hthrown : t.reachesExport = true → ∀ u, produce t.context t.target t.opened = (.error e, u) →
      t.thrown? = some e := by
    intro hreaches u hproduce
    rw [thrown?, if_pos hreaches, exporter_of_produce_textless hproduce he]
  cases hupdate : t.isUpdate with
  | true =>
    have hreaches : t.reachesExport = true := by rw [reachesExport, hupdate, Bool.true_or]
    rw [work_of_update hupdate] at h
    rcases update_cases h with
      ⟨_, hproduce, hr⟩ | ⟨s, u, -, ⟨_, hsave, hr⟩ | ⟨_, _, _, _, -, -, hr⟩⟩
    · cases hr
      exact hthrown hreaches _ hproduce
    · cases hr
      exact absurd he (Baseline.reports_save s _ u e _ hsave)
    · cases hr
  | false =>
    rw [work_of_check hupdate] at h
    rcases check_cases h with
      ⟨_, hload, -, hr⟩ | ⟨stored, hload, ⟨_, hproduce, hr⟩ | ⟨_, _, _, _, -, -, hr⟩⟩
    · cases hr
      exact absurd he (Baseline.reports_load _ _ t.opened e _ (Prod.ext hload rfl))
    · cases hr
      refine hthrown ?_ _ hproduce
      rw [reachesExport, hload]
      exact Bool.or_true _
    · cases hr

/-- A turn fails exactly if the exporter throws something without a description. -/
theorem run_error_iff : (∃ e', t.run.1 = .error e') ↔ ∃ e, t.thrown? = some e ∧ e.Textless := by
  constructor
  · rintro ⟨e', hfailed⟩
    rcases t.run_cases with ⟨result, w, -, hrun⟩ | ⟨e, w, entries, hwork, -, hended⟩
    · rw [hrun] at hfailed
      cases hfailed
    · rcases hended with ⟨info, duration, -, hrun⟩ | ⟨he, -⟩
      · rw [hrun] at hfailed
        cases hfailed
      · exact ⟨e, thrown_of_work_textless hwork he, he⟩
  · rintro ⟨e, hthrown, he⟩
    obtain ⟨w, hwork⟩ := work_of_thrown hthrown
    cases hdescribe : e.describe with
    | ok info => exact absurd he (Thrown.describe_ok_iff.1 ⟨info, hdescribe⟩)
    | error noText => exact ⟨_, by rw [Turn.run_of_textless hwork hdescribe]⟩

theorem not_textless_of_run_ok {result : TargetResult} (h : t.run.1 = .ok result)
    (hthrown : t.thrown? = some e) : ¬e.Textless := by
  intro he
  obtain ⟨e', hfailed⟩ := run_error_iff.2 ⟨e, hthrown, he⟩
  rw [h] at hfailed
  cases hfailed

/-- What the exporter throws is described in the result of the turn. -/
theorem result_of_thrown {result : TargetResult} (h : t.run.1 = .ok result)
    (hthrown : t.thrown? = some e) :
    ∃ info duration, e.describe = .ok info ∧ result = .failed t.target info duration := by
  obtain ⟨info, hinfo⟩ := Thrown.describe_ok_iff.2 (not_textless_of_run_ok h hthrown)
  obtain ⟨w, hwork⟩ := work_of_thrown hthrown
  rw [Turn.run_of_error hwork hinfo] at h
  cases h
  exact ⟨info, _, hinfo, rfl⟩

end Turn

variable {ctx : Context} {options : RunOptions} {w : World}

theorem exists_of_forall₂ {α β : Type} {R : α → β → Prop} {as : List α} {bs : List β} {a : α}
    (h : List.Forall₂ R as bs) (ha : a ∈ as) : ∃ b ∈ bs, R a b := by
  induction h with
  | nil => cases ha
  | @cons a' b as bs hab _ ih =>
    rcases List.mem_cons.1 ha with rfl | ha
    · exact ⟨b, List.mem_cons_self, hab⟩
    · obtain ⟨c, hc, hac⟩ := ih ha
      exact ⟨c, List.mem_cons_of_mem _ hc, hac⟩

/-! ## Whole runs -/

/-- A run succeeds if and only if its exporter throws nothing without a description and the time at
its end has a text. -/
theorem run_ok_iff : (∃ r, (run ctx options w).1 = .ok r) ↔
    (∀ t ∈ turns ctx options w, ∀ e, t.thrown? = some e → ¬e.Textless)
      ∧ Timestamp.IsValid (run ctx options w).2.clock := by
  rcases runAll_cases ctx options w with
    ⟨results, w', hall, -, hresults⟩ | ⟨e, w', hall, before, t, hturns, -, hfailed⟩
  · have hthrown : ∀ t ∈ turns ctx options w, ∀ e, t.thrown? = some e → ¬e.Textless := by
      intro t ht e hthrown he
      obtain ⟨result, -, hresult⟩ := exists_of_forall₂ hresults ht
      exact Turn.not_textless_of_run_ok hresult hthrown he
    cases htext : Timestamp.text? w'.clock with
    | some generatedAt =>
      rw [run_of_ok hall htext]
      exact ⟨fun _ => ⟨hthrown, Timestamp.exists_text?_iff.1 ⟨_, htext⟩⟩, fun _ => ⟨_, rfl⟩⟩
    | none =>
      rw [run_of_no_text hall htext]
      refine ⟨fun ⟨_, h⟩ => (nomatch h), fun ⟨_, hvalid⟩ => ?_⟩
      obtain ⟨text, h⟩ := Timestamp.exists_text?_iff.2 hvalid
      rw [htext] at h
      cases h
  · rw [run_of_error hall]
    refine ⟨fun ⟨_, h⟩ => (nomatch h), fun ⟨hthrown, _⟩ => ?_⟩
    obtain ⟨e, he, htextless⟩ := Turn.run_error_iff.1 ⟨_, hfailed⟩
    have ht : t ∈ turns ctx options w := hturns ▸ List.mem_concat_self
    exact absurd htextless (hthrown t ht e he)

/-- A run that succeeds has one result for each target, and what the exporter threw is described in
the result of its target. -/
theorem results_of_run_ok {r : RunResult} (h : (run ctx options w).1 = .ok r) :
    r.results.map TargetResult.target = ctx.config.targets
      ∧ List.Forall₂ (fun t result => ∀ e, t.thrown? = some e → ∃ info duration,
          e.describe = .ok info ∧ result = .failed t.target info duration)
        (turns ctx options w) r.results
      ∧ r.passed = r.results.all TargetResult.isPassing := by
  obtain ⟨-, hpassed, -, htargets, hresults⟩ := cases_of_run_ok h
  refine ⟨?_, hresults.imp fun t result hresult e hthrown => ?_, hpassed⟩
  · rw [← htargets, eq_comm, ← List.forall₂_eq_eq_eq, List.forall₂_map_left_iff,
      List.forall₂_map_right_iff]
    exact hresults.imp fun t _ h => (Turn.target_of_run h).symm
  · exact Turn.result_of_thrown hresult hthrown

/-- A value without a text ends the run at its turn. -/
theorem run_of_thrown_textless {t : Turn} {e : Thrown} {noText : NoText}
    (ht : t ∈ turns ctx options w) (hthrown : t.thrown? = some e)
    (hdescribe : e.describe = .error noText) :
    (turns ctx options w).getLast? = some t
      ∧ (run ctx options w).1 = .error (.error noText.message) := by
  obtain ⟨u, hwork⟩ := Turn.work_of_thrown hthrown
  have hrun := Turn.run_of_textless hwork hdescribe
  rcases runAll_cases ctx options w with
    ⟨results, w', hall, -, hresults⟩ | ⟨e', w', hall, before, last, hturns, hbefore, hfailed⟩
  · obtain ⟨result, -, hresult⟩ := exists_of_forall₂ hresults ht
    rw [hrun] at hresult
    cases hresult
  · rw [hturns, List.mem_append, List.mem_singleton] at ht
    rcases ht with ht | rfl
    · obtain ⟨result, hresult⟩ := hbefore t ht
      rw [hrun] at hresult
      cases hresult
    · rw [hrun] at hfailed
      cases hfailed
      rw [hturns, run_of_error hall]
      exact ⟨List.getLast?_concat, rfl⟩

/-- Whatever the exporter throws, it has a description unless it is a value without a text.  A run
succeeds if all that its exporter throws has a description and its clock shows a time that has a
text; it then has one result for each target, in order, and the result of a target whose export
threw is the description of what was thrown.  A value without a text ends the run at its turn.

What may be thrown is an error of the guard or of the host, an error with a message, or a `Value`:
JSON values and foreign ones, nested in lists and objects in any way.  The only function among them
returns nothing, so of the methods that an object may have of its own it has those alone. -/
theorem run_isolates_failures (ctx : Context) (options : RunOptions) (w : World) :
    (∀ e : Thrown, (∃ info, e.describe = .ok info) ↔ ¬e.Textless)
    ∧ ((∃ r, (run ctx options w).1 = .ok r) ↔
        (∀ t ∈ turns ctx options w, ∀ e, t.thrown? = some e → ¬e.Textless)
          ∧ Timestamp.IsValid (run ctx options w).2.clock)
    ∧ (∀ r, (run ctx options w).1 = .ok r →
        r.results.map TargetResult.target = ctx.config.targets
        ∧ List.Forall₂ (fun t result => ∀ e, t.thrown? = some e → ∃ info duration,
            e.describe = .ok info ∧ result = .failed t.target info duration)
          (turns ctx options w) r.results
        ∧ ((∃ t ∈ turns ctx options w, t.thrown?.isSome = true) → r.passed = false))
    ∧ ∀ t ∈ turns ctx options w, ∀ e noText, t.thrown? = some e → e.describe = .error noText →
        (turns ctx options w).getLast? = some t
        ∧ (run ctx options w).1 = .error (.error noText.message) := by
  refine ⟨fun e => Thrown.describe_ok_iff, run_ok_iff, fun r hr => ?_,
    fun t ht e noText => run_of_thrown_textless ht⟩
  obtain ⟨htargets, hresults, hpassed⟩ := results_of_run_ok hr
  refine ⟨htargets, hresults, fun ⟨t, ht, hthrown⟩ => ?_⟩
  obtain ⟨e, hthrown⟩ := Option.isSome_iff_exists.1 hthrown
  obtain ⟨result, hresult, hof⟩ := exists_of_forall₂ hresults ht
  obtain ⟨info, duration, -, rfl⟩ := hof e hthrown
  rw [hpassed, List.all_eq_false]
  exact ⟨_, hresult, Bool.false_ne_true⟩

/-- An object without ancestry that is thrown for the first of two targets ends the run, and the
other target has no turn. -/
theorem run_ends_of_object_without_ancestry :
    let ctx : Context :=
      { config := ⟨["A", "B"], .semver, "base", "out", false, ["true"], "graphs", .zero false⟩
        exporter := fun target =>
          fail (.value (if target = "A" then .object .none [] else .string "unavailable")) }
    let options : RunOptions := ⟨true, none, none⟩
    (run ctx options (.quiet .empty)).1 = .error (.error NoText.objectToPrimitive.message)
      ∧ (turns ctx options (.quiet .empty)).map Turn.target = [("A" : Text)] := by
  intro ctx options
  let t : Turn := ⟨ctx, true, .semver, false, "A", .quiet .empty⟩
  have hwork : t.work = (.error (.value (.object .none [])), t.opened) := rfl
  have hdescribe : (Thrown.value (.object .none [])).describe = .error .objectToPrimitive := by
    simp [Thrown.describe, Value.display, Value.displayObject, Value.hasMethod, Members.get?,
      Except.map]
  have hrun := Turn.run_of_textless hwork hdescribe
  refine ⟨?_, ?_⟩
  · have hall : runAll ctx options (.quiet .empty) = _ := bind_of_error hrun
    rw [run_of_error hall]
  · have hturns : turns ctx options (.quiet .empty) = [t] := turnsFrom_of_error hrun
    rw [hturns]
    rfl

end SurfaceGuard.Guard
