import SurfaceGuard.Proofs.Guard.Plan

/-!
# The order of the targets

Neither the order of the targets nor the answer of the exporter for one of them matters to the
others: the results are those of the targets, and the baseline of a target is made by the targets
with its bytes (`Plan.targets_independent`).

The order matters to targets that differ and have the same bytes.  They have one baseline, and the
last of them makes it (`Plan.baselines_swapped`).
-/

open SurfaceGuard.Task

namespace SurfaceGuard.Guard

open Baseline

namespace Plan

variable {p : Plan} {target : Text}

/-! ## Other targets, other answers -/

variable (p) in
/-- The plan with other targets. -/
def withTargets (targets : List Text) : Plan :=
  { p with context := { p.context with config := { p.context.config with targets } } }

variable (p) in
/-- The plan with an exporter that answers otherwise. -/
def withAnswers (exporter : Exporter) (answer : Text → Except Thrown (Text × Text)) : Plan :=
  { p with context := { p.context with exporter }, answer }

variable (p) in
/-- The run succeeds, and its targets have these results. -/
def Returns (result : Text → TargetResult) (r : RunResult) : Prop :=
  p.run.1 = .ok r ∧ r.results = p.targets.map result

variable (p) in
/-- No two different targets of the run have the bytes of this one. -/
def Sole (target : Text) : Prop :=
  ∀ t ∈ p.targets, ∀ u ∈ p.targets, Utf8.encode t = Utf8.encode target →
    Utf8.encode u = Utf8.encode target → t = u

/-- The order of the targets does not matter to a slot that only one of them changes. -/
theorem slotAfter_of_perm {targets' : List Text} (hperm : targets'.Perm p.targets)
    (hsole : p.options.update = true → p.Sole target) :
    p.slotAfter targets' target = p.slotAfter p.targets target := by
  unfold slotAfter
  refine ((hperm.symm.filter _).foldl_eq' (fun t ht u hu x => ?_) _).symm
  obtain ⟨ht, htarget⟩ := List.mem_filter.1 ht
  obtain ⟨hu, hutarget⟩ := List.mem_filter.1 hu
  cases hupdate : p.options.update with
  | true =>
    -- Two targets that store different snapshots in one slot do not commute.
    rw [hsole hupdate t ht u hu (of_decide_eq_true htarget) (of_decide_eq_true hutarget)]
  | false => simp only [effect_of_check hupdate]

section Answers

variable {exporter : Exporter} {answer : Text → Except Thrown (Text × Text)} {changed : Text}

theorem snapshot_withAnswers (h : answer target = p.answer target) :
    (p.withAnswers exporter answer).snapshot target = p.snapshot target := by
  unfold snapshot
  change p.snapshotFrom target (answer target) = _
  rw [h]

/-- A target with the same answer has the same result. -/
theorem result_withAnswers (h : answer target = p.answer target) :
    (p.withAnswers exporter answer).result target = p.result target := by
  unfold result outcome
  rw [snapshot_withAnswers h]
  rfl

theorem effect_withAnswers (h : answer target = p.answer target) (x : Slot) :
    (p.withAnswers exporter answer).effect target x = p.effect target x := by
  unfold effect
  rw [snapshot_withAnswers h]
  rfl

/-- The answer for a target does not matter to a slot with other bytes. -/
theorem slotAfter_withAnswers (hanswer : ∀ t, t ≠ changed → answer t = p.answer t)
    (hother : Utf8.encode target ≠ Utf8.encode changed) (done : List Text) :
    (p.withAnswers exporter answer).slotAfter done target = p.slotAfter done target := by
  unfold slotAfter
  refine List.foldl_ext _ _ _ fun x t ht => effect_withAnswers (hanswer t ?_) x
  rintro rfl
  exact hother (of_decide_eq_true (List.mem_filter.1 ht).2).symm

end Answers

/-! ## Exporters that leave the world alone -/

/-- The exporter that gives these answers and leaves the world alone. -/
def still (answer : Text → Except Thrown (Text × Text)) : Exporter :=
  fun target w => ((answer target).map Prod.fst, w)

/-- In the turn the answer of the exporter can be read, and the snapshot can be stored. -/
def isSettled (answer : Text → Except Thrown (Text × Text)) (t : Turn) : Bool :=
  (match answer t.target with
    | .error _ => true
    | .ok (file, text) => decide ((reading t.opened file).toOption = some text))
  && (!t.isUpdate || match produce t.context t.target t.opened with
    | (.error _, _) => true
    | (.ok s, u) => (Baseline.save s t.context.config.baselineDir u).1.toOption.isSome)

/-- The turn of an exporter that leaves the world alone is regular if it is settled. -/
theorem regular_of_isSettled {t : Turn} {answer : Text → Except Thrown (Text × Text)}
    (hstill : t.context.exporter = still answer) (h : isSettled answer t = true) :
    t.Regular answer := by
  obtain ⟨hreadable, hstored⟩ := Bool.and_eq_true_iff.1 h
  refine ⟨?_, ?_, fun hupdate s u hproduce => ?_⟩
  · rw [hstill, still]
    cases hanswer : answer t.target with
    | error e => rfl
    | ok graph =>
      rw [hanswer] at hreadable
      have hread : (reading t.opened graph.1).toOption = some graph.2 := of_decide_eq_true hreadable
      refine ⟨rfl, ?_⟩
      rw [eq_ok_getD (Option.isSome_of_eq_some hread) [], hread]
      rfl
  · rw [hstill]
    exact .refl _ _
  · rw [hupdate, hproduce] at hstored
    exact ⟨_, _, Prod.ext (eq_ok_getD hstored []) rfl⟩

/-- A plan fits whose exporter leaves the world alone if all its turns are settled. -/
theorem fits_of_isSettled (hstill : p.context.exporter = still p.answer)
    (hnames : ∀ target ∈ p.targets, Path.separator ∉ target)
    (hanswers : ∀ target ∈ p.targets, ∀ e, p.answer target = .error e → ¬e.Textless)
    (h : (turns p.context p.options p.world).all (isSettled p.answer) = true) : p.Fits := by
  refine ⟨hnames, hanswers, fun t ht => regular_of_isSettled ?_ (List.all_eq_true.1 h t ht)⟩
  have hcontext : t.context = p.context := congrArg Turn.context (settings_of_mem_turnsFrom ht)
  rw [hcontext, hstill]

/-- The update of some targets whose graphs are in one file. -/
def updateOf (targets : List Text) : Plan :=
  let config : Config := ⟨targets, .semver, "d", "out", false, ["true"], "graphs", .zero false⟩
  let text : Text := "\x7b\"symbols\":[]\x7d"
  let files : Node := .directory ⟨0, 0o755, 0⟩ [("g", .file ⟨1, 0o644, 0⟩ (Utf8.encode text))]
  let answer : Text → Except Thrown (Text × Text) := fun _ => .ok ("g", text)
  ⟨{ config, exporter := still answer }, ⟨true, none, none⟩, .quiet ⟨files, 2⟩, answer⟩

theorem fits_updateOf {targets : List Text}
    (hnames : ∀ target ∈ targets, Path.separator ∉ target)
    (h : (turns (updateOf targets).context ⟨true, none, none⟩ (updateOf targets).world).all
      (isSettled (updateOf targets).answer) = true) : (updateOf targets).Fits :=
  fits_of_isSettled rfl hnames (fun _ _ _ he => by cases he) h

/-! ## The targets are independent -/

/-- Two runs end alike: both succeed with the results given for their targets or both fail, and the
baselines of some targets are the same, byte for byte. -/
structure Alike (p q : Plan) (result result' : Text → TargetResult) (IsSame : Text → Prop) :
    Prop where
  returns : Timestamp.IsValid p.world.clock →
    ∃ r r', p.Returns result r ∧ q.Returns result' r'
  fails : ¬Timestamp.IsValid p.world.clock → ∃ e, p.run.1 = .error e ∧ q.run.1 = .error e
  baselines : ∀ target, Path.separator ∉ target → IsSame target →
    held p.world.directory p.directory q.run.2.files target
      = held p.world.directory p.directory p.run.2.files target

theorem returns_of_fits (hp : p.Fits) (hclock : Timestamp.IsValid p.world.clock) :
    ∃ r, p.Returns p.result r := by
  obtain ⟨generatedAt, htext⟩ := Timestamp.exists_text?_iff.2 hclock
  obtain ⟨hended, -⟩ := run_of_fits hp
  rw [ended, htext] at hended
  exact ⟨_, hended, rfl⟩

theorem fails_of_fits (hp : p.Fits) (hclock : ¬Timestamp.IsValid p.world.clock) :
    p.run.1 = .error (.error Timestamp.invalid) := by
  obtain ⟨hended, -⟩ := run_of_fits hp
  rw [hended, ended]
  cases htext : Timestamp.text? p.world.clock with
  | none => rfl
  | some generatedAt => exact absurd (Timestamp.exists_text?_iff.1 ⟨generatedAt, htext⟩) hclock

theorem passed_of_fits (hp : p.Fits) {r : RunResult} (h : p.run.1 = .ok r) :
    r.passed = (p.targets.map p.result).all TargetResult.isPassing := by
  obtain ⟨hended, -⟩ := run_of_fits hp
  rw [hended, ended] at h
  split at h
  · cases h
  · cases h
    rfl

/-- Two runs in one world end alike where their targets make the same of the slots. -/
theorem alike_of_fits {q : Plan} {IsSame : Text → Prop} (hp : p.Fits) (hq : q.Fits)
    (hworld : q.world = p.world) (hdirectory : q.directory = p.directory)
    (hslots : ∀ target, IsSame target →
      q.slotAfter q.targets target = p.slotAfter p.targets target) :
    p.Alike q p.result q.result IsSame := by
  refine ⟨fun hclock => ?_, fun hclock => ?_, fun target htarget hsame => ?_⟩
  · obtain ⟨r, hr⟩ := returns_of_fits hp hclock
    obtain ⟨r', hr'⟩ := returns_of_fits hq (hworld ▸ hclock)
    exact ⟨r, r', hr, hr'⟩
  · exact ⟨_, fails_of_fits hp hclock, fails_of_fits hq (hworld ▸ hclock)⟩
  · have hheld := held_of_fits hq htarget
    rw [hworld, hdirectory] at hheld
    rw [hheld, held_of_fits hp htarget, hslots target hsame]

/-- With the targets in another order a run has the same results, in that order, and passes
exactly if it did; the baseline of a target is the same unless several different targets of an
update have its bytes.

With another answer for one target a run has the same results for all other targets, and the
baselines of all targets with other bytes are the same. -/
theorem targets_independent (p : Plan) (hp : p.Fits) :
    (∀ targets' : List Text, targets'.Perm p.targets → (p.withTargets targets').Fits →
      p.Alike (p.withTargets targets') p.result p.result
        (fun target => p.options.update = true → p.Sole target)
      ∧ ∀ r r', p.run.1 = .ok r → (p.withTargets targets').run.1 = .ok r' → r'.passed = r.passed)
    ∧ ∀ changed exporter answer, (∀ target, target ≠ changed → answer target = p.answer target) →
      (p.withAnswers exporter answer).Fits →
      p.Alike (p.withAnswers exporter answer) p.result (p.withAnswers exporter answer).result
        (fun target => Utf8.encode target ≠ Utf8.encode changed)
      ∧ ∀ target, target ≠ changed →
        (p.withAnswers exporter answer).result target = p.result target := by
  refine ⟨fun targets' hperm hp' => ⟨?_, fun r r' hr hr' => ?_⟩,
    fun changed exporter answer hanswer hp' => ⟨?_, fun target htarget => ?_⟩⟩
  · exact alike_of_fits hp hp' rfl rfl fun target hsole => slotAfter_of_perm hperm hsole
  · rw [passed_of_fits hp hr, passed_of_fits hp' hr']
    exact (hperm.map p.result).all_eq
  · exact alike_of_fits hp hp' rfl rfl fun target hother =>
      slotAfter_withAnswers hanswer hother p.targets
  · exact result_withAnswers (hanswer target htarget)

/-- Two targets are updated in both orders, and once more when the exporter fails for the first. -/
theorem targets_independent_of_update :
    let p : Plan := updateOf ["A", "B"]
    let answer : Text → Except Thrown (Text × Text) := fun target =>
      if target = "A" then .error (.error "no graph") else p.answer target
    let q : Plan := p.withTargets ["B", "A"]
    let q' : Plan := p.withAnswers (still answer) answer
    p.Fits ∧ (q.targets.Perm p.targets ∧ q.Fits ∧ p.Sole "A" ∧ p.Sole "B")
      ∧ ((∀ target : Text, target ≠ "A" → answer target = p.answer target) ∧ q'.Fits)
      ∧ p.Alike q p.result p.result (fun target => p.options.update = true → p.Sole target)
      ∧ p.Alike q' p.result q'.result (fun target => Utf8.encode target ≠ Utf8.encode "A")
      ∧ q'.result "B" = p.result "B" := by
  intro p answer q q'
  have hp : p.Fits := fits_updateOf (by decide +kernel) (by decide +kernel)
  have hq : q.Fits := fits_updateOf (by decide +kernel) (by decide +kernel)
  have hanswer : ∀ target : Text, target ≠ "A" → answer target = p.answer target :=
    fun target htarget => if_neg htarget
  have hq' : q'.Fits := by
    refine fits_of_isSettled rfl (by decide +kernel) (fun target _ e he => ?_) (by decide +kernel)
    by_cases htarget : target = "A"
    · rw [show q'.answer target = .error (.error "no graph") from if_pos htarget] at he
      cases he
      exact id
    · rw [show q'.answer target = p.answer target from if_neg htarget] at he
      cases he
  have hsole : ∀ target ∈ (["A", "B"] : List Text), p.Sole target := by
    unfold Sole
    decide +kernel
  obtain ⟨horder, hanswers⟩ := targets_independent p hp
  obtain ⟨halike, -⟩ := horder _ (.swap ..) hq
  obtain ⟨halike', hresults⟩ := hanswers "A" (still answer) answer hanswer hq'
  exact ⟨hp, ⟨.swap .., hq, hsole _ (by decide), hsole _ (by decide)⟩, ⟨hanswer, hq'⟩, halike,
    halike', hresults "B" (by decide)⟩

/-- Targets that differ in a lone surrogate have one baseline, and the last of them makes it. -/
theorem baselines_swapped :
    let p : Plan := updateOf [[0xD800], [0xD801]]
    let q : Plan := p.withTargets [[0xD801], [0xD800]]
    p.Fits ∧ q.Fits ∧ q.targets.Perm p.targets ∧ Path.separator ∉ ([0xD800] : Text)
      ∧ held p.world.directory p.directory q.run.2.files [0xD800]
        ≠ held p.world.directory p.directory p.run.2.files [0xD800] := by
  refine ⟨fits_updateOf ?_ ?_, fits_updateOf ?_ ?_, .swap .., ?_, ?_⟩ <;> decide +kernel

end Plan

end SurfaceGuard.Guard
