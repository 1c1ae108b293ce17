import SurfaceGuard.Proofs.Baseline.NormalForm
import SurfaceGuard.Proofs.Diff
import SurfaceGuard.Proofs.Guard.History

/-!
# The target that a baseline records

A baseline records the target it was made of, and a check reads it from the path of the target it
checks.  Nothing compares the two: what is recorded has no part in the verdict
(`check_congr_of_agree`), and no recorded target makes a check fail.  So a check compares a target
with a baseline of its own exactly if the file says so (`check_takes_recorded_target`), and
that is the case for a file that was stored under the path by the guard.
-/

open SurfaceGuard.Task

namespace SurfaceGuard

theorem Shape.text_eq_valid_iff {j? : Option Json} {s : Text} :
    Shape.text j? = .valid s ↔ j? = some (.string s) := by
  unfold Shape.text
  split
  · exact iff_of_false nofun nofun
  · next s' => exact ⟨fun h => by cases h; rfl, fun h => by cases h; rfl⟩
  · next j hj =>
    refine iff_of_false nofun ?_
    intro h
    exact hj s (Option.some.inj h)

/-- The value of a member, if the JSON value is an object that has it. -/
def Json.member? (name : Text) : Json → Option Json
  | .object members => Members.get? name members
  | _ => none

namespace Node

/-- A file that can be read is read as its content. -/
theorem content_of_reading {a : Attributes} {bytes content : Bytes}
    (h : (file a bytes).reading = .ok content) : bytes = content := by
  unfold reading at h
  split at h
  · exact Except.ok.inj h
  · cases h

/-- A device or a program that can be read is read as an empty text. -/
theorem content_of_reading_special {n : Node} {content : Bytes} (hn : n.isOrdinary = false)
    (h : n.reading = .ok content) : content = [] := by
  unfold reading at h
  split at h
  · rcases special_of_not_ordinary hn with ⟨a, _, rfl⟩ | ⟨a, _, rfl⟩
    · exact (Except.ok.inj h).symm
    · exact (Except.ok.inj h).symm
  · cases h

end Node

namespace Baseline

variable {dir target : Text} {w w' : World}

/-- A text that is decoded is JSON, and says of which target. -/
theorem recorded_of_decode {t source : Text} {s : Snapshot} (h : decode t source = .ok s) :
    ∃ json, Json.read? t = some json ∧ json.member? "target" = some (.string s.target) := by
  obtain ⟨json, hread, hshape⟩ := decode_eq_ok_iff.1 h
  obtain ⟨o, -, ho, htarget, -⟩ := shape_eq_valid_iff.1 hshape
  cases ho
  exact ⟨_, hread, Shape.text_eq_valid_iff.1 htarget⟩

/-- What is loaded is decoded from what the path of the baseline leads to. -/
theorem there_of_load {stored : Snapshot} (h : (load dir target w).1 = .ok stored) :
    ∃ n content, there? dir target w = some n ∧ n.reading = .ok content
      ∧ decode (Utf8.decode content) (path dir target) = .ok stored := by
  rw [load_eq] at h
  dsimp only at h
  split at h
  · cases h
  · next n hfound =>
    split at h
    · cases h
    · next content hreading =>
      exact ⟨n, content, (Option.filter_eq_some_iff.1 hfound).1, hreading, mapError_eq_ok_iff.1 h⟩

/-- What is loaded after the baseline of a target was stored is of that target. -/
theorem target_of_load_save {s stored : Snapshot} {file : Text}
    (h : save s dir w = (.ok file, w')) (hload : (load dir s.target w').1 = .ok stored) :
    stored.target = s.target := by
  obtain ⟨-, made, node, hstored⟩ := save_ok_cases h
  obtain ⟨n, content, hthere, hreading, hdecode⟩ := there_of_load hload
  have hface := face?_of_there hthere
  rw [hstored.stays.directory, hstored.face?, place, if_pos rfl] at hface
  cases hface
  rcases hstored.node with ⟨-, a, rfl⟩ | ⟨hspecial, -⟩
  · obtain rfl := Node.content_of_reading hreading
    rw [decode_decode_encode] at hdecode
    cases hdecode
    rfl
  · -- A device or a program is read as an empty text, which is no JSON.
    rw [Node.content_of_reading_special hspecial hreading] at hdecode
    cases hdecode

end Baseline

namespace Guard

variable {ctx : Context} {target : Text} {mode : Mode} {failOnAdditions : Bool} {w w' : World}

theorem target_of_produce {current : Snapshot} (h : produce ctx target w = (.ok current, w')) :
    current.target = target := by
  rcases produce_cases h with ⟨e, -, hr⟩ | ⟨file, u, entries, -, -, hr⟩
  · cases hr
  · rw [snapshotIn] at hr
    split at hr
    · cases hr
    · exact Graph.target_of_snapshot? (stamped_eq_ok_iff.1 hr.symm)

variable (mode failOnAdditions) in
/-- Two baselines with the same symbols give the same verdict, whatever else they record. -/
theorem check_congr_of_agree {u v : World} {stored other current : Snapshot}
    (hload : (Baseline.load ctx.config.baselineDir target w).1 = .ok stored)
    (hother : (Baseline.load ctx.config.baselineDir target w').1 = .ok other)
    (hagree : stored.symbols.Agree other.symbols)
    (hproduce : produce ctx target w = (.ok current, u))
    (hproduce' : produce ctx target w' = (.ok current, v)) :
    ∃ decision changes duration duration',
      (check ctx target mode failOnAdditions w).1 = .ok (.checked target decision changes duration)
        ∧ (check ctx target mode failOnAdditions w').1
          = .ok (.checked target decision changes duration') := by
  have hreads := (Baseline.reads_load ctx.config.baselineDir target).eq w
  have hreads' := (Baseline.reads_load ctx.config.baselineDir target).eq w'
  rw [hload] at hreads
  rw [hother] at hreads'
  have hbetween : Diff.between other current = Diff.between stored current :=
    Diff.between_congr rfl (fun id => (hagree id).symm) fun _ => rfl
  have hchanges : ∀ d : Diff, d.changes other current = d.changes stored current := by
    intro d
    refine List.map_congr_left fun id _ => ?_
    rw [hagree id]
  rw [check_of_produce hreads hproduce, check_of_produce hreads' hproduce', hbetween, hchanges]
  exact ⟨_, _, _, _, rfl, rfl⟩

/-- A check has a verdict exactly if a baseline can be loaded from the path of its target and a
snapshot can be made, whatever target the baseline records.  The snapshot is of the target that is
checked, and what it is compared with is of that target exactly if the text of the file says so; the
verdict is the same for all files with the same symbols.  What the guard stored as the baseline of a
target records that target. -/
theorem check_takes_recorded_target (ctx : Context) (target : Text) (mode : Mode)
    (failOnAdditions : Bool) :
    (∀ w, (∃ result, (check ctx target mode failOnAdditions w).1 = .ok result) ↔
      (∃ stored, (Baseline.load ctx.config.baselineDir target w).1 = .ok stored)
        ∧ ∃ current, (produce ctx target w).1 = .ok current)
    ∧ (∀ w result, (check ctx target mode failOnAdditions w).1 = .ok result →
      ∃ content json stored current duration,
        Baseline.held w.directory ctx.config.baselineDir w.files target = some content
        ∧ Json.read? (Utf8.decode content) = some json
        ∧ (Baseline.load ctx.config.baselineDir target w).1 = .ok stored
        ∧ (produce ctx target w).1 = .ok current
        ∧ result = .checked target
          (Policy.evaluate (Diff.between stored current) mode failOnAdditions)
          ((Diff.between stored current).changes stored current) duration
        ∧ current.target = target
        ∧ (stored.target = target ↔ json.member? "target" = some (.string target)))
    ∧ (∀ w w' stored other current,
      (Baseline.load ctx.config.baselineDir target w).1 = .ok stored →
      (Baseline.load ctx.config.baselineDir target w').1 = .ok other →
      stored.symbols.Agree other.symbols →
      (produce ctx target w).1 = .ok current → (produce ctx target w').1 = .ok current →
      ∃ decision changes duration duration',
        (check ctx target mode failOnAdditions w).1
            = .ok (.checked target decision changes duration)
          ∧ (check ctx target mode failOnAdditions w').1
            = .ok (.checked target decision changes duration'))
    ∧ ∀ s file w w' stored, Baseline.save s ctx.config.baselineDir w = (.ok file, w') →
      (Baseline.load ctx.config.baselineDir s.target w').1 = .ok stored →
      stored.target = s.target := by
  refine ⟨fun w => ⟨?_, ?_⟩, fun w result h => ?_, ?_, ?_⟩
  · rintro ⟨result, h⟩
    rcases check_cases (Prod.ext h rfl) with
      ⟨e, -, -, hr⟩ | ⟨stored, hload, ⟨e, -, hr⟩ | ⟨current, u, -, -, hproduce, -, -⟩⟩
    · cases hr
    · cases hr
    · exact ⟨⟨stored, hload⟩, current, by rw [hproduce]⟩
  · rintro ⟨⟨stored, hload⟩, current, hproduce⟩
    obtain ⟨decision, changes, duration, -, hend, -⟩ :=
      check_congr_of_agree mode failOnAdditions hload hload (fun _ => rfl) (Prod.ext hproduce rfl)
        (Prod.ext hproduce rfl)
    exact ⟨_, hend⟩
  · rcases check_cases (Prod.ext h rfl) with
      ⟨e, -, -, hr⟩ | ⟨stored, hload, ⟨e, -, hr⟩ | ⟨current, u, -, duration, hproduce, -, hr⟩⟩
    · cases hr
    · cases hr
    · obtain ⟨content, hheld, hdecode⟩ := held_of_load hload
      obtain ⟨json, hread, hrecorded⟩ := Baseline.recorded_of_decode hdecode
      refine ⟨content, json, stored, current, duration, hheld, hread, hload, by rw [hproduce],
        Except.ok.inj hr, target_of_produce hproduce, ?_⟩
      rw [hrecorded, Option.some.injEq, Json.string.injEq]
  · intro w w' stored other current hload hother hagree hproduce hproduce'
    exact check_congr_of_agree mode failOnAdditions hload hother hagree (Prod.ext hproduce rfl)
      (Prod.ext hproduce' rfl)
  · intro s file w w' stored hsave hload
    exact Baseline.target_of_load_save hsave hload

/-- A baseline of another target under the path gives the verdict that one of the target itself
with the same symbols gives, until the baseline is stored again. -/
theorem check_takes_recorded_target_of_copy :
    let content (recorded : Text) : Bytes := Baseline.encode ⟨recorded, "t", .empty⟩
    let dir (recorded : Text) : Node :=
      .directory ⟨1, 0o755, 0⟩ [("A.json", .file ⟨2, 0o644, 0⟩ (content recorded))]
    let graph : Node := .file ⟨3, 0o644, 0⟩ (Utf8.encode "\x7b\"symbols\":[]\x7d")
    let w (recorded : Text) : World :=
      .quiet ⟨.directory ⟨0, 0o755, 0⟩ [("d", dir recorded), ("g", graph)], 4⟩
    let ctx : Context :=
      { config := ⟨["A"], .semver, "d", "out", true, ["true"], "graphs", .zero false⟩
        exporter := fun _ w => (.ok "g", w) }
    (∃ decision changes duration duration',
      (check ctx "A" .strict true (w "A")).1 = .ok (.checked "A" decision changes duration)
        ∧ (check ctx "A" .strict true (w "B")).1 = .ok (.checked "A" decision changes duration'))
    ∧ (∃ result stored, (check ctx "A" .strict true (w "B")).1 = .ok result
      ∧ (Baseline.load "d" "A" (w "B")).1 = .ok stored ∧ stored.target ≠ "A")
    ∧ ∃ file w' stored, Baseline.save ⟨"A", "t", .empty⟩ "d" (w "B") = (.ok file, w')
      ∧ (Baseline.load "d" "A" w').1 = .ok stored ∧ stored.target = "A" := by
  intro content dir graph w ctx
  let s (recorded : Text) : Snapshot := ⟨recorded, "t", .empty⟩
  have hload : ∀ recorded ∈ ["A", "B"],
      (Baseline.load "d" "A" (w recorded)).1.toOption = some (s recorded) := by decide +kernel
  have hproduce : ∀ recorded ∈ ["A", "B"],
      (produce ctx "A" (w recorded)).1.toOption
        = some ⟨"A", "1970-01-01T00:00:00.000Z", .empty⟩ := by
    decide +kernel
  have hA := eq_ok_of_toOption (hload "A" (by decide))
  have hB := eq_ok_of_toOption (hload "B" (by decide))
  have hcurrent := eq_ok_of_toOption (hproduce "A" (by decide))
  have hcurrent' := eq_ok_of_toOption (hproduce "B" (by decide))
  have hsave := eq_ok_getD (show (Baseline.save (s "A") "d" (w "B")).1.toOption.isSome = true by
    decide +kernel) []
  have hagain := eq_ok_getD (show (Baseline.load "d" "A"
    (Baseline.save (s "A") "d" (w "B")).2).1.toOption.isSome = true by decide +kernel) (s "A")
  obtain ⟨hends, hcompared, hsame, hown⟩ := check_takes_recorded_target ctx "A" .strict true
  obtain ⟨result, hresult⟩ := (hends (w "B")).2 ⟨⟨_, hB⟩, _, hcurrent'⟩
  refine ⟨hsame _ _ _ _ _ hA hB (fun _ => rfl) hcurrent hcurrent', ⟨result, s "B", hresult, hB, ?_⟩,
    _, _, _, Prod.ext hsave rfl, hagain, hown (s "A") _ _ _ _ (Prod.ext hsave rfl) hagain⟩
  decide

/-- A check compares a target with the baseline of another one, and passes. -/
theorem check_judges_other_target :
    let content : Bytes := Baseline.encode ⟨"B", "t", .empty⟩
    let dir : Node := .directory ⟨1, 0o755, 0⟩ [("A.json", .file ⟨2, 0o644, 0⟩ content)]
    let graph : Node := .file ⟨3, 0o644, 0⟩ (Utf8.encode "\x7b\"symbols\":[]\x7d")
    let w : World := .quiet ⟨.directory ⟨0, 0o755, 0⟩ [("d", dir), ("g", graph)], 4⟩
    let ctx : Context :=
      { config := ⟨["A"], .semver, "d", "out", false, ["true"], "graphs", .zero false⟩
        exporter := fun _ w => (.ok "g", w) }
    (check ctx "A" .semver false w).1.toOption.any TargetResult.isPassing = true
      ∧ (Baseline.load "d" "A" w).1.toOption.map Snapshot.target = some "B" := by
  decide +kernel

end Guard

end SurfaceGuard
