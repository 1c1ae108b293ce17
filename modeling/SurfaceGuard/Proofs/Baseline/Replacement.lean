import SurfaceGuard.Proofs.Baseline.Bytes
import SurfaceGuard.Proofs.Baseline.Store

/-!
# Baselines are replaced as a whole

Whatever processes store snapshots in one directory, and whatever fails in that, each
baseline is at any time what it was at first or the whole content of one snapshot.  It is
one for a target with the same bytes: the names of a file system are byte strings, in which
a lone surrogate is the replacement character, so only texts with lone surrogates can meet
in one file.
-/

namespace SurfaceGuard.Baseline

open Writers Relation

/-- In every state of a run, each baseline is what it was at first or the whole content of a
snapshot that was stored for the file; only a call that succeeds changes one; and no temporary file
is left when all calls are over.  Storing a baseline is going through these steps. -/
theorem baselines_stay_whole (base : Place) (dir : Text) (first : FileTree)
    (hfirst : NoDevices base dir first) :
    (∀ st, Reachable base dir first st →
      (∀ target, Path.separator ∉ target →
        held base dir st.files target = held base dir first target
          ∨ ∃ c ∈ st.done, Utf8.encode c.snapshot.target = Utf8.encode target
            ∧ (Text.isWellFormed c.snapshot.target = true → Text.isWellFormed target = true →
              c.snapshot.target = target)
            ∧ held base dir st.files target = some (encode c.snapshot))
      ∧ (∀ st' target, Writers.Step base dir st st' → Path.separator ∉ target →
        held base dir st'.files target ≠ held base dir st.files target →
          ∃ c, st.At c (.writing (some (encode c.snapshot).length)) ∧ st'.At c .returned)
      ∧ ((∀ c stage, st.At c stage → stage.isOver = true) →
        ∀ c ∈ st.opened,
          st.files.content? (FileTree.destination base (c.temporary dir)) = none))
    ∧ ∀ (w w' : World) (s : Snapshot) (r : Except Thrown Text) (st : Writers)
        (hs : Path.separator ∉ s.target), save s dir w = (r, w') → w.directory = base →
      st.files = w.files →
      (∀ c stage, st.calls w.processId = some (c, stage) → stage.isOver = true) →
      ∃ st' stage, ReflTransGen (Writers.Step base dir) st st' ∧ st'.files = w'.files
        ∧ st'.At ⟨s, w.processId, w.clock, hs⟩ stage
        ∧ (stage = .returned ∧ r = .ok (path dir s.target)
          ∨ (stage = .raised ∨ ∃ written, stage = .undoing written) ∧ ∃ e, r = .error e) := by
  refine ⟨fun st hst => ?_, fun w w' s r st hs hsave hbase hfiles hidle => ?_⟩
  · have h := hst.invariant hfirst
    refine ⟨fun target htarget => ?_, fun st' target hstep htarget hchanged => ?_,
      fun hover c hc => ?_⟩
    · rw [h.stored target htarget]
      cases hdone : st.done.find? fun c => Utf8.encode c.snapshot.target = Utf8.encode target with
      | none => exact Or.inl rfl
      | some c =>
        have hbytes : Utf8.encode c.snapshot.target = Utf8.encode target := by
          simpa using List.find?_some hdone
        exact Or.inr ⟨c, List.mem_of_find?_eq_some hdone, hbytes,
          fun hc ht => Utf8.eq_of_encode_eq hc ht hbytes, rfl⟩
    · exact hstep.returned h htarget hchanged
    · rw [destination_temporary]
      rcases h.owned c hc with hnone | ⟨c', stage, hat, hopen, -⟩
      · exact hnone
      · have hstage := hover c' stage hat
        cases stage with
        | entered => cases hstage
        | writing written => cases hstage
        | undoing written => cases hstage
        | returned => cases hopen
        | raised => cases hopen
  · subst hbase
    obtain ⟨st', ⟨-, hsteps, hfiles'⟩, hended⟩ := save_steps hsave hs hfiles hidle
    rcases hended with ⟨hr, hat, -⟩ | ⟨e, stage, hr, hat, hstage, -⟩
    · exact ⟨st', _, hsteps, hfiles', hat, Or.inl ⟨rfl, hr⟩⟩
    · exact ⟨st', stage, hsteps, hfiles', hat, Or.inr ⟨hstage, e, hr⟩⟩

/-- A call that fails while it writes leaves the old baseline and no temporary file. -/
theorem baselines_stay_whole_of_failed_write :
    let base : Place := ⟨[], 0⟩
    let first : FileTree := ⟨.directory ⟨0, 0o755, 0⟩
      [("d", .directory ⟨1, 0o755, 0⟩ [("A.json", .file ⟨2, 0o644, 0⟩ [1])])], 3⟩
    let c : Call := ⟨⟨"A", "t", .empty⟩, 7, .zero false, by decide⟩
    NoDevices base "d" first ∧ ∃ st, Reachable base "d" first st ∧ st.At c .raised ∧ st.opened = [c]
      ∧ st.files.content? (FileTree.destination base (c.file "d")) = some [1]
      ∧ st.files.content? (FileTree.destination base (c.temporary "d")) = none := by
  intro base first c
  have hfirst : NoDevices base "d" first := by
    intro c n hn
    have hdirectory : directoryLocation base "d" = [("d" : Bytes)] := by decide +kernel
    rw [destination_temporary, temporaryAt, entryAt, hdirectory, List.singleton_append] at hn
    generalize Utf8.encode (temporaryName c.snapshot.target c.processId c.clock) = x at hn
    by_cases hx : x = "A.json"
    · rw [hx] at hn
      obtain rfl : Node.file ⟨2, 0o644, 0⟩ [1] = n := Option.some.inj hn
      rfl
    · have hnone : first.node? [("d" : Bytes), x] = none := by
        simp [FileTree.node?, Node.find?, Node.entry?, Node.entries, Node.lookup_cons, first, hx]
      rw [hnone] at hn
      cases hn
  obtain ⟨made, written, spot, cleared, hmade, hwritten, hspot, hfile, hcleared⟩ :
      ∃ made written spot cleared, first.makeDirectories base (Utf8.encode "d") 0 = (none, made)
        ∧ made.writeFile base (c.temporary "d") (c.content.take 3) 0 = .ok written
        ∧ written.find base (c.temporary "d") = .ok spot ∧ spot.node.isDirectory = false
        ∧ written.removeEntry spot 0 = .ok cleared := by
    refine ⟨_, _, _, _, Prod.ext (by decide +kernel) rfl, eq_ok_getD (by decide +kernel) first,
      eq_ok_getD (by decide +kernel) first.rootSpot, by decide +kernel,
      eq_ok_getD (by decide +kernel) first⟩
  have hcalled : Reachable base "d" first ((Writers.start first).move c .entered first) :=
    .single (.call c (idle_start _))
  have hmakes := hcalled.tail (.makeDirectory (move_at _ _ _ _) hmade)
  have hwrites := hmakes.tail (.write (move_at _ _ _ _) (by decide +kernel) hwritten)
  have hfails := hwrites.tail (.fail (Function.update_self ..))
  have hruns := hfails.tail (.clear (move_at _ _ _ _) hspot hfile hcleared)
  have h := (baselines_stay_whole base "d" first hfirst).1 _ hruns
  refine ⟨hfirst, _, hruns, move_at _ _ _ _, rfl, ?_, ?_⟩
  · rcases h.1 "A" (by decide) with hsame | ⟨c', hc', -⟩
    · exact hsame.trans (by decide +kernel)
    · cases hc'
  · refine h.2.2 (fun c' stage hat => ?_) c (List.mem_singleton_self c)
    rcases at_update hat with ⟨-, rfl⟩ | ⟨hp, hat⟩
    · rfl
    · simp [Writers.At, move, start, Function.update_of_ne hp] at hat

/-- A baseline can come to hold something else in two ways.  Targets that differ in a lone
surrogate have one file, so the baseline of one is stored for the other; and what is written to a
device that stands in the place of a temporary file is lost, and the device takes the place of the
baseline. -/
theorem baselines_broken :
    let base : Place := ⟨[], 0⟩
    let broken (first : FileTree) (target : Text) : Prop := ∃ st, Reachable base "d" first st
      ∧ held base "d" st.files target ≠ held base "d" first target
      ∧ ∀ s : Snapshot, s.target = target → held base "d" st.files target ≠ some (encode s)
    let dir : Node := .directory ⟨1, 0o755, 0⟩
      [("A.json", .file ⟨2, 0o644, 0⟩ [1]), (".A.json.1.0.tmp", .device ⟨3, 0o666, 0⟩ .null)]
    broken .empty [0xD800] ∧ broken ⟨.directory ⟨0, 0o755, 0⟩ [("d", dir)], 4⟩ "A" := by
  intro base broken dir
  refine ⟨?_, ?_⟩
  · let s' : Snapshot := ⟨[0xD801], "t", .empty⟩
    obtain ⟨st, hsteps, hfiles⟩ := reachable_save s' "d" (.quiet .empty) (by decide)
    have hheld :
        held base "d" (save s' "d" (.quiet .empty)).2.files [0xD800] = some (encode s') := by
      decide +kernel
    refine ⟨st, hsteps, ?_, fun s hs => ?_⟩
    · rw [hfiles, hheld]
      decide +kernel
    · rw [hfiles, hheld, Ne, Option.some.injEq, encode_eq_iff, toJson_eq_iff]
      rintro ⟨htarget, -⟩
      rw [hs] at htarget
      exact absurd htarget (by decide)
  · let s' : Snapshot := ⟨"A", "t", .empty⟩
    let first : FileTree := ⟨.directory ⟨0, 0o755, 0⟩ [("d", dir)], 4⟩
    obtain ⟨st, hsteps, hfiles⟩ := reachable_save s' "d" (.quiet first) (by decide)
    have hheld : held base "d" (save s' "d" (.quiet first)).2.files "A" = none := by decide +kernel
    refine ⟨st, hsteps, ?_, fun s _ => ?_⟩
    · rw [hfiles, hheld]
      decide +kernel
    · rw [hfiles, hheld]
      exact nofun

end SurfaceGuard.Baseline
