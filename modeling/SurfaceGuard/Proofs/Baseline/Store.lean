import SurfaceGuard.Proofs.Baseline.Writers
import SurfaceGuard.Proofs.Host.Task

/-!
# What storing a baseline does

`save` goes through the steps of a single writer, whatever fails in it (`save_steps`).  So
what is known about the runs of writers holds of it: a baseline is stored as a whole or
not at all, and no other one is touched (`save_cases`).
-/

namespace SurfaceGuard.Baseline

open Writers Relation

variable {dir : Text} {w w' : World}

/-- What is left of a replacement: all of it, or a temporary file with the beginning of the
content, or nothing. -/
theorem replace_cases {temporary file : Text} {content : Bytes} {r : Except Thrown Unit}
    (h : replace temporary file content w = (r, w')) :
    w.Stays w' ∧ ((r = .ok () ∧ ∃ files time time',
        w.files.writeFile w.directory (Utf8.encode temporary) content time = .ok files
          ∧ files.rename w.directory (Utf8.encode temporary) (Utf8.encode file) time'
            = .ok w'.files)
      ∨ ∃ e, r = .error e ∧ (w'.files = w.files ∨ ∃ time count,
        w.files.writeFile w.directory (Utf8.encode temporary) (content.take count) time
          = .ok w'.files)) := by
  rcases Task.bind_cases h with ⟨_, u, hwrite, hrename⟩ | ⟨e, hwrite, hr⟩
  · obtain ⟨hstays, hwritten⟩ := Task.writeBytes_cases hwrite
    obtain ⟨hstays', hrenamed⟩ := Task.rename_cases hrename
    refine ⟨hstays.trans hstays', ?_⟩
    rcases hwritten with ⟨-, time, hwritten⟩ | ⟨_, herror, -⟩
    · rcases hrenamed with ⟨hr, time', hrenamed⟩ | ⟨e, hr, hfiles⟩
      · rw [hstays.directory] at hrenamed
        exact Or.inl ⟨hr, _, time, time', hwritten, hrenamed⟩
      · refine Or.inr ⟨e, hr, Or.inr ⟨time, content.length, ?_⟩⟩
        rw [List.take_length, hfiles]
        exact hwritten
    · cases herror
  · obtain ⟨hstays, ⟨hok, -⟩ | ⟨_, -, hwritten⟩⟩ := Task.writeBytes_cases hwrite
    · cases hok
    · exact ⟨hstays, Or.inr ⟨e, hr, hwritten⟩⟩

/-- The call that a world makes when it stores a snapshot. -/
def Call.ofSave (s : Snapshot) (w : World) (hs : Path.separator ∉ s.target) : Call :=
  ⟨s, w.processId, w.clock, hs⟩

theorem move_at (st : Writers) (c : Call) (stage : Stage) (files : FileTree) :
    (st.move c stage files).At c stage := Function.update_self ..

/-- The writers follow what happens in a world: their steps lead to its files. -/
structure Follows (dir : Text) (st : Writers) (w : World) (st' : Writers) (w' : World) : Prop where
  stays : w.Stays w'
  steps : ReflTransGen (Writers.Step w.directory dir) st st'
  files : st'.files = w'.files

theorem Follows.trans {st st₁ st₂ : Writers} {u : World} (h : Follows dir st w st₁ u)
    (h' : Follows dir st₁ u st₂ w') : Follows dir st w st₂ w' := by
  refine ⟨h.stays.trans h'.stays, h.steps.trans ?_, h'.files⟩
  rw [← h.stays.directory]
  exact h'.steps

variable {c : Call} {st : Writers}

/-- A call makes the directory, or fails and is over. -/
theorem makeDirectories_steps {r : Except Thrown Unit} (h : Task.makeDirectories dir w = (r, w'))
    (hfiles : st.files = w.files) (hat : st.At c .entered) :
    ∃ st', Follows dir st w st' w' ∧ st'.done = st.done
      ∧ (r = .ok () ∧ st'.At c (.writing none) ∨ (∃ e, r = .error e) ∧ st'.At c .raised) := by
  obtain ⟨hstays, hmade⟩ := Task.makeDirectories_cases h
  rw [← hfiles] at hmade
  rcases hmade with ⟨hr, time, hmade⟩ | ⟨e, hr, hsame | ⟨time, errno, hmade⟩⟩
  · exact ⟨_, ⟨hstays, .single (.makeDirectory hat hmade), rfl⟩, rfl,
      Or.inl ⟨hr, move_at _ _ _ _⟩⟩
  · exact ⟨_, ⟨hstays, .single (.reject hat), hsame.symm⟩, rfl, Or.inr ⟨⟨e, hr⟩, move_at _ _ _ _⟩⟩
  · exact ⟨_, ⟨hstays, .single (.refuse hat hmade), rfl⟩, rfl, Or.inr ⟨⟨e, hr⟩, move_at _ _ _ _⟩⟩

/-- After the directory was made, the call replaces its baseline or fails. -/
theorem replace_steps {r : Except Thrown Unit}
    (h : replace (temporaryPath dir c.snapshot.target c.processId c.clock)
      (path dir c.snapshot.target) c.content w = (r, w'))
    (hfiles : st.files = w.files) (hat : st.At c (.writing none)) :
    ∃ st', Follows dir st w st' w'
      ∧ (r = .ok () ∧ st'.At c .returned ∧ st'.done = c :: st.done
        ∨ ∃ e written, r = .error e ∧ st'.At c (.undoing written) ∧ st'.done = st.done) := by
  obtain ⟨hstays, hreplaced⟩ := replace_cases h
  rw [← hfiles] at hreplaced
  rcases hreplaced with ⟨hr, files, time, time', hwrite, hrename⟩ | ⟨e, hr, hsame | hwritten⟩
  · have hstep : Writers.Step w.directory dir st
        { st.move c (.writing (some c.content.length)) files with opened := c :: st.opened } :=
      .write hat ⟨Nat.zero_le _, le_rfl⟩ (by rw [List.take_length]; exact hwrite)
    exact ⟨_, ⟨hstays, .tail (.single hstep) (.replace (Function.update_self ..) hrename), rfl⟩,
      Or.inl ⟨hr, Function.update_self .., rfl⟩⟩
  · exact ⟨_, ⟨hstays, .single (.fail hat), hsame.symm⟩,
      Or.inr ⟨e, none, hr, move_at _ _ _ _, rfl⟩⟩
  · obtain ⟨time, count, hwritten⟩ := hwritten
    rw [List.take_eq_take_min] at hwritten
    have hstep : Writers.Step w.directory dir st
        { st.move c (.writing (some (min count c.content.length))) w'.files with
          opened := c :: st.opened } :=
      .write hat ⟨Nat.zero_le _, Nat.min_le_right _ _⟩ hwritten
    exact ⟨_, ⟨hstays, .tail (.single hstep) (.fail (Function.update_self ..)), rfl⟩,
      Or.inr ⟨e, _, hr, move_at _ _ _ _, rfl⟩⟩

/-- Removing the temporary file after a failure ends the call, unless that fails as well. -/
theorem removeFile_steps {written : Option Nat} {r : Except Thrown Unit}
    (h : Task.removeFile (temporaryPath dir c.snapshot.target c.processId c.clock) w = (r, w'))
    (hfiles : st.files = w.files) (hat : st.At c (.undoing written)) :
    ∃ st' stage, Follows dir st w st' w' ∧ st'.At c stage
      ∧ (stage = .raised ∨ ∃ written, stage = .undoing written) ∧ st'.done = st.done := by
  obtain ⟨hstays, hremoved⟩ := Task.removeFile_cases h
  rw [← hfiles] at hremoved
  rcases hremoved with ⟨-, ⟨hsame, hnone⟩ | ⟨s, time, hfind, hfile, hremove⟩⟩ | ⟨-, -, hsame⟩
  · have hleave : ∀ s, st.files.find w.directory (c.temporary dir) = .ok s →
        s.node.isDirectory = true := by
      intro s hs
      rw [Call.temporary, hnone] at hs
      cases hs
    exact ⟨_, .raised, ⟨hstays, .single (.leave hat hleave), hsame.symm⟩, move_at _ _ _ _,
      Or.inl rfl, rfl⟩
  · exact ⟨_, .raised, ⟨hstays, .single (.clear hat hfind hfile hremove), rfl⟩, move_at _ _ _ _,
      Or.inl rfl, rfl⟩
  · exact ⟨st, _, ⟨hstays, .refl, hsame.symm⟩, hat, Or.inr ⟨written, rfl⟩, rfl⟩

/-- A call that failed removes its temporary file and fails, whether that can be removed or not. -/
theorem undo_steps {written : Option Nat} {e : Thrown} {r : Except Thrown Text}
    (h : (do
      Task.removeFile (temporaryPath dir c.snapshot.target c.processId c.clock)
      Task.fail e : Task Text) w = (r, w'))
    (hfiles : st.files = w.files) (hat : st.At c (.undoing written)) :
    ∃ e' st' stage, r = .error e' ∧ Follows dir st w st' w' ∧ st'.At c stage
      ∧ (stage = .raised ∨ ∃ written, stage = .undoing written) ∧ st'.done = st.done := by
  rcases Task.bind_cases h with ⟨_, u, hremove, hfail⟩ | ⟨e', hremove, hr⟩
  · obtain ⟨rfl, rfl⟩ := Prod.mk.inj hfail
    obtain ⟨st', stage, hended⟩ := removeFile_steps hremove hfiles hat
    exact ⟨e, st', stage, rfl, hended⟩
  · obtain ⟨st', stage, hended⟩ := removeFile_steps hremove hfiles hat
    exact ⟨e', st', stage, hr, hended⟩

/-- Storing a baseline goes through the steps of a call, up to its end, or to a temporary file that
cannot be removed. -/
theorem save_steps {s : Snapshot} {r : Except Thrown Text} (h : save s dir w = (r, w'))
    (hs : Path.separator ∉ s.target) (hfiles : st.files = w.files)
    (hidle : ∀ c stage, st.calls w.processId = some (c, stage) → stage.isOver = true) :
    ∃ st', Follows dir st w st' w'
      ∧ (r = .ok (path dir s.target) ∧ st'.At (.ofSave s w hs) .returned
          ∧ st'.done = .ofSave s w hs :: st.done
        ∨ ∃ e stage, r = .error e ∧ st'.At (.ofSave s w hs) stage
          ∧ (stage = .raised ∨ ∃ written, stage = .undoing written) ∧ st'.done = st.done) := by
  have hcalled : Follows dir st w (st.move (.ofSave s w hs) .entered st.files) w :=
    ⟨.refl w, .single (.call (.ofSave s w hs) hidle), hfiles⟩
  have hentered := move_at st (.ofSave s w hs) .entered st.files
  rcases Task.bind_cases h with ⟨_, u, hmake, hrest⟩ | ⟨e, hmake, hr⟩
  · obtain ⟨st₁, hmade, hdone₁, ⟨-, hat₁⟩ | ⟨⟨_, herror⟩, -⟩⟩ :=
      makeDirectories_steps hmake hcalled.files hentered
    · have hready := hcalled.trans hmade
      rcases Task.bind_cases hrest with ⟨temporary, v, htemporary, hrest⟩ | ⟨e, htemporary, -⟩
      · obtain ⟨hpath, rfl⟩ := Prod.mk.inj htemporary
        obtain rfl : temporaryPath dir s.target w.processId w.clock = temporary := by
          rw [← hmade.stays.processId, ← hmade.stays.clock]
          exact Except.ok.inj hpath
        obtain ⟨end_, x, hend⟩ : ∃ end_ x, replace (temporaryPath dir s.target w.processId w.clock)
          (path dir s.target) (encode s) u = (end_, x) := ⟨_, _, rfl⟩
        rw [Task.bind_of_ok (Task.outcome_eq hend)] at hrest
        obtain ⟨st₂, hreplaced, ⟨rfl, hat₂, hdone₂⟩ | ⟨e, written, rfl, hat₂, hdone₂⟩⟩ :=
          replace_steps (c := .ofSave s w hs) hend hmade.files hat₁
        · cases hrest
          exact ⟨st₂, hready.trans hreplaced, Or.inl ⟨rfl, hat₂, by rw [hdone₂, hdone₁]; rfl⟩⟩
        · obtain ⟨e', st₃, stage, hr, hundone, hat₃, hstage, hdone₃⟩ :=
            undo_steps (c := .ofSave s w hs) hrest hreplaced.files hat₂
          exact ⟨st₃, (hready.trans hreplaced).trans hundone,
            Or.inr ⟨e', stage, hr, hat₃, hstage, by rw [hdone₃, hdone₂, hdone₁]; rfl⟩⟩
      · cases htemporary
    · cases herror
  · obtain ⟨st₁, hmade, hdone₁, ⟨hok, -⟩ | ⟨-, hat₁⟩⟩ :=
      makeDirectories_steps hmake hcalled.files hentered
    · cases hok
    · exact ⟨st₁, hcalled.trans hmade, Or.inr ⟨e, _, hr, hat₁, Or.inl rfl, hdone₁⟩⟩

/-- What storing a baseline leaves behind is what a single writer can leave behind. -/
theorem reachable_save (s : Snapshot) (dir : Text) (w : World) (hs : Path.separator ∉ s.target) :
    ∃ st, Reachable w.directory dir w.files st ∧ st.files = (save s dir w).2.files := by
  have hsave : save s dir w = ((save s dir w).1, (save s dir w).2) := rfl
  obtain ⟨st, hfollows, -⟩ := save_steps hsave hs rfl (idle_start _)
  exact ⟨st, hfollows.steps, hfollows.files⟩

/-- What happens to the baselines between two worlds: one is replaced by a snapshot, if there is
one to replace it, and the others are left alone. -/
structure Replaces (base : Place) (dir : Text) (s? : Option Snapshot) (w w' : World) : Prop where
  directory : w'.directory = w.directory
  noDevices : NoDevices base dir w.files → NoDevices base dir w'.files
  held : ∀ target, Path.separator ∉ target → held base dir w'.files target
    = match s?.filter fun s => Utf8.encode s.target = Utf8.encode target with
      | some s => some (encode s)
      | none => held base dir w.files target

namespace Replaces

variable {base : Place} {s? : Option Snapshot} {u : World}

theorem held_same (h : Replaces base dir none w w') {target : Text} (ht : Path.separator ∉ target) :
    Baseline.held base dir w'.files target = Baseline.held base dir w.files target :=
  h.held target ht

theorem held_new {s : Snapshot} (h : Replaces base dir (some s) w w') {target : Text}
    (ht : Path.separator ∉ target) (hsame : Utf8.encode s.target = Utf8.encode target) :
    Baseline.held base dir w'.files target = some (encode s) := by
  rw [h.held target ht, Option.filter, decide_eq_true hsame]
  rfl

theorem held_other {s : Snapshot} (h : Replaces base dir (some s) w w') {target : Text}
    (ht : Path.separator ∉ target) (hother : Utf8.encode s.target ≠ Utf8.encode target) :
    Baseline.held base dir w'.files target = Baseline.held base dir w.files target := by
  rw [h.held target ht, Option.filter, decide_eq_false hother]
  rfl

theorem after (h : Replaces base dir s? u w') (hnone : Replaces base dir none w u) :
    Replaces base dir s? w w' := by
  refine ⟨h.directory.trans hnone.directory, fun hw => h.noDevices (hnone.noDevices hw), ?_⟩
  intro target htarget
  rw [h.held target htarget, hnone.held_same htarget]

theorem logged (h : Replaces base dir s? w w') (entries : List Entry) :
    Replaces base dir s? w (w'.logged entries) :=
  ⟨h.directory, h.noDevices, h.held⟩

end Replaces

/-- A baseline is stored as a whole or not at all, and no other one is touched. -/
theorem save_cases {s : Snapshot} {r : Except Thrown Text} (h : save s dir w = (r, w'))
    (hs : Path.separator ∉ s.target) (hfirst : NoDevices w.directory dir w.files) :
    (∃ file, r = .ok file ∧ Replaces w.directory dir (some s) w w')
      ∨ ∃ e, r = .error e ∧ Replaces w.directory dir none w w' := by
  obtain ⟨st, ⟨hstays, hsteps, hfiles⟩, hended⟩ := save_steps h hs rfl (idle_start _)
  have hinv : Invariant w.directory dir w.files st := Reachable.invariant hsteps hfirst
  have hdevices : NoDevices w.directory dir w'.files := noDevices_iff.2 (hfiles ▸ hinv.ordinary)
  rcases hended with ⟨hr, -, hdone⟩ | ⟨e, -, hr, -, -, hdone⟩
  · refine Or.inl ⟨_, hr, hstays.directory, fun _ => hdevices, fun target htarget => ?_⟩
    rw [← hfiles, hinv.stored target htarget, hdone, start]
    by_cases hsame : Utf8.encode s.target = Utf8.encode target
    · simp [Call.ofSave, hsame, Call.content, Option.filter]
    · simp [Call.ofSave, hsame, Option.filter]
  · refine Or.inr ⟨e, hr, hstays.directory, fun _ => hdevices, fun target htarget => ?_⟩
    rw [← hfiles, hinv.stored target htarget, hdone]
    rfl

end SurfaceGuard.Baseline
