import SurfaceGuard.Proofs.Host.Copy
import SurfaceGuard.Proofs.Host.Creation
import SurfaceGuard.Proofs.Host.Destination
import SurfaceGuard.Proofs.Host.Parts

/-!
# The course of an export

An export prepares the directory of its target, runs the command, looks for a graph and copies it,
and it can end after each of these (`Course`).  Preparing removes the directory with all that is
in it and makes it again, and copying makes one file; the rest only reads, or is what the command
does.

Once the directory is prepared, it is there and empty (`isEmptyAt_of_prepare`).
-/

namespace SurfaceGuard

namespace Task

variable {w w' : World} {r : Except Thrown Unit}

/-- The change that a removal makes to the files. -/
def removal (bytes : Bytes) (w : World) : Option Thrown × FileTree :=
  match w.files.removeAll w.directory bytes w.stamp with
  | (none, files) => (none, files)
  | (some e, files) => (some (systemError e.errno e.operation (Utf8.decode e.path)), files)

theorem removePath_eq (path : Text) : removePath path = pathFor "path" path >>= fun bytes =>
    attempt (fun fault => fail (systemError fault.errno "rm" path)) (changeWith (removal bytes)) :=
  rfl

/-- A removal goes as far as the one on the files does, and fails where that one does. -/
theorem removal_eq {bytes : Bytes} {e? : Option FileTree.RemoveError} {files : FileTree}
    (h : w.files.removeAll w.directory bytes w.stamp = (e?, files)) :
    removal bytes w
      = (e?.map fun e => systemError e.errno e.operation (Utf8.decode e.path), files) := by
  rw [removal, h]
  cases e? <;> rfl

/-- Whatever a path leads to is removed, or a part of it, or nothing is. -/
theorem removePath_cases {path : Text} (h : removePath path w = (r, w')) :
    w.Stays w' ∧ ((r = .ok () ∧ ∃ time, w.files.removeAll w.directory (Utf8.encode path) time
        = (none, w'.files))
      ∨ ∃ e, r = .error e ∧ (w'.files = w.files ∨ ∃ time e',
        w.files.removeAll w.directory (Utf8.encode path) time = (some e', w'.files))) := by
  rw [removePath_eq] at h
  rcases pathFor_bind_cases h with hremove | ⟨rfl, e, hr⟩
  · obtain ⟨faults, hremove | ⟨fault, hbroken⟩⟩ := attempt_cases hremove
    · obtain ⟨hstays, hchange⟩ := changeWith_cases hremove
      refine ⟨(stays_faults w faults).trans hstays, ?_⟩
      obtain ⟨⟨e?, files⟩, hremoved⟩ : ∃ removed,
          w.files.removeAll w.directory (Utf8.encode path) w.stamp = removed := ⟨_, rfl⟩
      have hremoval := removal_eq (w := { w with faults := faults }) hremoved
      rw [hremoval] at hchange
      rcases hchange with ⟨hr, hnone⟩ | ⟨e, hr, hsome⟩
      · obtain ⟨hnone, hfiles⟩ := Prod.mk.inj hnone
        rw [Option.map_eq_none_iff.1 hnone, hfiles] at hremoved
        exact Or.inl ⟨hr, _, hremoved⟩
      · obtain ⟨hsome, hfiles⟩ := Prod.mk.inj hsome
        obtain ⟨e', he', -⟩ := Option.map_eq_some_iff.1 hsome
        rw [he', hfiles] at hremoved
        exact Or.inr ⟨e, hr, Or.inr ⟨_, e', hremoved⟩⟩
    · obtain ⟨rfl, hr⟩ := fail_cases hbroken
      exact ⟨stays_faults w faults, Or.inr ⟨_, hr, Or.inl rfl⟩⟩
  · exact ⟨.refl _, Or.inr ⟨e, hr, Or.inl rfl⟩⟩

/-- A file is copied, or the beginning of it is made, or nothing happens. -/
theorem copyFile_cases {source target : Text} (h : copyFile source target w = (r, w')) :
    w.Stays w' ∧ ((r = .ok () ∧ ∃ time, w.files.copyFile w.directory (Utf8.encode source)
        (Utf8.encode target) time = (none, w'.files))
      ∨ ∃ e, r = .error e ∧ (w'.files = w.files ∨ ∃ time errno,
        w.files.copyFile w.directory (Utf8.encode source) (Utf8.encode target) time
          = (some errno, w'.files))) := by
  rcases pathFor_bind_cases h with hcopy | ⟨rfl, e, hr⟩
  · rcases pathFor_bind_cases hcopy with hcopy | ⟨rfl, e, hr⟩
    · obtain ⟨faults, hcopy | ⟨fault, hbroken⟩⟩ := attempt_cases hcopy
      · obtain ⟨hstays, hchange⟩ := changeWith_cases hcopy
        refine ⟨(stays_faults w faults).trans hstays, ?_⟩
        obtain ⟨⟨e?, files⟩, hcopied⟩ : ∃ copied, w.files.copyFile w.directory (Utf8.encode source)
            (Utf8.encode target) w.stamp = copied := ⟨_, rfl⟩
        simp only [hcopied, Prod.mk.injEq] at hchange
        rcases hchange with ⟨hr, hnone, hfiles⟩ | ⟨e, hr, hsome, hfiles⟩
        · rw [Option.map_eq_none_iff.1 hnone, hfiles] at hcopied
          exact Or.inl ⟨hr, _, hcopied⟩
        · obtain ⟨errno, herrno, -⟩ := Option.map_eq_some_iff.1 hsome
          rw [herrno, hfiles] at hcopied
          exact Or.inr ⟨e, hr, Or.inr ⟨_, errno, hcopied⟩⟩
      · obtain ⟨rfl, hr⟩ := fail_cases hbroken
        exact ⟨stays_faults w faults, Or.inr ⟨_, hr, Or.inl rfl⟩⟩
    · exact ⟨.refl _, Or.inr ⟨e, hr, Or.inl rfl⟩⟩
  · exact ⟨.refl _, Or.inr ⟨e, hr, Or.inl rfl⟩⟩

/-- A copy changes nothing but what is at its location. -/
theorem face?_of_copyFile {source target : Text} (h : copyFile source target w = (r, w'))
    {other : Location}
    (hother : other ≠ FileTree.destination w.directory (Utf8.encode target)) :
    w'.files.face? other = w.files.face? other := by
  obtain ⟨-, ⟨-, time, hcopied⟩ | ⟨e, -, hsame | ⟨time, errno, hcopied⟩⟩⟩ := copyFile_cases h
  · exact FileTree.face?_copyFile_elsewhere hcopied hother
  · rw [hsame]
  · exact FileTree.face?_copyFile_elsewhere hcopied hother

end Task

namespace Export

variable {launch : Launcher} {settings : Settings} {target : Text} {w w' : World}

/-! ## Preparing the directory of a target -/

/-- The path of the directory of a target. -/
def ownPath (settings : Settings) (target : Text) : Text := Path.join settings.outputDir target

/-- The path of the copy that is made for a target. -/
def copyPath (settings : Settings) (target : Text) : Text :=
  Path.join (ownPath settings target) (target ++ graphEnding)

/-- The location of the directory of a target. -/
def ownLocation (base : Place) (settings : Settings) (target : Text) : Location :=
  FileTree.destination base (Utf8.encode (ownPath settings target))

/-- The location of the copy that is made for a target. -/
def copyLocation (base : Place) (settings : Settings) (target : Text) : Location :=
  FileTree.destination base (Utf8.encode (copyPath settings target))

/-- What begins as a name is the name of a graph. -/
theorem isName_append_graphEnding {x : Text} (hx : Path.separator ∉ x) :
    Path.IsName (x ++ graphEnding) := by
  have hno : Path.separator ∉ graphEnding := by decide
  refine Path.isName_of_length ?_ fun hmem => (List.mem_append.1 hmem).elim hx hno
  rw [List.length_append]
  exact le_trans (by decide : 3 ≤ graphEnding.length) (Nat.le_add_left _ _)

/-- The directory of a target is removed and made again. -/
def prepare (settings : Settings) (target : Text) : Task Unit := do
  Task.removePath (ownPath settings target)
  Task.makeDirectories (ownPath settings target)

/-- All stays but what is at a location and below it, and directories are made on the way to it
where nothing was. -/
def Renews (t : FileTree) (loc : Location) (t' : FileTree) : Prop :=
  ∀ other, ¬loc <+: other → t'.face? other = t.face? other
    ∨ t.face? other = none ∧ other <+: loc ∧ t'.DirectoryAt other

theorem Renews.of_clears {t u t' : FileTree} {loc : Location} (h : t.Clears loc u)
    (h' : u.Paves loc t') : Renews t loc t' := by
  intro other hother
  have hsame : u.face? other = t.face? other := (h other).resolve_right fun hlost => hother hlost.1
  rw [← hsame]
  exact h' other

/-- However far it comes, preparing changes nothing but what is at the location of the directory and
below it, and makes directories on the way. -/
theorem renews_of_prepare {r : Except Thrown Unit} {u : World} (hw : w.files.WellNamed)
    (h : prepare settings target w = (r, u)) :
    w.Stays u ∧ Renews w.files (ownLocation w.directory settings target) u.files := by
  rcases Task.bind_cases h with ⟨_, v, hremove, hmake⟩ | ⟨e, hremove, -⟩
  · obtain ⟨hstays, ⟨-, time, hremoved⟩ | ⟨e, hok, -⟩⟩ := Task.removePath_cases hremove
    · obtain ⟨hstays', hmade⟩ := Task.makeDirectories_cases hmake
      rw [hstays.directory] at hmade
      refine ⟨hstays.trans hstays', .of_clears (FileTree.clears_removeAll hw hremoved) ?_⟩
      rcases hmade with ⟨-, time, hmade⟩ | ⟨e, -, hsame | ⟨time, errno, hmade⟩⟩
      · exact FileTree.paves_makeDirectories (Path.forthright_join _ _) hmade
      · rw [hsame]
        exact .refl _ _
      · exact FileTree.paves_makeDirectories (Path.forthright_join _ _) hmade
    · cases hok
  · obtain ⟨hstays, ⟨hok, -⟩ | ⟨e, -, hsame | ⟨time, e', hremoved⟩⟩⟩ :=
      Task.removePath_cases hremove
    · cases hok
    · exact ⟨hstays, .of_clears (.refl _ _) (hsame ▸ .refl _ _)⟩
    · exact ⟨hstays, .of_clears (FileTree.clears_removeAll hw hremoved) (.refl _ _)⟩

/-- A directory is at the location, with nothing in it. -/
structure IsEmptyAt (t : FileTree) (loc : Location) : Prop where
  directory : t.DirectoryAt loc
  below : ∀ other, loc <+: other → other ≠ loc → t.face? other = none

/-- Where nothing was left, making the directory makes an empty one. -/
theorem isEmptyAt_of_paves {t t' : FileTree} {loc : Location} (hbare : t.IsBare loc)
    (hpaves : t.Paves loc t') (hmade : t'.DirectoryAt loc) : IsEmptyAt t' loc := by
  refine ⟨hmade, fun other hp hne => ?_⟩
  rcases hpaves other with heq | ⟨-, hway, -⟩
  · rw [heq, hbare other hp]
  · exact absurd (hway.eq_of_length_le hp.length_le) hne

/-- Once it is prepared, the directory of a target is there and empty, whatever was in its place. -/
theorem isEmptyAt_of_prepare {u : World} (h : prepare settings target w = (.ok (), u)) :
    w.Stays u ∧ IsEmptyAt u.files (ownLocation w.directory settings target) := by
  rcases Task.bind_cases h with ⟨_, v, hremove, hmake⟩ | ⟨e, -, hok⟩
  · obtain ⟨hstays, ⟨-, time, hremoved⟩ | ⟨e, hok, -⟩⟩ := Task.removePath_cases hremove
    · obtain ⟨hstays', ⟨-, time', hmade⟩ | ⟨e, hok, -⟩⟩ := Task.makeDirectories_cases hmake
      · rw [hstays.directory] at hmade
        rcases FileTree.removeAll_ok (Path.forthright_join _ _)
          (encode_ne_nil (Path.join_ne_nil _ _)) hremoved with hbare | hlost
        · exact ⟨hstays.trans hstays', isEmptyAt_of_paves hbare
            (FileTree.paves_makeDirectories (Path.forthright_join _ _) hmade)
            (FileTree.makeDirectories_ok hmade)⟩
        · exact absurd (congrArg Prod.fst hmade) hlost.makeDirectories_ne_none
      · cases hok
    · cases hok
  · cases hok

/-! ## The command -/

/-- What is recorded before the command is run. -/
def announcement (settings : Settings) : Entry :=
  .message .debug ("Running: " ++ Text.join " " settings.command)

/-- What the export makes of the end of its command. -/
def answer (settings : Settings) (target : Text) : Except Text ExecOutput → Except Thrown ExecOutput
  | .ok output =>
    if output.exitCode = 0 then .ok output
    else .error (.guard (.exportUnavailable target
      (settings.command.headD [] ++ " exited with code " ++ Text.ofNat output.exitCode)
      (Text.trim (output.stdout ++ output.stderr))))
  | .error message =>
    .error (.guard (.exportUnavailable target ("Symbol graph export failed: " ++ message) []))

theorem runCommand_eq {end_ : Except Text ExecOutput}
    (h : launch settings.command settings.cwd settings.timeoutMs w = (end_, w')) :
    runCommand launch settings target w = (answer settings target end_, w') := by
  cases end_ with
  | ok output =>
    have hlaunched : Task.launched launch settings.command settings.cwd settings.timeoutMs w
        = (.ok output, w') := by rw [Task.launched, h]
    refine (Task.bind_of_ok (Task.outcome_eq hlaunched)).trans ?_
    by_cases hcode : output.exitCode = 0
    · simp only [answer, if_pos hcode]
      rfl
    · simp only [answer, if_neg hcode]
      rfl
  | error message =>
    have hlaunched : Task.launched launch settings.command settings.cwd settings.timeoutMs w
        = (.error (.error message), w') := by rw [Task.launched, h]
    exact Task.bind_of_ok (Task.outcome_eq hlaunched)

/-- Only a command that comes to a good end is gone on from. -/
theorem answer_eq_ok_iff {end_ : Except Text ExecOutput} {output : ExecOutput} :
    answer settings target end_ = .ok output ↔ end_ = .ok output ∧ output.exitCode = 0 := by
  cases end_ with
  | error message => exact iff_of_false nofun nofun
  | ok o =>
    rw [answer]
    split
    · next hcode =>
      rw [Except.ok.injEq, Except.ok.injEq, iff_self_and]
      rintro rfl
      exact hcode
    · next hcode =>
      refine iff_of_false nofun ?_
      rintro ⟨⟨⟩, hzero⟩
      exact hcode hzero

/-- What is recorded of a command that succeeded, if it said anything. -/
def remarks (output : ExecOutput) : List Entry :=
  if (Text.trim output.stderr).isEmpty then [] else [.message .debug (Text.trim output.stderr)]

theorem remarks_bind {α : Type} (output : ExecOutput) (t : Task α) (w : World) :
    (if !(Text.trim output.stderr).isEmpty then
        Task.say .debug (Text.trim output.stderr) >>= fun _ => t else t) w
      = t (w.logged (remarks output)) := by
  rw [remarks]
  cases (Text.trim output.stderr).isEmpty with
  | true => simp
  | false => rfl

/-- The failure of an export without a graph. -/
def withoutGraph (settings : Settings) (target : Text) : Thrown :=
  .guard (.exportUnavailable target ("No .symbols.json produced for target " ++ target ++ " in "
    ++ settings.symbolGraphDir) [])

/-! ## The ways that an export can end -/

/-- The directory of the target was prepared, and the command was run and ended. -/
structure Ran (launch : Launcher) (settings : Settings) (target : Text) (w u : World)
    (end_ : Except Text ExecOutput) (v : World) : Prop where
  prepared : prepare settings target w = (.ok (), u)
  run : launch settings.command settings.cwd settings.timeoutMs (u.logged [announcement settings])
    = (end_, v)

/-- No command leads the process out of its directory. -/
theorem Ran.directory {u v : World} {end_ : Except Text ExecOutput} (hlaunch : launch.IsConfined)
    (h : Ran launch settings target w u end_ v) : v.directory = w.directory := by
  obtain ⟨machine, clock, hworld, -⟩ := hlaunch.world settings.command settings.cwd
    settings.timeoutMs (u.logged [announcement settings])
  rw [h.run] at hworld
  rw [show v = _ from hworld]
  exact (isEmptyAt_of_prepare h.prepared).1.directory

/-- How an export goes from a world, and how it ends. -/
inductive Course (launch : Launcher) (settings : Settings) (target : Text) (w : World) :
    Except Thrown Text → World → Prop
  /-- The directory of the target cannot be prepared, and the command is not run. -/
  | unprepared {e : Thrown} {u : World} (h : prepare settings target w = (.error e, u)) :
    Course launch settings target w (.error e) u
  /-- The command does not come to a good end. -/
  | failed {u v : World} {end_ : Except Text ExecOutput} {e : Thrown}
    (hran : Ran launch settings target w u end_ v) (h : answer settings target end_ = .error e) :
    Course launch settings target w (.error e) v
  /-- The directory of the graphs cannot be read. -/
  | unread {u v : World} {output : ExecOutput} {e : Thrown}
    (hran : Ran launch settings target w u (.ok output) v) (hcode : output.exitCode = 0)
    (h : (findGraph settings.symbolGraphDir target v).1 = .error e) :
    Course launch settings target w (.error e) (v.logged (remarks output))
  /-- There is no graph. -/
  | without {u v : World} {output : ExecOutput}
    (hran : Ran launch settings target w u (.ok output) v) (hcode : output.exitCode = 0)
    (h : (findGraph settings.symbolGraphDir target v).1 = .ok none) :
    Course launch settings target w (.error (withoutGraph settings target))
      (v.logged (remarks output))
  /-- The graph that was found cannot be copied. -/
  | uncopied {u v w' : World} {output : ExecOutput} {produced : Text} {e : Thrown}
    (hran : Ran launch settings target w u (.ok output) v) (hcode : output.exitCode = 0)
    (hfound : (findGraph settings.symbolGraphDir target v).1 = .ok (some produced))
    (h : Task.copyFile produced (copyPath settings target) (v.logged (remarks output))
      = (.error e, w')) :
    Course launch settings target w (.error e) w'
  /-- The graph that was found is copied. -/
  | copied {u v w' : World} {output : ExecOutput} {produced : Text}
    (hran : Ran launch settings target w u (.ok output) v) (hcode : output.exitCode = 0)
    (hfound : (findGraph settings.symbolGraphDir target v).1 = .ok (some produced))
    (h : Task.copyFile produced (copyPath settings target) (v.logged (remarks output))
      = (.ok (), w')) :
    Course launch settings target w (.ok (copyPath settings target))
      (w'.logged [.message .debug ("Symbol graph for " ++ target ++ ": " ++ produced)])

theorem reads_findGraph (dir target : Text) : Task.Reads (findGraph dir target) := by
  have hstat : ∀ file, Task.Reads (Task.modifiedAt file) := fun file =>
    (Task.reads_pathFor "path" file).bind fun _ => (Task.reads_look _).bind fun _ =>
      Task.reads_ofExcept _
  have hstamps : ∀ files, Task.Reads (stampAll files) := by
    intro files
    induction files with
    | nil => exact Task.reads_pure []
    | cons file files ih =>
      exact (hstat file).bind fun _ => ih.bind fun _ => Task.reads_pure _
  have hlist : Task.Reads (Task.listDirectory dir) :=
    (Task.reads_pathFor "path" dir).bind fun _ => (Task.reads_look _).bind fun _ =>
      (Task.reads_ofExcept _).bind fun _ => Task.reads_pure _
  refine (Task.reads_look _).bind fun isThere => ?_
  cases isThere with
  | true => exact hlist.bind fun _ => (hstamps _).bind fun _ => Task.reads_pure _
  | false => exact Task.reads_pure none

/-- What was recorded does not change which graph is found. -/
theorem findGraph_logged (dir target : Text) (w : World) (entries : List Entry) :
    findGraph dir target (w.logged entries) = ((findGraph dir target w).1, w.logged entries) := by
  have htwin : World.Twin w.environment w.environment w (w.logged entries) := ⟨rfl, _, rfl⟩
  have hsame := (built_findGraph dir target).twins (Launcher.ignores_none _ _) _ _ htwin
  exact Prod.ext hsame.1 (reads_findGraph dir target _)

/-- Every export goes one of these ways. -/
theorem course_byCommand {r : Except Thrown Text}
    (h : byCommand launch settings target w = (r, w')) :
    Course launch settings target w r w' := by
  rcases Task.bind_cases h with ⟨_, w₁, hremove, h⟩ | ⟨e, hremove, rfl⟩
  swap
  · exact .unprepared (Task.bind_of_error hremove)
  rcases Task.bind_cases h with ⟨_, u, hmake, h⟩ | ⟨e, hmake, rfl⟩
  swap
  · exact .unprepared ((Task.bind_of_ok hremove).trans hmake)
  obtain ⟨end_, v, hrun⟩ : ∃ end_ v, launch settings.command settings.cwd settings.timeoutMs
      (u.logged [announcement settings]) = (end_, v) := ⟨_, _, rfl⟩
  have hran : Ran launch settings target w u end_ v := ⟨(Task.bind_of_ok hremove).trans hmake, hrun⟩
  have hsay : Task.say .debug ("Running: " ++ Text.join " " settings.command) u
      = (.ok (), u.logged [announcement settings]) := rfl
  rw [Task.bind_of_ok hsay] at h
  rcases Task.bind_cases h with ⟨output, v', hcommand, h⟩ | ⟨e, hcommand, rfl⟩
  swap
  · rw [runCommand_eq hrun, Prod.mk.injEq] at hcommand
    obtain ⟨hanswer, rfl⟩ := hcommand
    exact .failed hran hanswer
  rw [runCommand_eq hrun, Prod.mk.injEq] at hcommand
  obtain ⟨hanswer, rfl⟩ := hcommand
  obtain ⟨rfl, hcode⟩ := answer_eq_ok_iff.1 hanswer
  replace h := (remarks_bind output _ v).symm.trans h
  have hlogged := findGraph_logged settings.symbolGraphDir target v (remarks output)
  rcases Task.bind_cases h with ⟨found?, v', hfind, h⟩ | ⟨e, hfind, rfl⟩
  swap
  · obtain ⟨hfound, rfl⟩ := Prod.mk.inj (hlogged.symm.trans hfind)
    exact .unread hran hcode hfound
  obtain ⟨hfound, rfl⟩ := Prod.mk.inj (hlogged.symm.trans hfind)
  cases found? with
  | none =>
    cases h
    exact .without hran hcode hfound
  | some produced =>
    rcases Task.bind_cases h with ⟨_, w₂, hcopy, h⟩ | ⟨e, hcopy, rfl⟩
    · cases h
      exact .copied hran hcode hfound hcopy
    · exact .uncopied hran hcode hfound hcopy

end Export

end SurfaceGuard
