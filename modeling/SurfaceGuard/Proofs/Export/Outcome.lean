import SurfaceGuard.Proofs.Export.Course
import SurfaceGuard.Proofs.Process.Ends

/-!
# What an export leaves behind

Once its directory is prepared, nothing that was in it before is left, so whatever is there at the
end was made by this export.  If the command spares the directory, that is the copy of the graph
that was found after it, or nothing (`export_leaves`).

An export is unavailable whenever its command does not come to a good end, or there is no graph for
the target where graphs are looked for.  Something that is there and cannot be listed has no graphs
either, but then the error is that of the listing (`export_ends_unreported`).
-/

namespace SurfaceGuard.Export

variable {launch : Launcher} {settings : Settings} {target : Text} {w w' : World}

/-! ## What is found -/

/-- There is no graph of the target where graphs are looked for: nothing is there at all, or a
directory without names of graphs of the target. -/
def NoGraph (dir target : Text) (w : World) : Prop :=
  Task.pathExists dir w = (.ok false, w)
    ∨ Task.pathExists dir w = (.ok true, w) ∧ ∃ names, Task.listDirectory dir w = (.ok names, w)
      ∧ ∀ name ∈ names, isGraphName target name = false

theorem findGraph_of_noGraph {dir : Text} (h : NoGraph dir target w) :
    (findGraph dir target w).1 = .ok none := by
  rcases h with hmissing | ⟨hthere, names, hlist, hnames⟩
  · exact congrArg Prod.fst (Task.bind_of_ok hmissing)
  · have hnone : names.filter (isGraphName target) = [] :=
      List.filter_eq_nil_iff.2 fun name hname => Bool.eq_false_iff.1 (hnames name hname)
    have hread : findGraph dir target w
        = (stampAll ((names.filter (isGraphName target)).map (Path.join dir)) >>= fun files =>
          pure (newest? files)) w := (Task.bind_of_ok hthere).trans (Task.bind_of_ok hlist)
    rw [hread, hnone]
    rfl

/-! ## What is left -/

/-- A directory is at the location, and all there is in it is a file with a name and a content. -/
structure HoldsOnly (t : FileTree) (loc : Location) (name content : Bytes) : Prop where
  directory : t.DirectoryAt loc
  file : t.content? (loc ++ [name]) = some content
  rest : ∀ other, loc <+: other → other ≠ loc → other ≠ loc ++ [name] → t.face? other = none

/-- No command changes the directory that was prepared for it, or anything in it. -/
def Spares (launch : Launcher) (settings : Settings) (target : Text) (w : World) : Prop :=
  ∀ u end_ v, Ran launch settings target w u end_ v →
    ∀ other, ownLocation w.directory settings target <+: other →
      v.files.face? other = u.files.face? other

theorem Spares.isEmptyAt (h : Spares launch settings target w) {u v : World}
    {end_ : Except Text ExecOutput} (hran : Ran launch settings target w u end_ v) :
    IsEmptyAt v.files (ownLocation w.directory settings target) := by
  obtain ⟨⟨a, ha⟩, hbelow⟩ := (isEmptyAt_of_prepare hran.prepared).2
  refine ⟨⟨a, ?_⟩, fun other hp hne => ?_⟩
  · rw [h u end_ v hran _ List.prefix_rfl, ha]
  · rw [h u end_ v hran other hp, hbelow other hp hne]

/-- What an export leaves behind that has run its command, by the end of the command and the world
after it. -/
structure Leaves (settings : Settings) (target : Text) (own : Location)
    (end_ : Except Text ExecOutput) (v : World) (r : Except Thrown Text) (w' : World) : Prop where
  /-- A path is returned after a good end; it is that of the copy, which is all there is. -/
  returned : ∀ p, r = .ok p → EndsWell end_ ∧ p = copyPath settings target
    ∧ ∃ produced content, (findGraph settings.symbolGraphDir target v).1 = .ok (some produced)
      ∧ v.files.content? (FileTree.destination v.directory (Utf8.encode produced)) = some content
      ∧ HoldsOnly w'.files own (Utf8.encode (target ++ graphEnding)) content
  /-- Without a good end or a graph, the export is unavailable and nothing is left. -/
  unavailable : ¬EndsWell end_ ∨ NoGraph settings.symbolGraphDir target v →
    (∃ reason output, r = .error (.guard (.exportUnavailable target reason output)))
      ∧ IsEmptyAt w'.files own
  /-- After a search that fails, nothing is left either. -/
  unread : EndsWell end_ → ∀ e, (findGraph settings.symbolGraphDir target v).1 = .error e →
    r = .error e ∧ IsEmptyAt w'.files own
  /-- Nothing is left in any case but what is at the place of the copy. -/
  rest : ∀ other, own <+: other → other ≠ own →
    other ≠ own ++ [Utf8.encode (target ++ graphEnding)] → w'.files.face? other = none

/-- The copy for a target is directly in the directory of the target. -/
theorem copyLocation_of_not_mem (base : Place) (settings : Settings)
    (hsep : Path.separator ∉ target) : copyLocation base settings target
      = ownLocation base settings target ++ [Utf8.encode (target ++ graphEnding)] := by
  rw [copyLocation, copyPath, Path.destination_join base _ (isName_append_graphEnding hsep),
    ← Path.destination_encode]
  rfl

theorem answer_error {end_ : Except Text ExecOutput} {e : Thrown}
    (h : answer settings target end_ = .error e) :
    ∃ reason output, e = .guard (.exportUnavailable target reason output) := by
  cases end_ with
  | ok output =>
    rw [answer] at h
    split at h
    · cases h
    · cases h
      exact ⟨_, _, rfl⟩
  | error message =>
    cases h
    exact ⟨_, _, rfl⟩

/-- What an export leaves that fails without a copy. -/
theorem Leaves.of_isEmptyAt {own : Location} {end_ : Except Text ExecOutput} {v : World}
    {e : Thrown}
    (hempty : IsEmptyAt w'.files own)
    (hunavailable : ¬EndsWell end_ ∨ NoGraph settings.symbolGraphDir target v →
      ∃ reason output, e = .guard (.exportUnavailable target reason output))
    (hunread : EndsWell end_ → ∀ e', (findGraph settings.symbolGraphDir target v).1 = .error e' →
      e = e') : Leaves settings target own end_ v (.error e) w' where
  returned := nofun
  unavailable h := by
    obtain ⟨reason, output, rfl⟩ := hunavailable h
    exact ⟨⟨reason, output, rfl⟩, hempty⟩
  unread hgood e' he' := ⟨congrArg _ (hunread hgood e' he'), hempty⟩
  rest other hp hne _ := hempty.below other hp hne

/-- What an export leaves whose command came to a good end, after which a graph was found: it is as
the copying leaves it. -/
theorem Leaves.of_found {own : Location} {output : ExecOutput} {v : World} {produced : Text}
    {r : Except Thrown Text} (hcode : output.exitCode = 0)
    (hfound : (findGraph settings.symbolGraphDir target v).1 = .ok (some produced))
    (hreturned : ∀ p, r = .ok p → p = copyPath settings target
      ∧ ∃ content, v.files.content? (FileTree.destination v.directory (Utf8.encode produced))
          = some content
        ∧ HoldsOnly w'.files own (Utf8.encode (target ++ graphEnding)) content)
    (hrest : ∀ other, own <+: other → other ≠ own →
      other ≠ own ++ [Utf8.encode (target ++ graphEnding)] → w'.files.face? other = none) :
    Leaves settings target own (.ok output) v r w' where
  returned p hp := by
    obtain ⟨hpath, content, hcontent, hholds⟩ := hreturned p hp
    exact ⟨⟨output, rfl, hcode⟩, hpath, produced, content, hfound, hcontent, hholds⟩
  unavailable h := by
    rcases h with hbad | hnone
    · exact absurd ⟨output, rfl, hcode⟩ hbad
    · rw [findGraph_of_noGraph hnone] at hfound
      cases hfound
  unread _ e he := by
    rw [hfound] at he
    cases he
  rest := hrest

/-- Copying to an empty directory leaves nothing else in it, and it leaves the copy if it
succeeds. -/
theorem holdsOnly_of_copyFile {source copy : Text} {r : Except Thrown Unit} {own : Location}
    {name : Bytes} (h : Task.copyFile source copy w = (r, w')) (hempty : IsEmptyAt w.files own)
    (hcopy : FileTree.destination w.directory (Utf8.encode copy) = own ++ [name]) :
    (∀ other, own <+: other → other ≠ own → other ≠ own ++ [name] → w'.files.face? other = none)
      ∧ (r = .ok () → ∃ content,
        w.files.content? (FileTree.destination w.directory (Utf8.encode source)) = some content
          ∧ HoldsOnly w'.files own name content) := by
  have hne : own ++ [name] ≠ own := by simp
  have hrest : ∀ other, own <+: other → other ≠ own → other ≠ own ++ [name] →
      w'.files.face? other = none := by
    intro other hp hother hcopied
    rw [Task.face?_of_copyFile h (hcopy ▸ hcopied)]
    exact hempty.below other hp hother
  refine ⟨hrest, ?_⟩
  rintro rfl
  obtain ⟨-, ⟨-, time, hcopied⟩ | ⟨e, herror, -⟩⟩ := Task.copyFile_cases h
  · have hfree : w.files.face? (FileTree.destination w.directory (Utf8.encode copy)) = none := by
      rw [hcopy]
      exact hempty.below _ (List.prefix_append _ _) hne
    obtain ⟨a, content, hsource, hcontent⟩ := FileTree.copyFile_ok hcopied hfree
    obtain ⟨a', ha'⟩ := hempty.directory
    refine ⟨content, hsource, ⟨a', ?_⟩, ?_, hrest⟩
    · rw [Task.face?_of_copyFile h (hcopy ▸ hne.symm), ha']
    · rw [FileTree.content?_eq, ← hcopy, hcontent]
      rfl
  · cases herror

/-- Whichever way an export goes that prepares its directory, it leaves what it should. -/
theorem Course.leaves {r : Except Thrown Text} (h : Course launch settings target w r w')
    (hlaunch : launch.IsConfined) (hsep : Path.separator ∉ target)
    (hspares : Spares launch settings target w) :
    (∃ e, prepare settings target w = (.error e, w') ∧ r = .error e)
      ∨ ∃ u end_ v, Ran launch settings target w u end_ v
        ∧ Leaves settings target (ownLocation w.directory settings target) end_ v r w' := by
  have hcopy : ∀ {u end_ v}, Ran launch settings target w u end_ v →
      FileTree.destination v.directory (Utf8.encode (copyPath settings target))
        = ownLocation w.directory settings target ++ [Utf8.encode (target ++ graphEnding)] := by
    intro u end_ v hran
    rw [hran.directory hlaunch]
    exact copyLocation_of_not_mem w.directory settings hsep
  cases h with
  | unprepared hprepare => exact Or.inl ⟨_, hprepare, rfl⟩
  | failed hran hanswer =>
    have hempty := hspares.isEmptyAt hran
    refine Or.inr ⟨_, _, _, hran, .of_isEmptyAt hempty (fun _ => answer_error hanswer) ?_⟩
    rintro ⟨output, rfl, hcode⟩
    cases (answer_eq_ok_iff.2 ⟨rfl, hcode⟩).symm.trans hanswer
  | unread hran hcode hfound =>
    have hempty := hspares.isEmptyAt hran
    refine Or.inr ⟨_, _, _, hran, .of_isEmptyAt hempty ?_ fun _ e' he' => ?_⟩
    · rintro (hbad | hnone)
      · exact absurd ⟨_, rfl, hcode⟩ hbad
      · cases (findGraph_of_noGraph hnone).symm.trans hfound
    · cases hfound.symm.trans he'
      rfl
  | without hran hcode hfound =>
    have hempty := hspares.isEmptyAt hran
    refine Or.inr ⟨_, _, _, hran, .of_isEmptyAt hempty (fun _ => ⟨_, _, rfl⟩) fun _ e' he' => ?_⟩
    cases hfound.symm.trans he'
  | uncopied hran hcode hfound hcopied =>
    have hempty := hspares.isEmptyAt hran
    have hplace := hcopy hran
    obtain ⟨hrest, -⟩ := holdsOnly_of_copyFile hcopied hempty hplace
    exact Or.inr ⟨_, _, _, hran, .of_found hcode hfound nofun hrest⟩
  | copied hran hcode hfound hcopied =>
    have hempty := hspares.isEmptyAt hran
    have hplace := hcopy hran
    obtain ⟨hrest, hholds⟩ := holdsOnly_of_copyFile hcopied hempty hplace
    refine Or.inr ⟨_, _, _, hran, .of_found hcode hfound ?_ hrest⟩
    rintro p ⟨⟩
    exact ⟨rfl, hholds rfl⟩

/-- For a target without separators and a command that spares the directory that was prepared for
it, an export either fails to prepare the directory, or the command is run once the directory is
there and empty.  Then a path is returned only if the command comes to a good end, and the
directory holds the copy of the graph that was found after that, and nothing else.  Whenever the
command does not come to a good end or there is no graph for the target, the export is unavailable
and the directory is there and empty. -/
theorem export_leaves (hlaunch : launch.IsConfined) (hsep : Path.separator ∉ target)
    (hspares : Spares launch settings target w) {r : Except Thrown Text}
    (h : byCommand launch settings target w = (r, w')) :
    let own := ownLocation w.directory settings target
    (Path.IsName target →
        own = directoryLocation w.directory settings.outputDir ++ [Utf8.encode target])
      ∧ ((∃ e, prepare settings target w = (.error e, w') ∧ r = .error e)
        ∨ ∃ u end_ v, Ran launch settings target w u end_ v ∧ IsEmptyAt u.files own
          ∧ (∀ pace, launch = Launch.launcher pace → (EndsWell end_ ↔ Launch.ClosesWell pace
            settings.command settings.cwd settings.timeoutMs (u.logged [announcement settings])))
          ∧ Leaves settings target own end_ v r w') := by
  intro own
  refine ⟨Path.destination_join w.directory settings.outputDir, ?_⟩
  rcases (course_byCommand h).leaves hlaunch hsep hspares with
    hunprepared | ⟨u, end_, v, hran, hleaves⟩
  · exact Or.inl hunprepared
  · refine Or.inr ⟨u, end_, v, hran, (isEmptyAt_of_prepare hran.prepared).2, ?_, hleaves⟩
    rintro pace rfl
    rw [← Launch.endsWell_iff, hran.run]

/-- Where a directory holds something of an earlier export, it holds nothing but the new graph after
the next one. -/
theorem export_leaves_of_graph :
    let file (serial : Nat) (content : Bytes) : Node := .file ⟨serial, 0o644, 0⟩ content
    let folder (serial : Nat) (entries : List (Bytes × Node)) : Node :=
      .directory ⟨serial, 0o755, 0⟩ entries
    let w : World := .quiet ⟨folder 0 [("graphs", folder 1 [("A.symbols.json", file 2 "new")]),
      ("out", folder 3 [("A", folder 4 [("A.json", file 5 "old")])])], 6⟩
    let launch : Launcher := fun _ _ _ w => (.ok ⟨0, [], []⟩, w)
    let settings : Settings := ⟨"/", ["true"], "/graphs", "/out", Number.ofNat 60000⟩
    launch.IsConfined ∧ Path.separator ∉ ("A" : Text) ∧ Spares launch settings "A" w
      ∧ ∃ w' content, byCommand launch settings "A" w = (.ok "/out/A/A.symbols.json", w')
        ∧ HoldsOnly w'.files ["out", "A"] "A.symbols.json" content := by
  intro file folder w launch settings
  have hconfined : launch.IsConfined := ⟨fun _ _ _ w => ⟨w.toMachine, w.clock, rfl, id⟩⟩
  have hsep : Path.separator ∉ ("A" : Text) := by decide
  have hspares : Spares launch settings "A" w := by
    rintro u end_ v ⟨-, hrun⟩ other -
    cases hrun
    rfl
  have hpath : (byCommand launch settings "A" w).1 = .ok "/out/A/A.symbols.json" :=
    eq_ok_of_toOption (by decide +kernel)
  have hown : ownLocation w.directory settings "A" = ["out", "A"] := by decide +kernel
  have h := (Prod.mk.eta (p := byCommand launch settings "A" w)).symm
  rw [hpath] at h
  refine ⟨hconfined, hsep, hspares, ?_⟩
  rcases (export_leaves hconfined hsep hspares h).2 with
    ⟨e, -, herror⟩ | ⟨u, end_, v, -, -, -, hleaves⟩
  · cases herror
  · obtain ⟨-, -, produced, content, -, -, hholds⟩ := hleaves.returned _ rfl
    rw [hown] at hholds
    exact ⟨_, content, h, hholds⟩

/-- A file in the place of the directory of the graphs: there is no graph, the command comes to a
good end, and still the export is not reported as unavailable. -/
theorem export_ends_unreported :
    let w : World := .quiet ⟨.directory ⟨0, 0o755, 0⟩ [("graphs", .file ⟨1, 0o644, 0⟩ [])], 2⟩
    let launch : Launcher := fun _ _ _ w => (.ok ⟨0, [], []⟩, w)
    let settings : Settings := ⟨"/", ["true"], "/graphs", "/out", Number.ofNat 60000⟩
    launch.IsConfined ∧ Spares launch settings "A" w
      ∧ (∀ name, w.files.face? ["graphs", name] = none)
      ∧ (byCommand launch settings "A" w).1.mapError Thrown.describe
        = .error (.ok ⟨.unexpected, "ENOTDIR: not a directory, scandir '/graphs'"⟩) := by
  intro w launch settings
  refine ⟨⟨fun _ _ _ w => ⟨w.toMachine, w.clock, rfl, id⟩⟩, ?_, fun name => ?_, by decide +kernel⟩
  · rintro u end_ v ⟨-, hrun⟩ other -
    cases hrun
    rfl
  · have hfile : w.files.content? ["graphs"] = some [] := by decide +kernel
    have hnot : ¬w.files.DirectoryAt ["graphs"] := by
      rintro ⟨a, ha⟩
      rw [FileTree.content?_eq, ha] at hfile
      cases hfile
    exact FileTree.face?_eq_none_below hnot ⟨[name], rfl⟩ (by simp)

end SurfaceGuard.Export
