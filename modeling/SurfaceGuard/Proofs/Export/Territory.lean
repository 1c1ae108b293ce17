import SurfaceGuard.Proofs.Config
import SurfaceGuard.Proofs.Export.Course

/-!
# Where an export changes files

An export changes files by itself before its command, when it renews the directory of its target,
and after it, when it makes the copy (`OwnChanges`).  The name of the target is put into both
paths as it is.  So the directory is below the output directory, wherever that is, exactly for the
targets that lead below every directory (`LeadsBelow`), as names do; the copy is below it as well
then, and the directories of two such targets have something in common if and only if the one is
on the way to the other (`export_changes`).

Any other target leads out of some output directory or to itself, and then the export removes what
is there (`export_clears_above`).
-/

namespace SurfaceGuard.Export

open SurfaceGuard.Path

variable {launch : Launcher} {settings : Settings} {target : Text} {w w' : World}

/-- What an export changes by itself: a location is renewed, as far as that goes, and if the
command is run then, at most what is at another location changes after it. -/
inductive OwnChanges (own copy : Location) (run : World → World) (w : World) : World → Prop
  | before {u : World} (h : Renews w.files own u.files) : OwnChanges own copy run w u
  | after {u w' : World} (h : Renews w.files own u.files)
    (hcopy : ∀ other ≠ copy, w'.files.face? other = (run u).files.face? other) :
    OwnChanges own copy run w w'

/-- The run of the command of an export. -/
def commandOf (launch : Launcher) (settings : Settings) (u : World) : World :=
  (launch settings.command settings.cwd settings.timeoutMs (u.logged [announcement settings])).2

theorem Ran.commandOf_eq {u v : World} {end_ : Except Text ExecOutput}
    (h : Ran launch settings target w u end_ v) : commandOf launch settings u = v := by
  rw [commandOf, h.run]

/-- From an absolute output directory, an export changes by itself what is at two locations at
most. -/
theorem ownChanges_of_byCommand (habsolute : isAbsolute settings.outputDir = true)
    (hw : w.files.WellNamed) {r : Except Thrown Text}
    (h : byCommand launch settings target w = (r, w')) :
    OwnChanges (ownLocation w.directory settings target) (copyLocation w.directory settings target)
      (commandOf launch settings) w w' := by
  have hrenews : ∀ {u r}, prepare settings target w = (r, u) →
      Renews w.files (ownLocation w.directory settings target) u.files :=
    fun hprepare => (renews_of_prepare hw hprepare).2
  have hcopy : isAbsolute (copyPath settings target) = true :=
    isAbsolute_join (isAbsolute_join habsolute target) _
  cases course_byCommand h with
  | unprepared hprepare => exact .before (hrenews hprepare)
  | failed hran hanswer =>
    exact .after (hrenews hran.prepared) fun other _ => by rw [hran.commandOf_eq]
  | unread hran _ _ =>
    exact .after (hrenews hran.prepared) fun other _ => by rw [hran.commandOf_eq]; rfl
  | without hran _ _ =>
    exact .after (hrenews hran.prepared) fun other _ => by rw [hran.commandOf_eq]; rfl
  | @uncopied u v w' output produced e hran _ _ hcopied =>
    refine .after (hrenews hran.prepared) fun other hother => ?_
    rw [hran.commandOf_eq]
    refine Task.face?_of_copyFile hcopied ?_
    rwa [destination_eq_of_isAbsolute hcopy _ w.directory]
  | @copied u v w' output produced hran _ _ hcopied =>
    refine .after (hrenews hran.prepared) fun other hother => ?_
    rw [hran.commandOf_eq]
    refine Task.face?_of_copyFile hcopied ?_
    rwa [destination_eq_of_isAbsolute hcopy _ w.directory]

/-! ## Where the locations are -/

theorem ownLocation_eq (base : Place) (hdir : settings.outputDir ≠ []) (target : Text) :
    ownLocation base settings target
      = FileTree.arrive (directoryLocation base settings.outputDir)
        ((parts target).map Utf8.encode) :=
  destination_join_parts base hdir target

theorem copyLocation_eq (base : Place) (settings : Settings) (target : Text) :
    copyLocation base settings target = FileTree.arrive (ownLocation base settings target)
      ((parts (target ++ graphEnding)).map Utf8.encode) := by
  rw [ownLocation, destination_encode]
  exact destination_join_parts base (join_ne_nil _ _) _

/-- The copy for a target that leads below is below the directory of the target. -/
theorem own_prefix_copy (base : Place) (settings : Settings) (h : LeadsBelow target) :
    ownLocation base settings target <+: copyLocation base settings target := by
  rw [copyLocation_eq,
    (h.append (by decide) (isName_append_graphEnding (not_mem_leaf target))).arrive]
  exact List.prefix_append _ _

/-- The directory of a configuration is absolute. -/
theorem isAbsolute_outputDir {text source cwd : Text} {c : Config}
    (h : Config.parse text source cwd = .ok c) : isAbsolute c.outputDir = true := by
  obtain ⟨json, read, -, -, rfl⟩ := Config.parse_eq_ok_iff.1 h
  rfl

/-- Two locations have something below them in common if one is on the way to the other. -/
theorem exists_below_both_iff {loc loc' : Location} :
    (∃ other, loc <+: other ∧ loc' <+: other) ↔ loc <+: loc' ∨ loc' <+: loc := by
  constructor
  · rintro ⟨other, h, h'⟩
    exact List.prefix_or_prefix_of_prefix h h'
  · rintro (h | h)
    · exact ⟨loc', h, List.prefix_rfl⟩
    · exact ⟨loc, List.prefix_rfl, h⟩

/-- With an accepted configuration, and whatever the command does and however the export ends, an
export changes by itself at most what is at two locations: it renews that of the directory of its
target, and it makes the copy.  The first one is where the target leads from the output directory:
up as many directories as nothing in it takes back, and then down along its names.  It is below
the output directory, whatever that is, exactly for the targets that lead below, as names do; then
the copy is below it as well, and the directories of two such targets have something in common if
and only if the names of the one are the first names of the other. -/
theorem export_changes {text source cwd : Text} {c : Config}
    (hconfig : Config.parse text source cwd = .ok c) (launch : Launcher) (dir target : Text)
    {w : World} (hw : w.files.WellNamed) :
    let settings := Settings.ofConfig c dir
    let out := directoryLocation w.directory c.outputDir
    let own := ownLocation w.directory settings target
    (∀ r w', byCommand launch settings target w = (r, w') →
        OwnChanges own (copyLocation w.directory settings target) (commandOf launch settings) w w')
      ∧ own = out.take (out.length - climbs target) ++ (descent target).map Utf8.encode
      ∧ (LeadsBelow target ↔ ∀ outputDir, isAbsolute outputDir = true →
        directoryLocation w.directory outputDir
            <+: ownLocation w.directory { settings with outputDir } target
          ∧ ownLocation w.directory { settings with outputDir } target
            ≠ directoryLocation w.directory outputDir)
      ∧ (IsName target → LeadsBelow target)
      ∧ (LeadsBelow target → own <+: copyLocation w.directory settings target)
      ∧ ∀ target', LeadsBelow target → LeadsBelow target' →
        ((∃ loc, own <+: loc ∧ ownLocation w.directory settings target' <+: loc)
          ↔ (parts target).map Utf8.encode <+: (parts target').map Utf8.encode
            ∨ (parts target').map Utf8.encode <+: (parts target).map Utf8.encode) := by
  intro settings out own
  have habsolute : isAbsolute settings.outputDir = true := isAbsolute_outputDir hconfig
  have hne : ∀ {outputDir : Text}, isAbsolute outputDir = true → outputDir ≠ [] := by
    rintro outputDir h rfl
    cases h
  have hown : ∀ target, LeadsBelow target →
      ownLocation w.directory settings target = out ++ (parts target).map Utf8.encode := by
    intro target h
    rw [ownLocation_eq _ (hne habsolute), h.arrive]
    rfl
  refine ⟨fun r w' => ownChanges_of_byCommand habsolute hw, ?_, ?_, IsName.leadsBelow,
    own_prefix_copy _ _, ?_⟩
  · exact (ownLocation_eq _ (hne habsolute) target).trans (arrive_parts_eq out target)
  · rw [leadsBelow_iff w.directory]
    refine forall_congr' fun outputDir => forall_congr' fun h => ?_
    rw [directoryLocation_below _ (hne h), ownLocation_eq _ (hne h)]
  · intro target' h h'
    rw [exists_below_both_iff, hown target' h', show own = _ from hown target h,
      List.prefix_append_right_inj, List.prefix_append_right_inj]

/-- For a target with a plain name, an export changes what is in a directory of that name and the
copy in it. -/
theorem export_changes_of_name :
    let w : World := .quiet .empty
    let own : Location := ["out", "A"]
    let copy : Location := ["out", "A", "A.symbols.json"]
    ∃ c, Config.parse "\x7b\"targets\": [\"A\"], \"outputDir\": \"out\"\x7d" "c.json" "/" = .ok c
      ∧ w.files.WellNamed
      ∧ ∀ launch r w', byCommand launch (Settings.ofConfig c "/") "A" w = (r, w') →
        OwnChanges own copy (commandOf launch (Settings.ofConfig c "/")) w w' := by
  intro w own copy
  let c : Config := ⟨["A"], .semver, "/api-baseline", "/out", false, Config.defaultCommand,
    "/.build/symbol-graphs", Number.ofNat 600000⟩
  have hconfig : Config.parse "\x7b\"targets\": [\"A\"], \"outputDir\": \"out\"\x7d" "c.json" "/"
      = .ok c := eq_ok_of_toOption (by decide +kernel)
  refine ⟨c, hconfig, FileTree.wellNamed_empty, fun launch r w' h => ?_⟩
  have hchanges := (export_changes hconfig launch "/" "A" FileTree.wellNamed_empty).1 r w' h
  have hown : ownLocation w.directory (Settings.ofConfig c "/") "A" = own := by decide +kernel
  have hcopy : copyLocation w.directory (Settings.ofConfig c "/") "A" = copy := by decide +kernel
  rwa [hown, hcopy] at hchanges

/-- The export of a target that leads out of the output directory removes a file beside that
directory, although its command cannot even be started. -/
theorem export_clears_above :
    let keep : Location := ["work", "keep.txt"]
    let work : Node := .directory ⟨1, 0o755, 0⟩ [("keep.txt", .file ⟨2, 0o644, 0⟩ "mine")]
    let w : World := .quiet ⟨.directory ⟨0, 0o755, 0⟩ [("work", work)], 3⟩
    ∃ c, Config.parse "\x7b\"targets\": [\"..\"], \"outputDir\": \"/work/out\"\x7d" "c.json" "/"
        = .ok c
      ∧ (".." : Text) ∈ c.targets
      ∧ ¬directoryLocation w.directory c.outputDir <+: keep
      ∧ w.files.content? keep = some "mine"
      ∧ (byCommand Launcher.none (Settings.ofConfig c "/") ".." w).2.files.content? keep
        = none := by
  intro keep work w
  let c : Config := ⟨[".."], .semver, "/api-baseline", "/work/out", false, Config.defaultCommand,
    "/.build/symbol-graphs", Number.ofNat 600000⟩
  exact ⟨c, eq_ok_of_toOption (by decide +kernel), List.mem_singleton_self _, by decide +kernel,
    by decide +kernel, by decide +kernel⟩

end SurfaceGuard.Export
