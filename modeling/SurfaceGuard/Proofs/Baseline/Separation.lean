import SurfaceGuard.Proofs.Baseline.Access

/-!
# Which baselines are apart

The name of a target is put into a path as it is, and the path is normalised.  So a target may
lead out of the directory of the baselines, two targets may have one path
(`Baseline.path_eq_iff`), and the temporary file of a target with a separator is somewhere else
than its baseline (`Baseline.directory_temporaryPath_eq_iff`).  A baseline can be lost that way
(`Baseline.baselines_taken`).

Targets that lead down at every step, as names do, have paths of their own
(`Baseline.path_eq_iff_of_leadsDown`).  Storing a baseline never touches one at another place
(`Baseline.load_of_save`); two such targets have one place only if they have the same bytes, as
those have that differ in a lone surrogate.
-/

namespace SurfaceGuard

namespace Path

/-- The segments that lead to the last one in the normal form of a path, with the root before them
if the path starts there. -/
def folder (p : Text) : List Text := (if isAbsolute p then [[]] else []) ++ way p

variable {p q : Text}

theorem segments_normalize_append (hq : separator ∉ q) (hname : IsName (leaf (p ++ q))) :
    segments (normalize (p ++ q)) = folder p ++ [leaf p ++ q] := by
  rw [segments_normalize hname, isAbsolute_append hq, way_append hq, leaf_append hq, folder,
    List.append_assoc]

theorem LeadsDown.folder_below (h : LeadsDown p) (dir : Text) :
    folder (below dir p)
      = (if Path.isAbsolute dir then [[]] else []) ++ reduce dir ++ directory p := by
  rw [folder, h.isAbsolute_below, h.way_below, List.append_assoc]

/-- A point at the start is put before the first segment. -/
theorem directory_point (p : Text) : directory (("." : Text) ++ p) = match directory p with
    | [] => []
    | s :: rest => (("." : Text) ++ s) :: rest := by
  have hpoint : ∀ t : Text, ("." : Text) ++ t = 0x2E :: t := fun t => rfl
  have hne : (0x2E : CodeUnit) ≠ separator := by decide
  have hsegments := segments_eq p
  rw [hpoint]
  cases hdirectory : directory p with
  | nil =>
    rw [hdirectory] at hsegments
    exact directory_eq (segments_cons hne hsegments)
  | cons s rest =>
    rw [hdirectory] at hsegments
    exact directory_eq (segments_cons hne hsegments)

theorem LeadsDown.point (h : LeadsDown p) : LeadsDown (("." : Text) ++ p) := by
  have hname : ∀ s, IsName s → IsName (("." : Text) ++ s) := by
    intro s hs
    refine ⟨List.cons_ne_nil _ _, fun heq => hs.ne_nil ?_, fun heq => hs.ne_here ?_, ?_⟩
    · exact (List.cons.inj heq).2
    · exact (List.cons.inj heq).2
    · exact fun hmem => (List.mem_cons.1 hmem).elim (by decide) hs.no_separator
  unfold LeadsDown at h ⊢
  rw [directory_point]
  cases hdirectory : directory p with
  | nil => exact List.forall_mem_nil _
  | cons s rest =>
    rw [hdirectory] at h
    obtain ⟨hs, hrest⟩ := List.forall_mem_cons.1 h
    exact List.forall_mem_cons.2 ⟨hname s hs, hrest⟩

theorem directory_eq_nil_iff : directory p = [] ↔ separator ∉ p := by
  constructor
  · intro h hmem
    obtain ⟨s, t, rfl⟩ := List.append_of_mem hmem
    have hsegments := segments_append_cons s t
    rw [segments_eq t, ← List.append_assoc] at hsegments
    rw [directory_eq hsegments] at h
    exact segments_ne_nil s (List.append_eq_nil_iff.1 h).1
  · exact directory_of_not_mem

end Path

namespace Baseline

variable {dir target other : Text} {w : World}

/-! ## Paths -/

theorem segments_path (dir target : Text) :
    Path.segments (path dir target)
      = Path.folder (Path.below dir target) ++ [Path.leaf target ++ ".json"] := by
  rw [path_eq, Path.segments_normalize_append (by decide) (isName_leaf_path dir target),
    Path.leaf_below]

/-- Two targets have one path exactly if they lead to one directory and have one last segment. -/
theorem path_eq_iff : path dir target = path dir other ↔
    Path.folder (Path.below dir target) = Path.folder (Path.below dir other)
      ∧ Path.leaf target = Path.leaf other := by
  constructor
  · intro h
    have hsegments := congrArg Path.segments h
    rw [segments_path, segments_path] at hsegments
    obtain ⟨hfolder, hleaf⟩ := List.append_inj' hsegments rfl
    exact ⟨hfolder, List.append_cancel_right (List.singleton_inj.1 hleaf)⟩
  · rintro ⟨hfolder, hleaf⟩
    refine Path.segments_injective ?_
    rw [segments_path, segments_path, hfolder, hleaf]

example : path "d" "./A" = path "d" "A" ∧ path "d" "x/../A" = path "d" "A" := by decide

/-- Targets that lead down have paths of their own. -/
theorem path_eq_iff_of_leadsDown (h : Path.LeadsDown target) (h' : Path.LeadsDown other) :
    path dir target = path dir other ↔ target = other := by
  rw [path_eq_iff, h.folder_below, h'.folder_below, List.append_cancel_left_eq]
  constructor
  · rintro ⟨hdirectory, hleaf⟩
    refine Path.segments_injective ?_
    rw [Path.segments_eq, Path.segments_eq other, hdirectory, hleaf]
  · rintro rfl
    exact ⟨rfl, rfl⟩

/-- The temporary file is beside the baseline exactly if the point before the name of the target
changes nothing about the directory. -/
theorem directory_temporaryPath_eq_iff {processId : Nat} {clock : Number} :
    Path.directory (temporaryPath dir target processId clock) = Path.directory (path dir target) ↔
      Path.folder (Path.below dir (("." : Text) ++ target))
        = Path.folder (Path.below dir target) := by
  have htemporary := Path.segments_normalize_append (not_mem_temporaryEnding processId clock)
    (isName_leaf_temporaryPath dir target processId clock)
  rw [temporaryPath_eq, Path.directory_eq htemporary, Path.directory_eq (segments_path dir target)]

example : Path.directory (temporaryPath "d" "a/b" 1 (.zero false)) = ["d", ".a"]
    ∧ Path.directory (path "d" "a/b") = ["d", "a"] := by
  decide

/-- So it is for a target that leads down exactly if it is a name. -/
theorem directory_temporaryPath_eq_iff_of_leadsDown {processId : Nat} {clock : Number}
    (h : Path.LeadsDown target) :
    Path.directory (temporaryPath dir target processId clock) = Path.directory (path dir target) ↔
      Path.separator ∉ target := by
  rw [directory_temporaryPath_eq_iff, h.point.folder_below, h.folder_below,
    List.append_cancel_left_eq, Path.directory_point, ← Path.directory_eq_nil_iff]
  cases Path.directory target with
  | nil => exact iff_of_true rfl rfl
  | cons s rest =>
    refine iff_of_false (fun heq => ?_) (List.cons_ne_nil _ _)
    have hlength := congrArg List.length (List.cons.inj heq).1
    simp [Text.ofString, Text.ofScalar] at hlength

/-! ## Places -/

theorem splitOn_encode_inj {x y : Text} :
    Ascii.splitOn FileTree.separator (Utf8.encode x)
      = Ascii.splitOn FileTree.separator (Utf8.encode y) ↔ Utf8.encode x = Utf8.encode y := by
  rw [Ascii.splitOn_eq, Ascii.splitOn_eq]
  exact ⟨splitOn_inj, congrArg _⟩

theorem place_of_leadsDown (h : Path.LeadsDown target) (dir : Text) (w : World) :
    place dir target w = directoryLocation w.directory dir
      ++ Ascii.splitOn FileTree.separator (Utf8.encode (fileName target)) := by
  have hdown : Path.LeadsDown (fileName target) := by
    unfold Path.LeadsDown fileName
    rw [Path.directory_append (by decide)]
    exact h
  have hname : Path.IsName (Path.leaf (fileName target)) := isName_leaf_path [] target
  rw [place, path_eq_join, hdown.destination_join hname, show FileTree.separator
    = Path.separator.toUInt8 from by decide, Utf8.splitOn_encode _ (by decide)]
  rfl

/-- Two targets that lead down have one place exactly if they have the same bytes. -/
theorem place_eq_iff_of_leadsDown (h : Path.LeadsDown target) (h' : Path.LeadsDown other) :
    place dir target w = place dir other w ↔ Utf8.encode target = Utf8.encode other := by
  rw [place_of_leadsDown h, place_of_leadsDown h', List.append_cancel_left_eq, splitOn_encode_inj,
    encode_fileName_eq_iff]

/-- Below the root the path of a baseline says where it is. -/
theorem splitOn_encode_path (h : Path.isAbsolute dir = true) (target : Text) (w : World) :
    Ascii.splitOn FileTree.separator (Utf8.encode (path dir target))
      = [] :: place dir target w := by
  have habsolute : Path.isAbsolute (Path.below dir target ++ ".json") = true := by
    rw [Path.isAbsolute_append (by decide)]
    cases dir with
    | nil => cases h
    | cons u dir => exact h
  have hnames : ∀ x ∈ Path.way (Path.below dir target ++ ".json"), Path.IsName x :=
    Path.isName_of_mem_reduceFrom habsolute (List.forall_mem_nil _)
      fun _ => Path.not_mem_of_mem_directory
  rw [place, path_eq, Path.destination_normalize _ (isName_leaf_path dir target),
    Path.splitOn_encode_normalize (isName_leaf_path dir target), if_pos habsolute,
    if_pos habsolute, Path.arrive_names _ hnames, List.map_append, List.nil_append]
  rfl

/-- Below the root, two targets have one place exactly if their paths have the same bytes. -/
theorem place_eq_iff_of_isAbsolute (h : Path.isAbsolute dir = true) :
    place dir target w = place dir other w ↔
      Utf8.encode (path dir target) = Utf8.encode (path dir other) := by
  rw [← splitOn_encode_inj, splitOn_encode_path h target w, splitOn_encode_path h other w,
    List.cons_inj_right]

/-! ## Apart and shared -/

/-- Targets with one path share what is stored there. -/
theorem load_ok_iff_of_path_eq (h : path dir target = path dir other) (stored : Snapshot) :
    (load dir target w).1 = .ok stored ↔ (load dir other w).1 = .ok stored := by
  have hthere : there? dir target w = there? dir other w := by rw [there?, there?, h]
  rw [load_eq, load_eq, hthere, h]
  cases (there? dir other w).filter fun _ => !(path dir other).contains 0 with
  | none =>
    refine iff_of_false ?_ ?_ <;>
    · intro hload
      cases hload
  | some n => exact Iff.rfl

/-- Two targets have one path exactly if they lead to one directory and have one last segment, and
then share what is stored there; a temporary file is beside its baseline exactly if the point
before the name of the target changes nothing about the directory.  For targets that lead down at
every step this means that they are the same, and that the target is a name.

Storing a baseline loses none that can be loaded from another place.  Targets that lead down have
one place exactly if they have the same bytes, and all targets have below the root exactly if
their paths have the same bytes. -/
theorem baselines_apart (dir : Text) :
    (∀ target other, (path dir target = path dir other ↔
        Path.folder (Path.below dir target) = Path.folder (Path.below dir other)
          ∧ Path.leaf target = Path.leaf other)
      ∧ (path dir target = path dir other → ∀ w stored,
        (load dir target w).1 = .ok stored ↔ (load dir other w).1 = .ok stored))
    ∧ (∀ target processId clock,
      Path.directory (temporaryPath dir target processId clock)
          = Path.directory (path dir target) ↔
        Path.folder (Path.below dir (("." : Text) ++ target))
          = Path.folder (Path.below dir target))
    ∧ (∀ target, Path.LeadsDown target →
      (∀ processId clock, Path.directory (temporaryPath dir target processId clock)
          = Path.directory (path dir target) ↔ Path.separator ∉ target)
      ∧ ∀ other, Path.LeadsDown other →
        (path dir target = path dir other ↔ target = other)
        ∧ ∀ w, place dir target w = place dir other w ↔
          Utf8.encode target = Utf8.encode other)
    ∧ (Path.isAbsolute dir = true → ∀ target other w,
      place dir target w = place dir other w ↔
        Utf8.encode (path dir target) = Utf8.encode (path dir other))
    ∧ ∀ s file w w', save s dir w = (.ok file, w') → ∀ other stored,
      place dir other w ≠ place dir s.target w → (load dir other w).1 = .ok stored →
        (load dir other w').1 = .ok stored := by
  refine ⟨fun target other => ⟨path_eq_iff, fun h w => load_ok_iff_of_path_eq h⟩, ?_, ?_, ?_, ?_⟩
  · exact fun target processId clock => directory_temporaryPath_eq_iff
  · exact fun target h => ⟨fun _ _ => directory_temporaryPath_eq_iff_of_leadsDown h,
      fun other h' => ⟨path_eq_iff_of_leadsDown h h', fun _ => place_eq_iff_of_leadsDown h h'⟩⟩
  · exact fun h target other w => place_eq_iff_of_isAbsolute h
  · exact fun s file w w' h other stored => load_of_save h

/-- The baseline of a target stays when that of another name is stored. -/
theorem baselines_apart_of_names :
    let content : Bytes := encode ⟨"B", "t", .ofList [("s:f", "func f")]⟩
    let dir : Node := .directory ⟨1, 0o755, 0⟩ [("B.json", .file ⟨2, 0o644, 0⟩ content)]
    let w : World := .quiet ⟨.directory ⟨0, 0o755, 0⟩ [("d", dir)], 3⟩
    let s : Snapshot := ⟨"A", "t", .empty⟩
    ∃ file w' stored, save s "d" w = (.ok file, w') ∧ (load "d" "B" w).1 = .ok stored
      ∧ place "d" "B" w ≠ place "d" "A" w ∧ (load "d" "B" w').1 = .ok stored := by
  intro content dir w s
  have hload := eq_ok_getD (show (load "d" "B" w).1.toOption.isSome = true by decide +kernel) s
  have hsave := eq_ok_getD (show (save s "d" w).1.toOption.isSome = true by decide +kernel) []
  obtain ⟨-, -, hdown, -, hkept⟩ := baselines_apart "d"
  have hname : ∀ t ∈ ["A", "B"], Path.separator ∉ (t : Text) := by decide
  have hplace : place "d" "B" w ≠ place "d" "A" w := by
    have hB := Path.leadsDown_of_not_mem (hname "B" (by decide))
    have hA := Path.leadsDown_of_not_mem (hname "A" (by decide))
    rw [ne_eq, ((hdown "B" hB).2 "A" hA).2 w]
    decide
  exact ⟨_, _, _, Prod.ext hsave rfl, hload, hplace,
    hkept s _ w _ (Prod.ext hsave rfl) "B" _ hplace hload⟩

/-- A target that leads to the path of another one takes its baseline, and the temporary file of a
target with a separator is in another directory than its baseline. -/
theorem baselines_taken :
    let first : World := .quiet ⟨.directory ⟨0, 0o755, 0⟩ [], 1⟩
    let saved := save ⟨"A", "t", .empty⟩ "base" first
    let taken := save ⟨"./A", "t", .empty⟩ "base" saved.2
    saved.1.toOption = some "base/A.json" ∧ taken.1.toOption = some "base/A.json"
      ∧ (load "base" "A" saved.2).1.toOption.map Snapshot.target = some "A"
      ∧ (load "base" "A" taken.2).1.toOption.map Snapshot.target = some "./A"
      ∧ Path.directory (temporaryPath "base" "a/b" 1 (.zero false))
        ≠ Path.directory (path "base" "a/b") := by
  decide +kernel

end Baseline

end SurfaceGuard
