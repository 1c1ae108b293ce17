import SurfaceGuard.Proofs.Baseline.Store
import SurfaceGuard.Proofs.Host.Operations

/-!
# Loading and storing, as the files have it

Loading a baseline depends on the files only in what the path of the baseline leads to
(`load_eq`).  Storing one that succeeds makes directories and changes two entries: it puts the
content in the place of the baseline, and the temporary file is gone (`save_ok_cases`).  Nothing
else changes, so what was loaded before can be loaded after it wherever the path leads to another
place (`load_of_save`).

All of this is about any target, also one with separators in it.
-/

open SurfaceGuard.Task

namespace SurfaceGuard.Baseline

variable {dir target : Text} {w w' : World}

/-! ## Paths of baselines -/

theorem isName_leaf_path (dir target : Text) :
    Path.IsName (Path.leaf (Path.below dir target ++ ".json")) := by
  rw [Path.leaf_append (by decide)]
  refine Path.isName_of_length ?_ ?_
  · simp [Text.ofString, Text.ofScalar]
  · rw [List.mem_append, not_or]
    exact ⟨Path.not_mem_leaf _, by decide⟩

/-- The path of a baseline is the normal form of what is written. -/
theorem path_eq (dir target : Text) :
    path dir target = Path.normalize (Path.below dir target ++ ".json") := by
  rw [path, Path.join_eq _ (List.append_ne_nil_of_right_ne_nil _ (by decide)), Path.below_append]

/-- The path of a temporary file is the normal form of what is written. -/
theorem temporaryPath_eq (dir target : Text) (processId : Nat) (clock : Number) :
    temporaryPath dir target processId clock = Path.normalize
      (Path.below dir (("." : Text) ++ target) ++ 0x2E :: temporaryEnding processId clock) := by
  have hsome : temporaryName target processId clock ≠ [] := by
    rw [temporaryName_eq]
    exact List.append_ne_nil_of_right_ne_nil _ (List.cons_ne_nil _ _)
  rw [temporaryPath_eq_join, Path.join_eq _ hsome, temporaryName_eq, Path.below_append]

theorem not_mem_temporaryEnding (processId : Nat) (clock : Number) :
    Path.separator ∉ 0x2E :: temporaryEnding processId clock :=
  fun h => (ascii_temporaryEnding processId clock _ h).2 rfl

theorem isName_leaf_temporaryPath (dir target : Text) (processId : Nat) (clock : Number) :
    Path.IsName (Path.leaf
      (Path.below dir (("." : Text) ++ target) ++ 0x2E :: temporaryEnding processId clock)) := by
  have hending := not_mem_temporaryEnding processId clock
  rw [Path.leaf_append hending]
  refine Path.isName_of_length ?_ ?_
  · simp [temporaryEnding, Text.ofString, Text.ofScalar]
    omega
  · rw [List.mem_append, not_or]
    exact ⟨Path.not_mem_leaf _, hending⟩

theorem asksDirectory_path (dir target : Text) :
    FileTree.asksDirectory (Utf8.encode (path dir target)) = false := by
  rw [path_eq]
  exact Path.asksDirectory_normalize (isName_leaf_path dir target)

/-! ## Loading -/

theorem reads_load (dir target : Text) : Reads (load dir target) := by
  refine (reads_look _).bind fun isThere => ?_
  cases isThere
  · exact reads_fail _
  · exact (reads_readText _).bind fun _ => reads_ofGuard _

/-- A baseline that is not there is missing. -/
theorem load_of_absent (h : pathExists (path dir target) w = (.ok false, w)) :
    load dir target w = (.error (.guard (.baselineMissing target (path dir target))), w) := by
  refine (bind_of_ok h).trans ?_
  rfl

/-- A baseline that is there is read. -/
theorem load_of_present (h : pathExists (path dir target) w = (.ok true, w)) :
    load dir target w
      = (match w.files.readFile w.directory (Utf8.encode (path dir target)) with
        | .error e => .error (readError (path dir target) e)
        | .ok content => (decode (Utf8.decode content) (path dir target)).mapError .guard, w) := by
  have htext := readText_eq (not_contains_zero h) w
  cases hread : w.files.readFile w.directory (Utf8.encode (path dir target)) with
  | error e =>
    rw [hread] at htext
    exact (bind_of_ok h).trans (bind_of_error htext)
  | ok content =>
    rw [hread] at htext
    exact (bind_of_ok h).trans ((bind_of_ok htext).trans (ofGuard_eq ..))

/-- A baseline that can be read is what its text says. -/
theorem load_of_readable {content : Bytes} (h : pathExists (path dir target) w = (.ok true, w))
    (hread : w.files.readFile w.directory (Utf8.encode (path dir target)) = .ok content) :
    load dir target w
      = ((decode (Utf8.decode content) (path dir target)).mapError .guard, w) := by
  rw [load_of_present h, hread]

/-- What the path of a baseline leads to. -/
def there? (dir target : Text) (w : World) : Option Node :=
  (w.files.find w.directory (Utf8.encode (path dir target))).toOption.map fun s => s.node.face

/-- What is loaded depends on what the path of the baseline leads to. -/
theorem load_eq (dir target : Text) (w : World) :
    load dir target w
      = (match (there? dir target w).filter fun _ => !(path dir target).contains 0 with
        | none => .error (.guard (.baselineMissing target (path dir target)))
        | some n =>
          match n.reading with
          | .error e => .error (readError (path dir target) e)
          | .ok content =>
            (decode (Utf8.decode content) (path dir target)).mapError .guard, w) := by
  have hexists := pathExists_eq (path dir target) w
  have hread := @FileTree.readFile_eq w.files w.directory _ (asksDirectory_path dir target)
  unfold FileTree.hasPath at hexists
  unfold there?
  cases hfind : w.files.find w.directory (Utf8.encode (path dir target)) with
  | error e =>
    rw [hfind] at hexists
    exact load_of_absent (hexists.trans (by rw [Bool.and_false]))
  | ok s =>
    rw [hfind] at hexists hread
    have hface : s.node.face.reading = s.node.reading := s.node.reading_face
    cases hzero : (path dir target).contains 0 with
    | true => exact load_of_absent (hexists.trans (by rw [hzero]; rfl))
    | false =>
      have hreading : w.files.readFile w.directory (Utf8.encode (path dir target))
          = s.node.face.reading := hread.trans hface.symm
      rw [load_of_present (hexists.trans (by rw [hzero]; rfl)), hreading]
      rfl

theorem load_congr (h : there? dir target w' = there? dir target w) :
    (load dir target w').1 = (load dir target w).1 := by
  rw [load_eq, load_eq, h]

/-- What the path leads to is at its destination. -/
theorem face?_of_there {n : Node} (h : there? dir target w = some n) :
    w.files.face? (FileTree.destination w.directory (Utf8.encode (path dir target))) = some n := by
  unfold there? at h
  cases hfind : w.files.find w.directory (Utf8.encode (path dir target)) with
  | error e => rw [hfind] at h; cases h
  | ok s =>
    rw [hfind] at h
    obtain ⟨hhas, hloc⟩ := FileTree.find_spot hfind
    rw [← hloc, FileTree.face?, hhas.node?]
    exact h

/-- What the path leads to is still found where no directory is lost, if it stays where it is. -/
theorem there_of_keeps {n : Node} (h : there? dir target w = some n)
    (hdirectory : w'.directory = w.directory) (hkeeps : w.files.Keeps w'.files)
    (hface : w'.files.face? (FileTree.destination w.directory (Utf8.encode (path dir target)))
      = some n) : there? dir target w' = some n := by
  unfold there? at h
  cases hfind : w.files.find w.directory (Utf8.encode (path dir target)) with
  | error e => rw [hfind] at h; cases h
  | ok s =>
    obtain ⟨found, hlocate, -⟩ := exists_of_bind_ok hfind
    obtain ⟨found', hlocate'⟩ := FileTree.locate_of_keeps hkeeps hlocate
    rcases FileTree.find_of_locate hlocate' (asksDirectory_path dir target) with
      ⟨s', hfind'⟩ | ⟨-, hnone⟩
    · obtain ⟨hhas, hloc⟩ := FileTree.find_spot hfind'
      rw [← hloc, FileTree.face?, hhas.node?] at hface
      rw [there?, hdirectory, hfind']
      exact hface
    · rw [hface] at hnone
      cases hnone

/-! ## Storing -/

/-- Where the temporary file of a snapshot is written. -/
def temporaryPlace (s : Snapshot) (dir : Text) (w : World) : Location :=
  FileTree.destination w.directory
    (Utf8.encode (temporaryPath dir s.target w.processId w.clock))

/-- Where the baseline of a target is. -/
def place (dir target : Text) (w : World) : Location :=
  FileTree.destination w.directory (Utf8.encode (path dir target))

/-- Storing a baseline that succeeds makes the directory, writes the temporary file and renames
it. -/
theorem save_ok_steps {s : Snapshot} {file : Text} (h : save s dir w = (.ok file, w')) :
    file = path dir s.target ∧ w.Stays w' ∧ ∃ t u, w.files.Grows t
      ∧ (∃ time, t.writeFile w.directory
        (Utf8.encode (temporaryPath dir s.target w.processId w.clock)) (encode s) time = .ok u)
      ∧ ∃ time, u.rename w.directory (Utf8.encode (temporaryPath dir s.target w.processId w.clock))
        (Utf8.encode (path dir s.target)) time = .ok w'.files := by
  rcases bind_cases h with ⟨_, v, hmake, hrest⟩ | ⟨e, -, hr⟩
  · obtain ⟨hstays, ⟨-, time, hmade⟩ | ⟨e, he, -⟩⟩ := makeDirectories_cases hmake
    · rcases bind_cases hrest with ⟨temporary, x, htemporary, hrest⟩ | ⟨e, -, hr⟩
      · obtain ⟨hpath, rfl⟩ := Prod.mk.inj htemporary
        obtain rfl : temporaryPath dir s.target w.processId w.clock = temporary := by
          rw [← hstays.processId, ← hstays.clock]
          exact Except.ok.inj hpath
        obtain ⟨end_, x, hend⟩ : ∃ end_ x, replace (temporaryPath dir s.target w.processId w.clock)
          (path dir s.target) (encode s) v = (end_, x) := ⟨_, _, rfl⟩
        rw [bind_of_ok (outcome_eq hend)] at hrest
        obtain ⟨hstays', ⟨rfl, u, time', time'', hwrite, hrename⟩ | ⟨e, rfl, -⟩⟩ :=
          replace_cases hend
        · cases hrest
          rw [hstays.directory] at hwrite hrename
          exact ⟨rfl, hstays.trans hstays', _, u, FileTree.grows_makeDirectories hmade,
            ⟨time', hwrite⟩, time'', hrename⟩
        · rcases bind_cases hrest with ⟨_, _, -, hfail⟩ | ⟨e, -, hr⟩
          · cases hfail
          · cases hr
      · cases hr
    · cases he
  · cases hr

/-- No temporary file is in the place of a baseline. -/
theorem temporaryPlace_ne_place (s : Snapshot) (dir other : Text) (w : World) :
    temporaryPlace s dir w ≠ place dir other w := by
  intro h
  rw [temporaryPlace, place, temporaryPath_eq, path_eq,
    Path.destination_normalize _ (isName_leaf_temporaryPath ..),
    Path.destination_normalize _ (isName_leaf_path ..),
    Path.leaf_append (not_mem_temporaryEnding _ _),
    Path.leaf_append (by decide)] at h
  obtain ⟨-, hlast⟩ := List.append_inj' h rfl
  exact encode_temporaryEnding_ne _ _ _ _ (List.singleton_inj.1 hlast)

/-- What the files are after a baseline was stored: `made` are the files with the directory, and
`node` is in the place of the baseline now. -/
structure Stored (s : Snapshot) (dir : Text) (w : World) (made : FileTree) (node : Node)
    (w' : World) : Prop where
  stays : w.Stays w'
  grows : w.files.Grows made
  keeps : w.files.Keeps w'.files
  face? : ∀ loc, w'.files.face? loc = if loc = place dir s.target w then some node
    else if loc = temporaryPlace s dir w then none else made.face? loc
  /-- The content is stored, unless a device or a program is in the place of the temporary file. -/
  node : ((∀ n, made.face? (temporaryPlace s dir w) = some n → n.isOrdinary = true)
      ∧ ∃ a, node = .file a (encode s))
    ∨ node.isOrdinary = false ∧ made.face? (temporaryPlace s dir w) = some node

theorem save_ok_cases {s : Snapshot} {file : Text} (h : save s dir w = (.ok file, w')) :
    file = path dir s.target ∧ ∃ made node, Stored s dir w made node w' := by
  obtain ⟨hfile, hstays, t, u, hgrows, ⟨time, hwrite⟩, time', hrename⟩ := save_ok_steps h
  obtain ⟨n, hn, hput, hnode⟩ : ∃ n : Node, n.isDirectory = false
      ∧ t.Puts (temporaryPlace s dir w) (some n) u
      ∧ (((∀ n, t.face? (temporaryPlace s dir w) = some n → n.isOrdinary = true)
          ∧ ∃ a, n = .file a (encode s))
        ∨ n.isOrdinary = false ∧ t.face? (temporaryPlace s dir w) = some n) := by
    rcases FileTree.writeFile_cases hwrite with ⟨hordinary, a, hput⟩ | ⟨n, hspecial, hface, hput⟩
    · exact ⟨_, rfl, hput, Or.inl ⟨hordinary, a, rfl⟩⟩
    · refine ⟨n, ?_, hput, Or.inr ⟨hspecial, hface⟩⟩
      rcases Node.special_of_not_ordinary hspecial with ⟨a, name, rfl⟩ | ⟨a, kind, rfl⟩ <;> rfl
  have hthere : u.face? (temporaryPlace s dir w) = some n := by rw [hput.2, if_pos rfl]
  obtain ⟨v, hgone, hplaced⟩ := FileTree.puts_rename hrename hthere hn
  refine ⟨hfile, t, n, hstays, hgrows, ?_, fun loc => ?_, hnode⟩
  · exact ((hgrows.keeps.trans hput.keeps).trans hgone.keeps).trans hplaced.keeps
  · rw [hplaced.2, hgone.2, hput.2]
    unfold place temporaryPlace
    by_cases hloc : loc = FileTree.destination w.directory
      (Utf8.encode (temporaryPath dir s.target w.processId w.clock))
    · rw [if_pos hloc, if_pos hloc]
    · rw [if_neg hloc, if_neg hloc, if_neg hloc]

/-- What can be loaded is not lost when the baseline of a target is stored whose path leads to
another place. -/
theorem load_of_save {s stored : Snapshot} {file other : Text}
    (h : save s dir w = (.ok file, w')) (hplace : place dir other w ≠ place dir s.target w)
    (hload : (load dir other w).1 = .ok stored) : (load dir other w').1 = .ok stored := by
  obtain ⟨-, made, node, hstored⟩ := save_ok_cases h
  rw [← hload]
  refine load_congr ?_
  cases hthere : there? dir other w with
  | none =>
    rw [load_eq, hthere] at hload
    cases hload
  | some n =>
    refine there_of_keeps hthere hstored.stays.directory hstored.keeps ?_
    have hface := face?_of_there hthere
    have htemporary : place dir other w ≠ temporaryPlace s dir w :=
      (temporaryPlace_ne_place s dir other w).symm
    exact ((hstored.face? _).trans ((if_neg hplace).trans (if_neg htemporary))).trans
      ((hstored.grows _).face? hface)

end SurfaceGuard.Baseline
