import SurfaceGuard.Proofs.Host.Removal

/-!
# What copying changes

A copy is made at the destination of the second path, and whether it succeeds or not, nothing
changes elsewhere (`face?_copyFile_elsewhere`).  Where nothing was, a copy that succeeds is a file
with the content of the first path (`copyFile_ok`).
-/

namespace SurfaceGuard

/-- How the copy of a file is opened: what is there stays as it is for now. -/
def Access.toCopy : Access := { Access.toWrite with truncate := false }

namespace FileTree

variable {t t' : FileTree} {base : Place} {time : Int}

/-- Below what is no directory is nothing. -/
theorem face?_eq_none_below {loc other : Location} (h : ¬t.DirectoryAt loc) (hp : loc <+: other)
    (hne : other ≠ loc) : t.face? other = none := by
  obtain ⟨rest, rfl⟩ := hp
  cases rest with
  | nil => exact absurd (List.append_nil loc) hne
  | cons name rest =>
    rw [face?, node?_append]
    cases hn : t.node? loc with
    | none => rfl
    | some n =>
      rw [Option.bind_some, Node.find?_eq_none (entries_eq_nil h hn)]
      rfl

/-- What is opened for a copy is there already, or is put where nothing was. -/
theorem openFile_toCopy {path : Bytes} {mode : Nat} {s : Spot}
    (h : t.openFile base path Access.toCopy mode time = .ok (s, t')) :
    s.location = destination base path
      ∧ (t' = t ∧ t.Has s ∧ s.node.isDirectory = false
        ∨ t.Puts (destination base path) (some (.file ⟨t.next, mode, time⟩ [])) t') := by
  rw [openFile] at h
  obtain ⟨found, hl, h⟩ := exists_of_bind_ok h
  cases found with
  | spot s' =>
    obtain ⟨hhas, hloc⟩ := locate_spot hl
    obtain ⟨-, h⟩ := ok_of_ite_error h
    obtain ⟨hdirectory, h⟩ := ok_of_ite_error h
    obtain ⟨-, h⟩ := ok_of_ite_error h
    obtain ⟨-, h⟩ := ok_of_ite_error h
    cases h
    have huncut : t.cutOff s Access.toCopy time = t := by
      rw [cutOff]
      split <;> rfl
    refine ⟨hloc, Or.inl ⟨huncut, hhas, ?_⟩⟩
    simpa [Access.toCopy, Access.toWrite] using hdirectory
  | missing directory name =>
    obtain ⟨hhas, hdirectory, hmissing, hloc⟩ := locate_missing hl
    obtain ⟨-, h⟩ := ok_of_ite_error h
    obtain ⟨-, h⟩ := ok_of_ite_error h
    obtain ⟨rfl, hput⟩ := puts_addEntry h hhas hdirectory hmissing rfl
    rw [hloc] at hput
    exact ⟨(location_below _ _ _).trans hloc, Or.inr hput⟩

/-- What was opened for a copy is no directory. -/
theorem exists_leaf_of_openFile {path : Bytes} {mode : Nat} {s : Spot}
    (h : t.openFile base path Access.toCopy mode time = .ok (s, t')) :
    ∃ n, t'.node? (destination base path) = some n ∧ n.isDirectory = false
      ∧ ∀ other ≠ destination base path, t'.face? other = t.face? other := by
  obtain ⟨hloc, ⟨rfl, hhas, hleaf⟩ | hput⟩ := openFile_toCopy h
  · exact ⟨s.node, hloc ▸ hhas.node?, hleaf, fun _ _ => rfl⟩
  · exact ⟨_, face?_eq_file.1 (by rw [hput.2, if_pos rfl]), rfl,
      fun other hother => by rw [hput.2, if_neg hother]⟩

/-- The ways that copying can go. -/
theorem copyFile_cases {source target : Bytes} {e? : Option Errno}
    (h : t.copyFile base source target time = (e?, t')) :
    (t' = t ∧ (e? = none → ∃ s copy u, t.Has s ∧ s.location = destination base source
        ∧ t.openFile base target Access.toCopy s.node.attributes.mode time = .ok (copy, u)
        ∧ s.place = copy.place))
      ∨ ∃ s copy u, t.Has s ∧ s.location = destination base source
        ∧ t.openFile base target Access.toCopy s.node.attributes.mode time = .ok (copy, u)
        ∧ ((∃ a a' content, s.node = .file a content ∧ e? = none
            ∧ t' = u.change copy.location fun _ => .file a' content)
          ∨ e? ≠ none ∧ (t' = u ∨ u.removeEntry copy time = .ok t')) := by
  rw [copyFile] at h
  split at h
  · cases h
    exact Or.inl ⟨rfl, nofun⟩
  next s copy u hopened =>
  obtain ⟨⟨s', v⟩, hsource, hopened⟩ := exists_of_bind_ok hopened
  obtain ⟨⟨copy', u'⟩, htarget, hopened⟩ := exists_of_bind_ok hopened
  cases hopened
  obtain ⟨hhas, hloc⟩ := openFile_toRead hsource
  split at h
  · next hplace =>
    cases h
    exact Or.inl ⟨rfl, fun _ => ⟨s, copy, u, hhas, hloc, htarget, hplace⟩⟩
  refine Or.inr ⟨s, copy, u, hhas, hloc, htarget, ?_⟩
  split at h
  · next a content hnode =>
    cases h
    exact Or.inl ⟨a, _, content, hnode, rfl, rfl⟩
  · cases h
    refine Or.inr ⟨Option.some_ne_none _, ?_⟩
    cases hremove : u.removeEntry copy time with
    | ok v => exact Or.inr rfl
    | error e => exact Or.inl rfl

/-- Wherever copying stops, nothing changes but what is at the destination of the copy. -/
theorem face?_copyFile_elsewhere {source target : Bytes} {e? : Option Errno}
    (h : t.copyFile base source target time = (e?, t')) {other : Location}
    (hother : other ≠ destination base target) : t'.face? other = t.face? other := by
  rcases copyFile_cases h with ⟨rfl, -⟩ | ⟨s, copy, u, -, -, hopen, hcopied⟩
  · rfl
  obtain ⟨n, hn, hleaf, helse⟩ := exists_leaf_of_openFile hopen
  have hloc := (openFile_toCopy hopen).1
  rcases hcopied with ⟨a, a', content, -, -, rfl⟩ | ⟨-, rfl | hremove⟩
  · rw [hloc, face?_change_leaf hn (Node.entries_of_not_directory hleaf) rfl, if_neg hother,
      helse other hother]
  · exact helse other hother
  · rw [face?_removeEntry hremove, hloc]
    split
    · next hp =>
      -- below the copy was nothing before
      have hnot : ¬u.DirectoryAt (destination base target) := by
        rintro hdirectory
        obtain ⟨n', hn', hdir⟩ := directoryAt_iff.1 hdirectory
        rw [hn, Option.some.injEq] at hn'
        rw [← hn', hleaf] at hdir
        cases hdir
      rw [← helse other hother, face?_eq_none_below hnot hp hother]
    · exact helse other hother

/-- A copy that succeeds where nothing was is a file with the content of its source. -/
theorem copyFile_ok {source target : Bytes} (h : t.copyFile base source target time = (none, t'))
    (hfree : t.face? (destination base target) = none) :
    ∃ a content, t.content? (destination base source) = some content
      ∧ t'.face? (destination base target) = some (.file a content) := by
  rcases copyFile_cases h with ⟨-, hsame⟩ | ⟨s, copy, u, hhas, hloc, hopen, hcopied⟩
  · -- the source would be where nothing was
    obtain ⟨s, copy, u, hhas, -, hopen, hplace⟩ := hsame rfl
    have hloc : s.location = destination base target :=
      (congrArg Place.location hplace).trans (openFile_toCopy hopen).1
    rw [← hloc, face?, hhas.node?] at hfree
    cases hfree
  · obtain ⟨n, hn, hleaf, -⟩ := exists_leaf_of_openFile hopen
    rcases hcopied with ⟨a, a', content, hnode, -, rfl⟩ | ⟨hne, -⟩
    · refine ⟨a', content, ?_, ?_⟩
      · rw [← hloc, content?, hhas.node?, hnode]
        rfl
      · rw [(openFile_toCopy hopen).1,
          face?_change_leaf hn (Node.entries_of_not_directory hleaf) rfl, if_pos rfl]
        rfl
    · exact absurd rfl hne

end FileTree

end SurfaceGuard
