import SurfaceGuard.Proofs.Host.Location

/-!
# What file operations change

An operation on a path changes what is at the destination of that path, and nothing else:
writing a file, removing one and renaming one are described by `Puts`.  Making directories
only adds directories where nothing was (`Grows`).

A device or a program that is opened for writing takes no content, so a file has the content that
it is written with only if what stands in its place is ordinary (`writeFile_cases`); the same goes
for a content that is added to its end (`appendFile_cases`).
-/

namespace SurfaceGuard.FileTree

variable {t t' : FileTree}

/-! ## Making and removing entries -/

theorem puts_addEntry {directory s : Spot} {name : Bytes} {make : Nat → Node} {time : Int}
    (h : t.addEntry directory name make time = .ok (s, t')) (hhas : t.Has directory)
    (hdirectory : directory.node.isDirectory = true) (hmissing : directory.node.entry? name = none)
    (hmake : (make t.next).entries = []) :
    s = directory.below name (make t.next)
      ∧ t.Puts (directory.location ++ [name]) (some (make t.next).face) t' := by
  rw [addEntry] at h
  split at h
  · cases h
    refine ⟨rfl, ?_⟩
    have hput := puts_change_entry (Node.changesEntry_withEntry name (make t.next) time)
      (hhas.directoryAt hdirectory) (not_directoryAt_of_none (hhas.face?_missing hmissing))
      (by rintro n hn; cases hn; exact hmake)
    exact hput
  · cases h

theorem puts_removeEntry {s : Spot} {time : Int} (h : t.removeEntry s time = .ok t')
    (hhas : t.Has s)
    (hs : s.node.isDirectory = false) : t.Puts s.location none t' := by
  cases hhas with
  | root => cases h
  | @entry s name child hhas hchild =>
    have hnot : ¬t.DirectoryAt (s.location ++ [name]) := by
      rw [← location_below s name child]
      exact (hhas.entry hchild).not_directoryAt hs
    have hdirectory : s.node.isDirectory = true := Node.isDirectory_of_entry? hchild
    rw [removeEntry] at h
    split at h
    · next hway => simp [Spot.below] at hway
    · next n d way hway =>
      simp only [Spot.below, List.cons.injEq, Prod.mk.injEq] at hway
      obtain ⟨⟨rfl, rfl⟩, rfl⟩ := hway
      split at h
      · cases h
        rw [location_below]
        exact puts_change_entry (Node.changesEntry_withoutEntry name time)
          (hhas.directoryAt hdirectory) hnot (by rintro n hn; cases hn)
      · cases h

/-- The trees are the same at a location, or the second one has a directory where nothing was. -/
def StaysAt (t t' : FileTree) (loc : Location) : Prop :=
  t'.face? loc = t.face? loc ∨ t.face? loc = none ∧ t'.DirectoryAt loc

namespace StaysAt

variable {loc : Location}

/-- What is there stays. -/
theorem face? {n : Node} (h : t.StaysAt t' loc) (hn : t.face? loc = some n) :
    t'.face? loc = some n := by
  rcases h with heq | ⟨hnone, -⟩
  · rw [heq, hn]
  · rw [hnone] at hn
    cases hn

theorem trans {u : FileTree} (h : t.StaysAt t' loc) (h' : t'.StaysAt u loc) : t.StaysAt u loc := by
  rcases h with heq | ⟨hnone, a, ha⟩
  · rw [StaysAt, ← heq]
    exact h'
  · exact Or.inr ⟨hnone, a, h'.face? ha⟩

theorem content? (h : t.StaysAt t' loc) : t'.content? loc = t.content? loc := by
  rw [content?_eq, content?_eq]
  rcases h with heq | ⟨hnone, a, ha⟩
  · rw [heq]
  · rw [hnone, ha]
    rfl

/-- What is there is as ordinary as before. -/
theorem isOrdinary (h : t.StaysAt t' loc)
    (hordinary : ∀ n, t.face? loc = some n → n.isOrdinary = true) :
    ∀ n, t'.face? loc = some n → n.isOrdinary = true := by
  intro n hn
  rcases h with heq | ⟨-, a, ha⟩
  · exact hordinary n (heq ▸ hn)
  · rw [ha] at hn
    cases hn
    rfl

end StaysAt

/-- The second tree is the first one with directories more. -/
def Grows (t t' : FileTree) : Prop := ∀ loc, t.StaysAt t' loc

theorem Grows.refl (t : FileTree) : t.Grows t := fun _ => Or.inl rfl

theorem Grows.trans {u : FileTree} (h : t.Grows t') (h' : t'.Grows u) : t.Grows u :=
  fun loc => (h loc).trans (h' loc)

/-- The second tree is as the first one but at some locations, and with directories more. -/
structure ChangesOnly (t : FileTree) (places : List Location) (t' : FileTree) : Prop where
  keeps : t.Keeps t'
  others : ∀ loc, loc ∉ places → t.StaysAt t' loc

theorem Grows.keeps (h : t.Grows t') : t.Keeps t' := by
  rintro loc ⟨a, ha⟩
  rw [ha, (h loc).face? ha]

theorem Grows.changesOnly (h : t.Grows t') (places : List Location) : t.ChangesOnly places t' :=
  ⟨h.keeps, fun loc _ => h loc⟩

theorem Puts.changesOnly {loc : Location} {face? : Option Node} {places : List Location}
    (h : t.Puts loc face? t') (hloc : loc ∈ places) : t.ChangesOnly places t' := by
  refine ⟨h.keeps, fun other hother => Or.inl ?_⟩
  rw [h.2, if_neg]
  rintro rfl
  exact hother hloc

theorem ChangesOnly.trans {u : FileTree} {places : List Location} (h : t.ChangesOnly places t')
    (h' : t'.ChangesOnly places u) : t.ChangesOnly places u :=
  ⟨h.keeps.trans h'.keeps, fun loc hloc => (h.others loc hloc).trans (h'.others loc hloc)⟩

theorem Puts.content?_self {loc : Location} {face? : Option Node} (h : t.Puts loc face? t') :
    t'.content? loc = face?.bind Node.content? := by
  rw [content?_eq, h.2, if_pos rfl]

theorem makeDirectory_ok {base : Place} {path : Bytes} {mode : Nat} {time : Int}
    (h : t.makeDirectory base path mode time = .ok t') :
    t.face? (destination base path) = none
      ∧ ∃ a, t.Puts (destination base path) (some (.directory a [])) t' := by
  rw [makeDirectory] at h
  obtain ⟨found, hl, h⟩ := exists_of_bind_ok h
  cases found with
  | spot s => cases h
  | missing directory name =>
    obtain ⟨hhas, hdirectory, hmissing, hloc⟩ := locate_missing hl
    obtain ⟨⟨s, u⟩, hadd, h⟩ := exists_of_map_ok h
    obtain rfl : u = t' := h
    rw [← hloc]
    exact ⟨hhas.face?_missing hmissing, _, (puts_addEntry hadd hhas hdirectory hmissing rfl).2⟩

theorem grows_makeDirectory {base : Place} {path : Bytes} {mode : Nat} {time : Int}
    (h : t.makeDirectory base path mode time = .ok t') : t.Grows t' := by
  obtain ⟨hnone, a, hput⟩ := makeDirectory_ok h
  intro loc
  rw [StaysAt, hput.2]
  by_cases hloc : loc = destination base path
  · exact Or.inr ⟨hloc ▸ hnone, a, by rw [hput.2, if_pos hloc]⟩
  · exact Or.inl (if_neg hloc)

theorem grows_makeStacked (base : Place) (time : Int) (fuel : Nat) (paths : List Bytes)
    (t : FileTree) : t.Grows (makeStacked base time fuel paths t).2 := by
  fun_induction makeStacked base time fuel paths t with
  | case1 => exact .refl _
  | case2 => exact .refl _
  | case3 fuel path rest t u h ih => exact (grows_makeDirectory h).trans ih
  | case4 => exact .refl _
  | case5 => assumption
  | case6 => exact .refl _
  | case7 => assumption
  | case8 => exact .refl _
  | case9 => exact .refl _
  | case10 => exact .refl _
  | case11 => exact .refl _
  | case12 => assumption
  | case13 => exact .refl _

theorem grows_makeDirectories {base : Place} {path : Bytes} {time : Int} {e? : Option Errno}
    (h : t.makeDirectories base path time = (e?, t')) : t.Grows t' := by
  have hgrows := grows_makeStacked base time (2 * pathLimit + 2) [path] t
  rw [makeDirectories] at h
  rw [h] at hgrows
  exact hgrows

/-! ## Opening and writing files -/

/-- A file that is opened to be changed is there, unless a device or a program is in its place; what
was in it stays if it is not cut off. -/
theorem openFile_toChange {base : Place} {path : Bytes} {access : Access} {mode : Nat} {time : Int}
    {s : Spot} (hcreate : access.create = true)
    (h : t.openFile base path access mode time = .ok (s, t')) :
    s.location = destination base path
      ∧ ((∀ n, t.face? (destination base path) = some n → n.isOrdinary = true)
          ∧ (∃ a, s.node.attributes.serial = a.serial
            ∧ t.Puts (destination base path) (some (.file a
              (if access.truncate then [] else (t.content? (destination base path)).getD []))) t')
        ∨ t' = t ∧ t.Has s ∧ s.node.isOrdinary = false) := by
  rw [openFile] at h
  obtain ⟨found, hl, h⟩ := exists_of_bind_ok h
  cases found with
  | spot s' =>
    obtain ⟨hhas, hloc⟩ := locate_spot hl
    obtain ⟨-, h⟩ := ok_of_ite_error h
    obtain ⟨hdirectory, h⟩ := ok_of_ite_error h
    obtain ⟨-, h⟩ := ok_of_ite_error h
    obtain ⟨-, h⟩ := ok_of_ite_error h
    cases h
    refine ⟨hloc, ?_⟩
    have hdirectory : s.node.isDirectory = false := by simpa [hcreate] using hdirectory
    have hface : t.face? (destination base path) = some s.node.face := by
      rw [← hloc, face?, hhas.node?, Option.map_some]
    cases hnode : s.node with
    | file a content =>
      have hfile : t.node? s.location = some (.file a content) :=
        hhas.node?.trans (congrArg some hnode)
      have hordinary : ∀ n, t.face? (destination base path) = some n → n.isOrdinary = true := by
        rw [hface, hnode]
        rintro n hn
        cases hn
        rfl
      have hnot : ¬t.DirectoryAt (destination base path) := hloc ▸ hhas.not_directoryAt hdirectory
      have hcut : t.cutOff s access time = if access.truncate then
          t.change s.location fun _ => .file { a with modified := time } [] else t := by
        rw [cutOff, hnode]
      refine Or.inl ⟨hordinary, ?_⟩
      rw [hcut]
      cases access.truncate with
      | true =>
        refine ⟨{ a with modified := time }, rfl, hnot, fun other => ?_⟩
        rw [← hloc]
        exact face?_change_leaf hfile rfl rfl other
      | false =>
        -- nothing was changed, and the file is there with what it has
        refine ⟨a, rfl, hnot, fun other => ?_⟩
        simp only [Bool.false_eq_true, if_false]
        split
        · next hother =>
          rw [hother, content?_eq, hface, hnode]
          rfl
        · rfl
    | directory a entries => rw [hnode] at hdirectory; cases hdirectory
    | program a name => exact Or.inr ⟨by rw [cutOff, hnode], hhas, rfl⟩
    | device a kind => exact Or.inr ⟨by rw [cutOff, hnode], hhas, rfl⟩
  | missing directory name =>
    obtain ⟨hhas, hdirectory, hmissing, hloc⟩ := locate_missing hl
    obtain ⟨-, h⟩ := ok_of_ite_error h
    obtain ⟨-, h⟩ := ok_of_ite_error h
    obtain ⟨rfl, hput⟩ := puts_addEntry h hhas hdirectory hmissing rfl
    have hnone := hhas.face?_missing hmissing
    rw [hloc] at hput hnone
    have hempty : (if access.truncate then [] else (t.content? (destination base path)).getD [])
        = [] := by
      rw [content?_eq, hnone]
      exact ite_self _
    rw [hempty, hnone]
    refine ⟨(location_below _ _ _).trans hloc, Or.inl ⟨?_, _, rfl, hput⟩⟩
    intro n hn
    cases hn

/-- Another content is put into the file that was opened, and nowhere else. -/
theorem face?_setContentAt {file : Place} {a : Attributes} {old content : Bytes} {time : Int}
    (hnode : t.node? file.location = some (.file a old)) (hserial : a.serial = file.serial)
    (other : Location) :
    (t.setContentAt file content time).face? other
      = if other = file.location then some (.file { a with modified := time } content)
        else t.face? other := by
  rw [setContentAt, face?_change_leaf hnode rfl]
  · simp only [hserial, if_true]
    rfl
  · simp [hserial, Node.entries]

/-- A device or a program that was opened stays as it is. -/
theorem puts_setContentAt_special {s : Spot} {content : Bytes} {time : Int} (hhas : t.Has s)
    (hs : s.node.isOrdinary = false) :
    ∃ n, n.isOrdinary = false ∧ t.face? s.location = some n
      ∧ t.Puts s.location (some n) (t.setContentAt s.place content time) := by
  have hspecial := Node.special_of_not_ordinary hs
  have hdirectory : s.node.isDirectory = false := by
    rcases hspecial with ⟨a, name, hnode⟩ | ⟨a, kind, hnode⟩ <;> rw [hnode] <;> rfl
  have hleaf := Node.entries_of_not_directory hdirectory
  refine ⟨s.node.face, by rw [Node.isOrdinary_face, hs], ?_, hhas.not_directoryAt hdirectory,
    fun other => ?_⟩
  · rw [face?, hhas.node?, Option.map_some]
  · show (t.change s.location _).face? other = _
    rw [face?_change_leaf hhas.node? hleaf]
    · rcases hspecial with ⟨a, name, hnode⟩ | ⟨a, kind, hnode⟩ <;> rw [hnode]
    · rcases hspecial with ⟨a, name, hnode⟩ | ⟨a, kind, hnode⟩ <;> rw [hnode] <;> rfl

/-- A file that was put somewhere is given another content. -/
theorem Puts.setContentAt {u : FileTree} (file : Place) {a : Attributes} {old : Bytes}
    (h : t.Puts file.location (some (.file a old)) u) (hserial : a.serial = file.serial)
    (content : Bytes) (time : Int) :
    t.Puts file.location (some (.file { a with modified := time } content))
      (u.setContentAt file content time) := by
  have hnode : u.node? file.location = some (.file a old) := by
    rw [← face?_eq_file, h.2, if_pos rfl]
  refine ⟨h.1, fun other => ?_⟩
  rw [face?_setContentAt hnode hserial, h.2]
  split <;> rfl

/-- A file that is written has the content, whether it was there before or not; a device or a
program in its place stays as it is. -/
theorem writeFile_cases {base : Place} {path content : Bytes} {time : Int}
    (h : t.writeFile base path content time = .ok t') :
    (∀ n, t.face? (destination base path) = some n → n.isOrdinary = true)
        ∧ (∃ a, t.Puts (destination base path) (some (.file a content)) t')
      ∨ ∃ n, n.isOrdinary = false ∧ t.face? (destination base path) = some n
        ∧ t.Puts (destination base path) (some n) t' := by
  rw [writeFile] at h
  obtain ⟨⟨s, u⟩, hopen, hset⟩ := exists_of_bind_ok h
  cases hset
  obtain ⟨hloc, ⟨hordinary, a, hserial, hput⟩ | ⟨rfl, hhas, hspecial⟩⟩ :=
    openFile_toChange rfl hopen
  · rw [← hloc] at hordinary hput ⊢
    exact Or.inl ⟨hordinary, _, Puts.setContentAt s.place hput hserial.symm content time⟩
  · rw [← hloc]
    exact Or.inr (puts_setContentAt_special hhas hspecial)

/-- A file that something is added to has it after what it had; a file that is missing has nothing
else, and a device or a program stays as it is. -/
theorem appendFile_cases {base : Place} {path content : Bytes} {time : Int}
    (h : t.appendFile base path content time = .ok t') :
    (∀ n, t.face? (destination base path) = some n → n.isOrdinary = true)
        ∧ (∃ a, t.Puts (destination base path)
          (some (.file a ((t.content? (destination base path)).getD [] ++ content))) t')
      ∨ ∃ n, n.isOrdinary = false ∧ t.face? (destination base path) = some n
        ∧ t.Puts (destination base path) (some n) t' := by
  rw [appendFile] at h
  obtain ⟨⟨s, u⟩, hopen, hset⟩ := exists_of_bind_ok h
  cases hset
  obtain ⟨hloc, ⟨hordinary, a, hserial, hput⟩ | ⟨rfl, hhas, hspecial⟩⟩ :=
    openFile_toChange rfl hopen
  · rw [← hloc] at hordinary hput ⊢
    have hheld : u.contentAt? s.place = some ((t.content? s.location).getD []) := by
      have hnode : u.node? s.place.location
          = some (.file a ((t.content? s.location).getD [])) := by
        rw [← face?_eq_file, hput.2]
        exact if_pos rfl
      rw [contentAt?, hnode]
      exact if_pos hserial.symm
    rw [hheld, Option.getD_some]
    exact Or.inl ⟨hordinary, _, Puts.setContentAt s.place hput hserial.symm _ time⟩
  · rw [← hloc]
    exact Or.inr (puts_setContentAt_special hhas hspecial)

theorem puts_writeFile {base : Place} {path content : Bytes} {time : Int}
    (h : t.writeFile base path content time = .ok t')
    (hordinary : ∀ n, t.face? (destination base path) = some n → n.isOrdinary = true) :
    ∃ a, t.Puts (destination base path) (some (.file a content)) t' := by
  rcases writeFile_cases h with ⟨-, hfile⟩ | ⟨n, hdevice, hface, -⟩
  · exact hfile
  · rw [hordinary n hface] at hdevice
    cases hdevice

/-- An entry without anything below it is moved to a directory, under a name that leads to no
directory. -/
theorem puts_move {s directory : Spot} {name : Bytes} {time : Int}
    (h : (do
      let t ← t.removeEntry s time
      if directory.node.allows .write then
        .ok (t.change directory.location (Node.withEntry name s.node time))
      else .error .accessDenied : Except Errno FileTree) = .ok t')
    (hs : t.Has s) (hleaf : s.node.isDirectory = false) (hhas : t.Has directory)
    (hdirectory : directory.node.isDirectory = true)
    (hnot : ¬t.DirectoryAt (directory.location ++ [name])) :
    ∃ u, t.Puts s.location none u
      ∧ u.Puts (directory.location ++ [name]) (some s.node.face) t' := by
  obtain ⟨u, hr, h⟩ := exists_of_bind_ok h
  have hput := puts_removeEntry hr hs hleaf
  split at h
  · cases h
    refine ⟨u, hput, ?_⟩
    refine puts_change_entry (Node.changesEntry_withEntry name s.node time) ?_ ?_ ?_
    · obtain ⟨d, hd⟩ := hhas.directoryAt hdirectory
      exact ⟨d, by rw [hput.keeps _ ⟨d, hd⟩, hd]⟩
    · rintro ⟨d, hd⟩
      rw [hput.2] at hd
      split at hd
      · cases hd
      · exact hnot ⟨d, hd⟩
    · rintro n hn
      cases hn
      exact Node.entries_of_not_directory hleaf
  · cases h

/-- What is renamed is at the new location and no longer at the old one, if it is no directory. -/
theorem puts_rename {base : Place} {source target : Bytes} {n : Node} {time : Int}
    (h : t.rename base source target time = .ok t')
    (hsource : t.face? (destination base source) = some n) (hn : n.isDirectory = false) :
    ∃ u, t.Puts (destination base source) none u
      ∧ u.Puts (destination base target) (some n) t' := by
  rw [rename] at h
  obtain ⟨s, hf, h⟩ := exists_of_bind_ok h
  obtain ⟨hhas, hloc⟩ := find_spot hf
  have hface : s.node.face = n := by
    rw [← hloc, face?, hhas.node?, Option.map_some, Option.some.injEq] at hsource
    exact hsource
  have hleaf : s.node.isDirectory = false := by
    rw [← Node.isDirectory_face, hface, hn]
  obtain ⟨found, hl, h⟩ := exists_of_bind_ok h
  rw [← hloc, ← hface]
  cases found with
  | missing directory name =>
    obtain ⟨hdhas, hdirectory, hmissing, htarget⟩ := locate_missing hl
    obtain ⟨-, h⟩ := ok_of_ite_error h
    rw [← htarget]
    exact puts_move h hhas hleaf hdhas hdirectory
      (not_directoryAt_of_none (hdhas.face?_missing hmissing))
  | spot old =>
    obtain ⟨hohas, htarget⟩ := locate_spot hl
    obtain ⟨hold, h⟩ := ok_of_ite_error h
    obtain ⟨-, h⟩ := ok_of_ite_error h
    obtain ⟨-, h⟩ := ok_of_ite_error h
    obtain ⟨-, h⟩ := ok_of_ite_error h
    have hold : old.node.isDirectory = false := by simpa [hleaf] using hold
    cases hohas with
    | root => cases h
    | @entry d name child hdhas hchild =>
      have hdirectory : d.node.isDirectory = true := Node.isDirectory_of_entry? hchild
      rw [← htarget, location_below]
      refine puts_move h hhas hleaf hdhas hdirectory ?_
      rw [← location_below d name child]
      exact (hdhas.entry hchild).not_directoryAt hold

theorem exists_locate_of_writeFile {base : Place} {path content : Bytes} {time : Int}
    (h : t.writeFile base path content time = .ok t') :
    ∃ found, t.locate base path = .ok found := by
  obtain ⟨_, hopen, -⟩ := exists_of_bind_ok h
  obtain ⟨found, hlocate, -⟩ := exists_of_bind_ok hopen
  exact ⟨found, hlocate⟩

/-- What is opened to be read is what the path leads to, and the tree stays as it is. -/
theorem openFile_toRead {base : Place} {path : Bytes} {mode : Nat} {time : Int} {s : Spot}
    (h : t.openFile base path .toRead mode time = .ok (s, t')) :
    t.Has s ∧ s.location = destination base path := by
  rw [openFile] at h
  obtain ⟨found, hl, h⟩ := exists_of_bind_ok h
  cases found with
  | missing directory name => cases h
  | spot s' =>
    obtain ⟨-, h⟩ := ok_of_ite_error h
    obtain ⟨-, h⟩ := ok_of_ite_error h
    obtain ⟨-, h⟩ := ok_of_ite_error h
    obtain ⟨-, h⟩ := ok_of_ite_error h
    cases h
    exact locate_spot hl

/-- What is read is the content of a file, or else nothing. -/
theorem readFile_ok {base : Place} {path content : Bytes} (h : t.readFile base path = .ok content) :
    (∃ a, t.face? (destination base path) = some (.file a content)) ∨ content = [] := by
  rw [readFile] at h
  obtain ⟨⟨s, u⟩, ho, h⟩ := exists_of_bind_ok h
  obtain ⟨hhas, hloc⟩ := openFile_toRead ho
  cases hnode : s.node with
  | file a c =>
    simp only [hnode, Except.ok.injEq] at h
    exact Or.inl ⟨a, by rw [← hloc, face?_eq_file, hhas.node?, hnode, h]⟩
  | directory a entries => simp only [hnode] at h; cases h
  | program a name => simp only [hnode, Except.ok.injEq] at h; exact Or.inr h.symm
  | device a kind => simp only [hnode, Except.ok.injEq] at h; exact Or.inr h.symm

/-- Opening what a path leads to in order to read it takes the permission to read. -/
theorem openFile_toRead_eq {base : Place} {path : Bytes} (h : asksDirectory path = false)
    (mode : Nat) (time : Int) :
    t.openFile base path .toRead mode time = t.find base path >>= fun s =>
      if s.node.allows .read then .ok (s, t.cutOff s .toRead time) else .error .accessDenied := by
  rw [openFile, find]
  cases t.locate base path with
  | error e => rfl
  | ok found =>
    cases found with
    | missing directory name => rfl
    | spot s =>
      by_cases hread : s.node.allows .read = true <;>
        simp [bind, Except.bind, h, Access.toRead, mayOpen, hread]

/-- A file is read through what the path leads to. -/
theorem readFile_eq {base : Place} {path : Bytes} (h : asksDirectory path = false) :
    t.readFile base path = t.find base path >>= fun s => s.node.reading := by
  rw [readFile, openFile_toRead_eq h]
  cases t.find base path with
  | error e => rfl
  | ok s =>
    obtain ⟨node, way⟩ := s
    change ((if node.allows .read then _ else _) >>= _) = node.reading
    cases node <;> (unfold Node.reading; split <;> rfl)

end SurfaceGuard.FileTree
