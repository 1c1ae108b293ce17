import SurfaceGuard.Proofs.Host.Location
import SurfaceGuard.Proofs.Text.Encoding

/-!
# The names in a path

A path is followed along its names, so its destination is that of its names
(`destination_eq`).  An entry of the directory that a path leads to is one step further
(`destination_child`), and the path of the directory above has no other names
(`names_parentPath`).

The names of a path that was made normal are `Forthright`: the ways up come first, and whatever
follows leads down.  Along such names a walk only fails for want of an entry if nothing is where
they lead (`lost_of_walk`); a detour through a directory that is missing would fail as well.
-/

namespace SurfaceGuard.FileTree

variable {t : FileTree}

/-- The names in a path. -/
def names (path : Bytes) : List Bytes := (Ascii.splitOn separator path).filter (· ≠ [])

/-- Where a path starts. -/
def origin (base : Place) (path : Bytes) : Location :=
  if path.head? = some separator then [] else base.location

theorem destination_eq (base : Place) (path : Bytes) :
    destination base path = arrive (origin base path) (names path) := rfl

/-- A name that an entry of a directory can have: it leads down. -/
structure IsEntryName (name : Bytes) : Prop where
  ne_nil : name ≠ []
  ne_here : name ≠ here
  ne_above : name ≠ above
  no_separator : separator ∉ name

theorem names_append_cons (path rest : Bytes) :
    names (path ++ separator :: rest) = names path ++ names rest := by
  rw [names, names, names, Ascii.splitOn_eq, Ascii.splitOn_eq, Ascii.splitOn_eq,
    List.splitOn_append_cons_self, List.filter_append]

theorem IsEntryName.names {name : Bytes} (h : IsEntryName name) : names name = [name] := by
  rw [FileTree.names, Ascii.splitOn_eq, List.splitOn_eq_singleton h.no_separator,
    List.filter_singleton]
  simp [h.ne_nil]

/-- Names that lead down are added to the location. -/
theorem arrive_entries (loc : Location) {names : List Bytes}
    (h : ∀ name ∈ names, IsEntryName name) :
    arrive loc names = loc ++ names := by
  induction names generalizing loc with
  | nil => exact (List.append_nil loc).symm
  | cons name rest ih =>
    obtain ⟨hname, hrest⟩ := List.forall_mem_cons.1 h
    rw [arrive, if_neg hname.ne_here, if_neg hname.ne_above, ih _ hrest, List.append_assoc,
      List.singleton_append]

theorem origin_append {base : Place} {path : Bytes} (hpath : path ≠ []) (rest : Bytes) :
    origin base (path ++ rest) = origin base path := by
  cases path with
  | nil => exact absurd rfl hpath
  | cons b path => rfl

/-- The path of an entry leads one step further than that of its directory. -/
theorem destination_child {base : Place} {path name : Bytes} (hpath : path ≠ [])
    (hname : IsEntryName name) :
    destination base (path ++ separator :: name) = destination base path ++ [name] := by
  rw [destination_eq, destination_eq, origin_append hpath, names_append_cons, hname.names,
    arrive_append, arrive_entries _ (List.forall_mem_singleton.2 hname)]

/-! ## The directory above -/

/-- What follows some separators at the start comes after one of them. -/
theorem exists_dropWhile_separator (path : Bytes) :
    ∃ seps, separator :: path = seps ++ separator :: path.dropWhile (· == separator) := by
  induction path with
  | nil => exact ⟨[], rfl⟩
  | cons b path ih =>
    by_cases hb : b = separator
    · obtain ⟨seps, hseps⟩ := ih
      subst hb
      exact ⟨separator :: seps, by simpa using hseps⟩
    · exact ⟨[], by rw [List.dropWhile_cons_of_neg (by simpa using hb)]; rfl⟩

/-- The path of the directory above comes before some separator, unless it is the root or empty. -/
theorem parentPath_cases (path : Bytes) :
    parentPath path = [] ∨ parentPath path = [separator] ∧ path.head? = some separator
      ∨ ∃ rest, path = parentPath path ++ separator :: rest := by
  rw [parentPath]
  split
  · next hroot =>
    rw [Bool.and_eq_true, decide_eq_true_eq] at hroot
    exact Or.inr (Or.inl ⟨rfl, hroot.2⟩)
  -- from the end: the last name, then separators, then the path of the directory above
  have hcut := List.takeWhile_append_dropWhile (p := (· != separator)) (l := path.reverse)
  cases hback : path.reverse.dropWhile (· != separator) with
  | nil => exact Or.inl rfl
  | cons b back =>
    have hb : b = separator := by
      have hhead := List.head?_dropWhile_not (· != separator) path.reverse
      rw [hback] at hhead
      simpa using hhead
    obtain ⟨seps, hseps⟩ := exists_dropWhile_separator back
    rw [hback, hb, hseps, ← List.append_assoc] at hcut
    rw [hb, List.dropWhile_cons_of_pos (by simp)]
    refine Or.inr (Or.inr ⟨(path.reverse.takeWhile (· != separator) ++ seps).reverse, ?_⟩)
    conv_lhs => rw [← List.reverse_reverse path, ← hcut]
    simp

/-- The path of the directory above has the first names of a path. -/
theorem names_parentPath (path : Bytes) : names (parentPath path) <+: names path := by
  rcases parentPath_cases path with hnil | ⟨hroot, -⟩ | ⟨rest, hrest⟩
  · rw [hnil]
    exact List.nil_prefix
  · rw [hroot]
    exact List.nil_prefix
  · conv_rhs => rw [hrest, names_append_cons]
    exact List.prefix_append _ _

/-- The path of the directory above starts as the path does. -/
theorem head?_parentPath {path : Bytes} (h : parentPath path ≠ []) :
    (parentPath path).head? = path.head? := by
  rcases parentPath_cases path with hnil | ⟨hroot, hpath⟩ | ⟨rest, hrest⟩
  · exact absurd hnil h
  · rw [hroot, hpath]
    rfl
  · conv_rhs => rw [hrest, List.head?_append_of_ne_nil _ h]

/-- A path that leads to a directory on the way of another one. -/
structure IsFront (path front : Bytes) : Prop where
  head : front.head? = path.head?
  names : names front <+: names path

theorem IsFront.refl (path : Bytes) : IsFront path path := ⟨rfl, List.prefix_rfl⟩

theorem IsFront.parentPath {path front : Bytes} (h : IsFront path front)
    (hparent : parentPath front ≠ []) : IsFront path (parentPath front) :=
  ⟨(head?_parentPath hparent).trans h.head, (names_parentPath front).trans h.names⟩

/-! ## Ways without a detour -/

/-- The names lead up at first, and then only down. -/
def Forthright (names : List Bytes) : Prop :=
  ∃ ups downs, names = ups ++ downs ∧ (∀ name ∈ ups, name = here ∨ name = above)
    ∧ ∀ name ∈ downs, IsEntryName name

/-- Without an entry on the way nothing is at the end of it. -/
theorem face?_eq_none_of_prefix {loc other : Location} (h : t.face? loc = none)
    (hp : loc <+: other) : t.face? other = none := by
  obtain ⟨rest, rfl⟩ := hp
  rw [face?, Option.map_eq_none_iff] at h
  rw [face?, node?_append, h]
  rfl

/-- A walk down fails for want of an entry only if nothing is at the end of it. -/
theorem lost_of_walk_down {s : Spot} {names : List Bytes} (hs : t.Has s)
    (hnames : ∀ name ∈ names, IsEntryName name) (h : walk s names = .error .noEntry) :
    t.face? (arrive s.location names) = none := by
  induction names generalizing s with
  | nil => cases h
  | cons name rest ih =>
    obtain ⟨hname, hrest⟩ := List.forall_mem_cons.1 hnames
    rw [walk, if_neg hname.ne_here, if_neg hname.ne_above] at h
    rw [arrive, if_neg hname.ne_here, if_neg hname.ne_above]
    split at h
    · cases h
    split at h
    · cases h
    split at h
    · cases h
    split at h
    · next child hchild =>
      rw [← location_below s name child]
      exact ih (hs.entry hchild) hrest h
    · next hmissing =>
      rw [arrive_entries _ hrest]
      exact face?_eq_none_of_prefix (hs.face?_missing hmissing) (List.prefix_append _ _)

/-- Nor does it fail so on its way up. -/
theorem lost_of_walk {s : Spot} {names : List Bytes} (hs : t.Has s) (hnames : Forthright names)
    (h : walk s names = .error .noEntry) : t.face? (arrive s.location names) = none := by
  obtain ⟨ups, downs, rfl, hups, hdowns⟩ := hnames
  induction ups generalizing s with
  | nil => exact lost_of_walk_down hs hdowns h
  | cons name ups ih =>
    obtain ⟨hname, hrest⟩ := List.forall_mem_cons.1 hups
    rw [List.cons_append, walk] at h
    rw [List.cons_append, arrive]
    split at h
    · cases h
    split at h
    · cases h
    split at h
    · next hhere =>
      rw [if_pos hhere]
      exact ih hs h hrest
    next hhere =>
    have habove : name = above := hname.resolve_left hhere
    rw [if_neg hhere, if_pos habove, ← location_above]
    rw [if_pos habove] at h
    exact ih hs.above h hrest

/-- A path is followed by a walk along its names. -/
theorem exists_walk_of_locate {base : Place} {path : Bytes} {found : Found}
    (h : t.locate base path = .ok found) :
    ∃ start, t.Has start ∧ start.location = origin base path
      ∧ walk start (names path) = .ok found := by
  rw [locate] at h
  obtain ⟨-, h⟩ := ok_of_ite_error h
  obtain ⟨-, h⟩ := ok_of_ite_error h
  rw [origin]
  split at h
  · next hroot => exact ⟨t.rootSpot, .root, (if_pos hroot).symm, h⟩
  · next hroot =>
    obtain ⟨start, hstart, h⟩ := exists_of_bind_ok h
    obtain ⟨hhas, hloc, -⟩ := has_spotOf hstart
    exact ⟨start, hhas, by rw [hloc, if_neg hroot], h⟩

/-- The path starts at a directory that is no longer there. -/
def Stranded (t : FileTree) (base : Place) (path : Bytes) : Prop :=
  path.head? ≠ some separator ∧ ∀ s, t.spotOf base ≠ .ok s

/-- A path fails for want of an entry only if nothing is where it leads, or its start is lost. -/
theorem lost_of_find {base : Place} {path : Bytes} (hnames : Forthright (names path))
    (hpath : path ≠ []) (h : t.find base path = .error .noEntry) :
    t.face? (destination base path) = none ∨ t.Stranded base path := by
  rw [find] at h
  cases hl : t.locate base path with
  | ok found =>
    rw [hl] at h
    cases found with
    | spot s =>
      change (if _ then _ else _) = _ at h
      split at h <;> cases h
    | missing directory name =>
      obtain ⟨hhas, -, hmissing, hloc⟩ := locate_missing hl
      exact Or.inl (hloc ▸ hhas.face?_missing hmissing)
  | error e =>
    rw [hl] at h
    obtain rfl : e = .noEntry := by cases h; rfl
    rw [locate, if_neg (by simpa using hpath)] at hl
    split at hl
    · cases hl
    split at hl
    · next hroot =>
      rw [destination, if_pos hroot]
      exact Or.inl (lost_of_walk .root hnames hl)
    · next hroot =>
      cases hstart : t.spotOf base with
      | error e =>
        refine Or.inr ⟨hroot, fun s hs => ?_⟩
        rw [hstart] at hs
        cases hs
      | ok start =>
        obtain ⟨hhas, hloc, -⟩ := has_spotOf hstart
        rw [hstart] at hl
        rw [destination, if_neg hroot, ← hloc]
        exact Or.inl (lost_of_walk hhas hnames hl)

end SurfaceGuard.FileTree
