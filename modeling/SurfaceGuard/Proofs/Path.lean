import SurfaceGuard.Path
import SurfaceGuard.Proofs.Text.Encoding

/-!
# Normal forms of paths

A path is taken apart into its last segment, the `leaf`, and those before it, the
`directory`.  Where the leaf is a plain name, it is the last segment of the normal form as well,
and the segments before it depend on the directory alone (`segments_normalize`).

Joining a path that leads down at every step to a directory adds all its segments to the normal form
of the directory, whatever the directory is written like (`LeadsDown.way_below`).
-/

namespace SurfaceGuard

namespace Path

/-- A name of an entry of a directory: a segment that leads down. -/
structure IsName (x : Text) : Prop where
  ne_nil : x ≠ []
  ne_here : x ≠ here
  ne_above : x ≠ above
  no_separator : separator ∉ x

/-- A longer segment than those with a meaning of their own is a name. -/
theorem isName_of_length {x : Text} (hlength : 3 ≤ x.length) (hx : separator ∉ x) : IsName x := by
  refine ⟨?_, ?_, ?_, hx⟩
  · rintro rfl
    exact absurd hlength (by decide)
  · rintro rfl
    exact absurd hlength (by decide)
  · rintro rfl
    exact absurd hlength (by decide)

/-! ## Taking paths apart -/

/-- The segments before the last one. -/
def directory (p : Text) : List Text := (segments p).dropLast

/-- The last segment. -/
def leaf (p : Text) : Text := (segments p).getLast?.getD []

theorem segments_ne_nil (p : Text) : segments p ≠ [] := by
  rw [segments, Text.splitOn_eq]
  exact List.splitOn_ne_nil _ _

theorem segments_append_cons (p q : Text) :
    segments (p ++ separator :: q) = segments p ++ segments q := by
  rw [segments, segments, segments, Text.splitOn_eq, Text.splitOn_eq, Text.splitOn_eq,
    List.splitOn_append_cons_self]

theorem segments_of_not_mem {x : Text} (h : separator ∉ x) : segments x = [x] := by
  rw [segments, Text.splitOn_eq, List.splitOn_eq_singleton h]

theorem directory_of_not_mem {x : Text} (h : separator ∉ x) : directory x = [] := by
  rw [directory, segments_of_not_mem h]
  rfl

theorem leaf_of_not_mem {x : Text} (h : separator ∉ x) : leaf x = x := by
  rw [leaf, segments_of_not_mem h]
  rfl

/-- A path is the path of its segments. -/
theorem segments_injective {p q : Text} (h : segments p = segments q) : p = q := by
  rw [segments, segments, Text.splitOn_eq, Text.splitOn_eq] at h
  exact splitOn_inj h

theorem directory_eq {p x : Text} {segs : List Text} (h : segments p = segs ++ [x]) :
    directory p = segs := by
  rw [directory, h, List.dropLast_concat]

theorem leaf_eq {p x : Text} {segs : List Text} (h : segments p = segs ++ [x]) : leaf p = x := by
  rw [leaf, h, List.getLast?_concat]
  rfl

theorem segments_eq (p : Text) : segments p = directory p ++ [leaf p] := by
  obtain ⟨segs, x, h⟩ : ∃ segs x, segments p = segs ++ [x] :=
    ⟨_, _, (List.dropLast_concat_getLast (segments_ne_nil p)).symm⟩
  rw [directory_eq h, leaf_eq h, h]

theorem segments_cons_separator (p : Text) : segments (separator :: p) = [] :: segments p :=
  segments_append_cons [] p

/-- A unit at the start of a path is one of its first segment. -/
theorem segments_cons {u : CodeUnit} (hu : u ≠ separator) {p s : Text} {rest : List Text}
    (h : segments p = s :: rest) : segments (u :: p) = (u :: s) :: rest := by
  rw [segments] at h ⊢
  rw [Text.splitOn, if_neg hu, h]

/-- An ending without a separator is added to the last segment. -/
theorem segments_append {q : Text} (hq : separator ∉ q) (p : Text) :
    segments (p ++ q) = directory p ++ [leaf p ++ q] := by
  have hends : ∀ x : Text, separator ∉ x → separator ∉ x ++ q :=
    fun x hx hmem => (List.mem_append.1 hmem).elim hx hq
  by_cases hmem : separator ∈ p
  · -- The last separator is the first one from the end.
    obtain ⟨last, front, hp, hlast⟩ := List.eq_append_cons_of_mem (List.mem_reverse.2 hmem)
    obtain rfl : p = front.reverse ++ separator :: last.reverse := by
      rw [← List.reverse_reverse p, hp]
      simp
    have hlast : separator ∉ last.reverse := fun h => hlast (List.mem_reverse.1 h)
    have hsegments : ∀ x : Text, separator ∉ x →
        segments (front.reverse ++ separator :: x) = segments front.reverse ++ [x] := by
      intro x hx
      rw [segments_append_cons, segments_of_not_mem hx]
    rw [List.append_assoc, List.cons_append, hsegments _ (hends _ hlast),
      directory_eq (hsegments _ hlast), leaf_eq (hsegments _ hlast)]
  · rw [segments_of_not_mem (hends p hmem), directory_of_not_mem hmem, leaf_of_not_mem hmem]
    rfl

theorem directory_append {q : Text} (hq : separator ∉ q) (p : Text) :
    directory (p ++ q) = directory p := directory_eq (segments_append hq p)

theorem leaf_append {q : Text} (hq : separator ∉ q) (p : Text) : leaf (p ++ q) = leaf p ++ q :=
  leaf_eq (segments_append hq p)

/-- No segment has a separator in it. -/
theorem not_mem_of_mem_segments {p s : Text} (h : s ∈ segments p) : separator ∉ s :=
  Text.not_mem_of_mem_splitOn h

theorem not_mem_leaf (p : Text) : separator ∉ leaf p :=
  not_mem_of_mem_segments (segments_eq p ▸ List.mem_concat_self)

theorem not_mem_of_mem_directory {p s : Text} (h : s ∈ directory p) : separator ∉ s :=
  not_mem_of_mem_segments (List.mem_of_mem_dropLast h)

/-! ## Reduced segments -/

/-- Only segments that a path can have remain of its segments. -/
theorem reduceFrom_forall {rooted : Bool} {kept segs : List Text}
    (hkept : ∀ s ∈ kept, s ≠ [] ∧ separator ∉ s) (hsegs : ∀ s ∈ segs, separator ∉ s) :
    ∀ s ∈ reduceFrom rooted kept segs, s ≠ [] ∧ separator ∉ s := by
  have habove : above ≠ [] ∧ separator ∉ above := by decide
  fun_induction reduceFrom rooted kept segs with
  | case1 kept => exact fun s hs => hkept s (List.mem_reverse.1 hs)
  | case2 kept seg rest hseg ih => exact ih hkept (List.forall_mem_cons.1 hsegs).2
  | case3 seg rest hseg ih => exact ih hkept (List.forall_mem_cons.1 hsegs).2
  | case4 seg rest hseg ih => exact ih (by simpa using habove) (List.forall_mem_cons.1 hsegs).2
  | case5 rest hseg kept ih =>
    exact ih (List.forall_mem_cons.2 ⟨habove, hkept⟩) (List.forall_mem_cons.1 hsegs).2
  | case6 rest hseg last kept hlast ih =>
    exact ih (List.forall_mem_cons.1 hkept).2 (List.forall_mem_cons.1 hsegs).2
  | case7 kept seg rest hseg hname ih =>
    obtain ⟨hno, hrest⟩ := List.forall_mem_cons.1 hsegs
    exact ih (List.forall_mem_cons.2 ⟨⟨fun h => hseg (Or.inl h), hno⟩, hkept⟩) hrest

/-- A name at the end stays at the end. -/
theorem reduceFrom_concat {x : Text} (hx : IsName x) (rooted : Bool) (kept segs : List Text) :
    reduceFrom rooted kept (segs ++ [x]) = reduceFrom rooted kept segs ++ [x] := by
  induction segs generalizing kept with
  | nil =>
    rw [List.nil_append, reduceFrom.eq_def]
    simp [hx.ne_nil, hx.ne_here, hx.ne_above, reduceFrom.eq_def]
  | cons seg segs ih =>
    rw [List.cons_append, reduceFrom.eq_def, reduceFrom.eq_def rooted kept (seg :: segs)]
    simp only [ih]
    split
    · rfl
    split
    · cases kept with
      | nil =>
        dsimp only
        split <;> rfl
      | cons last kept =>
        dsimp only
        split <;> rfl
    · rfl

/-- Names at the end stay at the end. -/
theorem reduceFrom_append {names : List Text} (h : ∀ x ∈ names, IsName x) (rooted : Bool)
    (kept segs : List Text) :
    reduceFrom rooted kept (segs ++ names) = reduceFrom rooted kept segs ++ names := by
  induction names using List.reverseRecOn with
  | nil => rw [List.append_nil, List.append_nil]
  | append_singleton names x ih =>
    obtain ⟨hnames, hx⟩ := List.forall_mem_append.1 h
    rw [← List.append_assoc, reduceFrom_concat (hx x (List.mem_singleton_self x)), ih hnames,
      List.append_assoc]

/-- Below the root there is no way up. -/
theorem isName_of_mem_reduceFrom {rooted : Bool} (hrooted : rooted = true) {kept segs : List Text}
    (hkept : ∀ s ∈ kept, IsName s) (hsegs : ∀ s ∈ segs, separator ∉ s) :
    ∀ s ∈ reduceFrom rooted kept segs, IsName s := by
  fun_induction reduceFrom rooted kept segs with
  | case1 kept => exact fun s hs => hkept s (List.mem_reverse.1 hs)
  | case2 kept seg rest hseg ih => exact ih hkept (List.forall_mem_cons.1 hsegs).2
  | case3 seg rest hseg ih => exact ih hkept (List.forall_mem_cons.1 hsegs).2
  | case4 rest hnot _ ih => exact absurd hrooted hnot
  | case5 rest hseg kept ih => exact absurd rfl (List.forall_mem_cons.1 hkept).1.ne_above
  | case6 rest hseg last kept hlast ih =>
    exact ih (List.forall_mem_cons.1 hkept).2 (List.forall_mem_cons.1 hsegs).2
  | case7 kept seg rest hseg hname ih =>
    obtain ⟨hno, hrest⟩ := List.forall_mem_cons.1 hsegs
    exact ih (List.forall_mem_cons.2
      ⟨⟨fun h => hseg (Or.inl h), fun h => hseg (Or.inr h), hname, hno⟩, hkept⟩) hrest

/-! ## Normal forms -/

/-- What an absolute path starts with. -/
def lead (p : Text) : Text := if isAbsolute p then [separator] else []

/-- The segments before the last one in the normal form of a path. -/
def way (p : Text) : List Text := reduceFrom (isAbsolute p) [] (directory p)

theorem way_forall (p : Text) : ∀ s ∈ way p, s ≠ [] ∧ separator ∉ s :=
  reduceFrom_forall (List.forall_mem_nil _) fun _ => not_mem_of_mem_directory

variable {p : Text}

/-- A name at the end of a path is at the end of its normal form. -/
theorem normalize_eq (hp : IsName (leaf p)) :
    normalize p = lead p ++ unsegments (way p ++ [leaf p]) := by
  have hreduce : reduce p = way p ++ [leaf p] := by
    rw [reduce, segments_eq, reduceFrom_concat hp, way]
  have hsome : p ≠ [] := by
    rintro rfl
    exact hp.ne_nil rfl
  have hlast : p.getLast? ≠ some separator := by
    intro h
    obtain ⟨front, rfl⟩ := List.getLast?_eq_some_iff.1 h
    exact hp.ne_nil (leaf_eq (segments_append_cons front []))
  rw [normalize, if_neg hsome, hreduce, lead, if_neg hlast]
  cases hparts : way p ++ [leaf p] with
  | nil => simp at hparts
  | cons part parts => simp

/-- The segments of a normal form; before them an absolute path has an empty one. -/
theorem segments_normalize (hp : IsName (leaf p)) :
    segments (normalize p) = (if isAbsolute p then [[]] else []) ++ (way p ++ [leaf p]) := by
  have hparts : segments (unsegments (way p ++ [leaf p])) = way p ++ [leaf p] := by
    rw [segments, Text.splitOn_eq]
    refine List.splitOn_intercalate separator ?_ (by simp)
    refine List.forall_mem_append.2 ⟨fun s hs => (way_forall p s hs).2, ?_⟩
    rw [List.forall_mem_singleton]
    exact not_mem_leaf p
  rw [normalize_eq hp, lead]
  split
  · rw [List.singleton_append, List.singleton_append, segments_cons_separator, hparts]
  · exact hparts

theorem isAbsolute_append {q : Text} (hq : separator ∉ q) (p : Text) :
    isAbsolute (p ++ q) = isAbsolute p := by
  cases p with
  | nil =>
    cases q with
    | nil => rfl
    | cons u q =>
      have hu : u ≠ separator := fun h => hq (h ▸ List.mem_cons_self)
      simpa [isAbsolute] using hu
  | cons u p => rfl

/-- An ending without a separator does not change the way. -/
theorem way_append {q : Text} (hq : separator ∉ q) (p : Text) : way (p ++ q) = way p := by
  rw [way, way, isAbsolute_append hq, directory_append hq]

/-! ## Joining -/

/-- One path after another one. -/
def below (dir p : Text) : Text := if dir = [] then p else dir ++ separator :: p

theorem join_eq (dir : Text) (hp : p ≠ []) : join dir p = normalize (below dir p) := by
  rw [join, below, if_neg hp]
  split <;> rfl

theorem below_append (dir p q : Text) : below dir (p ++ q) = below dir p ++ q := by
  unfold below
  split
  · rfl
  · rw [List.append_assoc, List.cons_append]

theorem segments_below (dir p : Text) :
    segments (below dir p) = (if dir = [] then [] else segments dir) ++ segments p := by
  unfold below
  split
  · rfl
  · exact segments_append_cons dir p

theorem leaf_below (dir p : Text) : leaf (below dir p) = leaf p := by
  have hsegments := segments_below dir p
  rw [segments_eq p, ← List.append_assoc] at hsegments
  exact leaf_eq hsegments

/-- The path leads down at every step. -/
def LeadsDown (p : Text) : Prop := ∀ s ∈ directory p, IsName s

theorem leadsDown_of_not_mem (h : separator ∉ p) : LeadsDown p := by
  unfold LeadsDown
  rw [directory_of_not_mem h]
  exact List.forall_mem_nil _

theorem LeadsDown.isAbsolute (h : LeadsDown p) : isAbsolute p = false := by
  by_contra habsolute
  rw [Bool.not_eq_false] at habsolute
  cases p with
  | nil => cases habsolute
  | cons u p =>
    obtain rfl : u = separator := by simpa [Path.isAbsolute] using habsolute
    have hsegments : segments (separator :: p) = ([] :: directory p) ++ [leaf p] := by
      rw [List.cons_append, ← segments_eq, segments_cons_separator]
    refine (h [] ?_).ne_nil rfl
    rw [directory_eq hsegments]
    exact List.mem_cons_self

theorem LeadsDown.isAbsolute_below (h : LeadsDown p) (dir : Text) :
    Path.isAbsolute (below dir p) = Path.isAbsolute dir := by
  unfold below
  split
  · next hdir => rw [hdir, h.isAbsolute]; rfl
  · next hdir =>
    cases dir with
    | nil => exact absurd rfl hdir
    | cons u dir => rfl

/-- The normal form of a path that leads down from a directory goes through the normal form of the
directory. -/
theorem LeadsDown.way_below (h : LeadsDown p) (dir : Text) :
    way (below dir p) = reduce dir ++ directory p := by
  have hsegments := segments_below dir p
  rw [segments_eq p, ← List.append_assoc] at hsegments
  rw [way, directory_eq hsegments, h.isAbsolute_below, reduceFrom_append h]
  split
  · next hdir => rw [hdir]; rfl
  · rfl

end Path

end SurfaceGuard
