import SurfaceGuard.Proofs.Baseline.Location
import SurfaceGuard.Proofs.Host.Names

/-!
# Where joined paths lead

A path that is put below a directory is made normal, and the normal form leads where the path read
from the directory leads (`destination_join_parts`): `..` takes back a segment before it, whether
this is done with the text or on the way through the directories, as no directory is a link.

So where a path leads from a directory is said by its `parts`.  They begin with the ways up that
nothing takes back (`Settled`).  If there is none and something is left, the path leads below the
directory (`LeadsBelow`), and otherwise there is a directory that it leads out of
(`leadsBelow_iff`).
-/

namespace SurfaceGuard

namespace Path

variable {p q : Text} {rooted : Bool} {kept segs : List Text} {base : Place}

theorem IsName.isEntryName {x : Text} (hx : IsName x) : FileTree.IsEntryName (Utf8.encode x) where
  ne_nil := encode_ne_nil hx.ne_nil
  ne_here := hx.encode_ne.1
  ne_above := hx.encode_ne.2
  no_separator := fun hmem => hx.no_separator (Utf8.mem_of_mem_encode (by decide) hmem)

/-! ## Ways up first -/

/-- The ways up come first, and only names follow. -/
def Settled (parts : List Text) : Prop :=
  ∃ ups downs, parts = ups ++ downs ∧ (∀ s ∈ ups, s = above) ∧ ∀ s ∈ downs, IsName s

/-- What remains of a path is settled, whatever was kept before if that was. -/
theorem settled_reduceFrom {downs ups : List Text} (hkept : kept = downs ++ ups)
    (hdowns : ∀ s ∈ downs, IsName s) (hups : ∀ s ∈ ups, s = above)
    (hsegs : ∀ s ∈ segs, separator ∉ s) : Settled (reduceFrom rooted kept segs) := by
  fun_induction reduceFrom rooted kept segs generalizing downs ups with
  | case1 kept =>
    refine ⟨ups.reverse, downs.reverse, by rw [hkept, List.reverse_append], ?_, ?_⟩
    · exact fun s hs => hups s (List.mem_reverse.1 hs)
    · exact fun s hs => hdowns s (List.mem_reverse.1 hs)
  | case2 kept seg rest hseg ih => exact ih hkept hdowns hups (List.forall_mem_cons.1 hsegs).2
  | case3 rest hrooted hseg ih =>
    exact ih (List.append_nil []).symm (List.forall_mem_nil _) (List.forall_mem_nil _)
      (List.forall_mem_cons.1 hsegs).2
  | case4 rest hrooted hseg ih =>
    exact ih (List.nil_append [above]).symm (List.forall_mem_nil _)
      (List.forall_mem_singleton.2 rfl) (List.forall_mem_cons.1 hsegs).2
  | case5 rest kept hseg ih =>
    -- after a way up that was kept there are no names
    cases downs with
    | cons s downs =>
      exact absurd (List.cons.inj hkept).1.symm (List.forall_mem_cons.1 hdowns).1.ne_above
    | nil =>
      refine ih (List.nil_append (above :: above :: kept)).symm (List.forall_mem_nil _) ?_
        (List.forall_mem_cons.1 hsegs).2
      exact List.forall_mem_cons.2 ⟨rfl, hkept ▸ hups⟩
  | case6 rest last kept hlast hseg ih =>
    cases downs with
    | nil =>
      have hmem : last ∈ ups := by
        rw [List.nil_append] at hkept
        exact hkept ▸ List.mem_cons_self
      exact absurd (hups last hmem) hlast
    | cons s downs =>
      exact ih (List.cons.inj hkept).2 (List.forall_mem_cons.1 hdowns).2 hups
        (List.forall_mem_cons.1 hsegs).2
  | case7 kept seg rest hseg hname ih =>
    obtain ⟨hno, hrest⟩ := List.forall_mem_cons.1 hsegs
    have hseg : IsName seg := ⟨fun h => hseg (Or.inl h), fun h => hseg (Or.inr h), hname, hno⟩
    have hkept' : seg :: kept = (seg :: downs) ++ ups := by rw [hkept, List.cons_append]
    exact ih hkept' (List.forall_mem_cons.2 ⟨hseg, hdowns⟩) hups hrest

/-- What remains of a path are segments that a path can have. -/
theorem reduce_forall (p : Text) : ∀ s ∈ reduce p, s ≠ [] ∧ separator ∉ s :=
  reduceFrom_forall (List.forall_mem_nil _) fun _ => not_mem_of_mem_segments

theorem settled_segments (rooted : Bool) (hsegs : ∀ s ∈ segs, separator ∉ s) :
    Settled (reduceFrom rooted [] segs) :=
  settled_reduceFrom (List.append_nil []).symm (List.forall_mem_nil _) (List.forall_mem_nil _) hsegs

theorem settled_reduce (p : Text) : Settled (reduce p) :=
  settled_segments _ fun _ => not_mem_of_mem_segments

/-! ## Where segments lead -/

/-- The names of some segments; empty ones lead nowhere. -/
def steps (segs : List Text) : List Bytes := (segs.filter (· ≠ [])).map Utf8.encode

theorem steps_cons {s : Text} (hs : s ≠ []) (segs : List Text) :
    steps (s :: segs) = Utf8.encode s :: steps segs := by
  rw [steps, List.filter_cons_of_pos (by simpa using hs)]
  rfl

theorem steps_cons_nil (segs : List Text) : steps ([] :: segs) = steps segs := rfl

theorem steps_append (segs more : List Text) : steps (segs ++ more) = steps segs ++ steps more := by
  rw [steps, List.filter_append, List.map_append, steps, steps]

/-- The names in the bytes of a path are those of its segments. -/
theorem names_encode (p : Text) : FileTree.names (Utf8.encode p) = steps (segments p) := by
  rw [FileTree.names, show FileTree.separator = separator.toUInt8 from by decide,
    Utf8.splitOn_encode _ (by decide), steps, List.filter_map]
  refine congrArg _ (List.filter_congr fun s _ => ?_)
  by_cases hs : s = []
  · simp [hs, show Utf8.encode [] = [] from rfl]
  · simp [hs, encode_ne_nil hs]

theorem arrive_above (loc : Location) (rest : List Bytes) :
    FileTree.arrive loc (Utf8.encode above :: rest) = FileTree.arrive loc.dropLast rest := by
  rw [show Utf8.encode above = FileTree.above from by decide, FileTree.arrive, if_neg (by decide),
    if_pos rfl]

theorem arrive_name {x : Text} (hx : IsName x) (loc : Location) (rest : List Bytes) :
    FileTree.arrive loc (Utf8.encode x :: rest)
      = FileTree.arrive (loc ++ [Utf8.encode x]) rest := by
  rw [FileTree.arrive, if_neg hx.encode_ne.1, if_neg hx.encode_ne.2]

/-- What remains of a path leads where the path leads, from the root if it starts there. -/
theorem arrive_reduceFrom {loc : Location} (hrooted : rooted = true → loc = [])
    (hkept : ∀ s ∈ kept, s = above ∧ rooted = false ∨ IsName s)
    (hsegs : ∀ s ∈ segs, separator ∉ s) :
    FileTree.arrive loc ((reduceFrom rooted kept segs).map Utf8.encode)
      = FileTree.arrive loc (kept.reverse.map Utf8.encode ++ steps segs) := by
  fun_induction reduceFrom rooted kept segs with
  | case1 kept => rw [steps, List.filter_nil, List.map_nil, List.append_nil]
  | case2 kept seg rest hseg ih =>
    rw [ih hkept (List.forall_mem_cons.1 hsegs).2, FileTree.arrive_append, FileTree.arrive_append]
    rcases hseg with rfl | rfl
    · rw [steps_cons_nil]
    · rw [steps_cons (by decide), show Utf8.encode here = FileTree.here from by decide]
      rw [FileTree.arrive, if_pos rfl]
  | case3 rest hroot hseg ih =>
    rw [ih (by simp) (List.forall_mem_cons.1 hsegs).2, hrooted hroot, steps_cons (by decide)]
    exact (arrive_above [] (steps rest)).symm
  | case4 rest hroot hseg ih =>
    rw [ih (by simpa using Or.inl hroot) (List.forall_mem_cons.1 hsegs).2, steps_cons (by decide)]
    rfl
  | case5 rest kept hseg ih =>
    obtain ⟨habove, hkept'⟩ := List.forall_mem_cons.1 hkept
    rw [ih (List.forall_mem_cons.2 ⟨habove, hkept⟩) (List.forall_mem_cons.1 hsegs).2,
      steps_cons (by decide)]
    simp
  | case6 rest last kept hlast hseg ih =>
    obtain ⟨hname, hkept'⟩ := List.forall_mem_cons.1 hkept
    rw [ih hkept' (List.forall_mem_cons.1 hsegs).2, steps_cons (by decide), List.reverse_cons,
      List.map_append, List.append_assoc, List.map_singleton, List.singleton_append,
      FileTree.arrive_append, FileTree.arrive_append,
      arrive_name (hname.resolve_left fun h => hlast h.1), arrive_above, List.dropLast_concat]
  | case7 kept seg rest hseg hname ih =>
    obtain ⟨hno, hrest⟩ := List.forall_mem_cons.1 hsegs
    have hseg' : IsName seg := ⟨fun h => hseg (Or.inl h), fun h => hseg (Or.inr h), hname, hno⟩
    rw [ih (List.forall_mem_cons.2 ⟨Or.inr hseg', hkept⟩) hrest, steps_cons hseg'.ne_nil]
    simp

/-! ## Paths as bytes -/

theorem head?_encode (p : Text) :
    (Utf8.encode p).head? = some FileTree.separator ↔ isAbsolute p = true := by
  cases p with
  | nil => exact iff_of_false nofun nofun
  | cons u p =>
    by_cases hu : u = separator
    · subst hu
      rw [Utf8.encode_cons_of_lt p (by decide)]
      exact iff_of_true rfl rfl
    · refine iff_of_false (fun hhead => ?_) (by simpa [isAbsolute] using hu)
      -- the first piece of the bytes would be empty, and so would be the first segment
      obtain ⟨rest, hrest⟩ := List.head?_eq_some_iff.1 hhead
      obtain ⟨s, segs, hsegs⟩ := List.exists_cons_of_ne_nil (segments_ne_nil p)
      have hpieces := Utf8.splitOn_encode (u :: p) (u := separator) (by decide)
      rw [show Text.splitOn separator (u :: p) = (u :: s) :: segs from segments_cons hu hsegs,
        hrest,
        show separator.toUInt8 = FileTree.separator from by decide, Ascii.splitOn,
        if_pos (beq_self_eq_true _), List.map_cons] at hpieces
      exact encode_ne_nil (List.cons_ne_nil u s) (List.cons.inj hpieces).1.symm

/-- The location of a directory that a path names is the destination of the path. -/
theorem destination_encode (base : Place) (dir : Text) :
    FileTree.destination base (Utf8.encode dir) = directoryLocation base dir := by
  rw [FileTree.destination_eq, FileTree.origin, names_encode, directoryLocation, reduce,
    arrive_reduceFrom (fun h => by rw [if_pos h]) (by simp) fun _ => not_mem_of_mem_segments]
  simp only [head?_encode]
  rfl

theorem segments_unsegments {parts : List Text} (hne : parts ≠ [])
    (h : ∀ s ∈ parts, separator ∉ s) :
    segments (unsegments parts) = parts := by
  rw [segments, Text.splitOn_eq]
  exact List.splitOn_intercalate separator h hne

theorem steps_lead (p q : Text) : steps (segments (lead p ++ q)) = steps (segments q) := by
  rw [lead]
  split
  · rw [List.singleton_append, segments_cons_separator, steps_cons_nil]
  · rfl

theorem isAbsolute_lead (hq : isAbsolute q = false) (p : Text) :
    isAbsolute (lead p ++ q) = isAbsolute p := by
  rw [lead]
  split
  · next hp => rw [hp]; rfl
  · next hp => rw [Bool.eq_false_iff.2 hp]; exact hq

/-- A separator at the end, or none. -/
def IsTrailing (ending : Text) : Prop := ending = [] ∨ ending = [separator]

theorem IsTrailing.steps {ending : Text} (h : IsTrailing ending) (p : Text) :
    steps (segments (p ++ ending)) = steps (segments p) := by
  rcases h with rfl | rfl
  · rw [List.append_nil]
  · rw [segments_append_cons, steps_append, show segments [] = [[]] from rfl, steps_cons_nil]
    exact List.append_nil _

/-- How a normal form is written: after the lead stands what remains of the path, or the root or the
same directory if nothing does. -/
theorem normalize_cases (p : Text) : ∃ body ending, IsTrailing ending
    ∧ normalize p = lead p ++ (body ++ ending) ∧ isAbsolute (body ++ ending) = false
    ∧ (body = unsegments (reduce p) ∧ (reduce p = [] → isAbsolute p = true)
      ∨ body = here ∧ reduce p = [] ∧ isAbsolute p = false) := by
  by_cases hp : p = []
  · rw [hp]
    exact ⟨here, [], Or.inl rfl, rfl, rfl, Or.inr ⟨rfl, rfl, rfl⟩⟩
  obtain ⟨ending, hending, htrailing⟩ : ∃ ending, ending
      = (if p.getLast? = some separator then [separator] else []) ∧ IsTrailing ending := by
    refine ⟨_, rfl, ?_⟩
    split
    · exact Or.inr rfl
    · exact Or.inl rfl
  rw [normalize, if_neg hp, ← hending]
  cases hparts : reduce p with
  | nil =>
    dsimp only
    cases habsolute : isAbsolute p with
    | true =>
      refine ⟨[], [], Or.inl rfl, ?_, rfl, Or.inl ⟨rfl, fun _ => rfl⟩⟩
      rw [lead, habsolute]
      rfl
    | false =>
      refine ⟨here, ending, htrailing, ?_, rfl, Or.inr ⟨rfl, rfl, rfl⟩⟩
      rw [lead, habsolute]
      rfl
  | cons part parts =>
    obtain ⟨hne, hno⟩ := reduce_forall p part (hparts ▸ List.mem_cons_self)
    refine ⟨unsegments (part :: parts), ending, htrailing, ?_, ?_,
      Or.inl ⟨rfl, fun h => absurd h (List.cons_ne_nil part parts)⟩⟩
    · exact List.append_assoc _ _ _
    · obtain ⟨u, rest, rfl⟩ := List.exists_cons_of_ne_nil hne
      have hu : u ≠ separator := fun h => hno (h ▸ List.mem_cons_self)
      have hhead : (unsegments ((u :: rest) :: parts) ++ ending).head? = some u := by
        cases parts <;> rfl
      rw [isAbsolute, hhead]
      simpa using hu

theorem isAbsolute_normalize (p : Text) : isAbsolute (normalize p) = isAbsolute p := by
  obtain ⟨body, ending, -, heq, hrelative, -⟩ := normalize_cases p
  rw [heq, isAbsolute_lead hrelative]

/-- The names in a normal form are what remains of the path; where nothing does, the normal form may
be the path of the same directory. -/
theorem steps_normalize (p : Text) : steps (segments (normalize p)) = (reduce p).map Utf8.encode
    ∨ steps (segments (normalize p)) = [FileTree.here] ∧ reduce p = [] := by
  obtain ⟨body, ending, hending, heq, -, ⟨rfl, -⟩ | ⟨rfl, hnil, -⟩⟩ := normalize_cases p
  · rw [heq, steps_lead, hending.steps]
    refine Or.inl ?_
    by_cases hnil : reduce p = []
    · rw [hnil]
      rfl
    · have hkept : (reduce p).filter (· ≠ []) = reduce p :=
        List.filter_eq_self.2 fun s hs => by simpa using (reduce_forall p s hs).1
      rw [segments_unsegments hnil fun s hs => (reduce_forall p s hs).2, steps, hkept]
  · rw [heq, steps_lead, hending.steps]
    exact Or.inr ⟨by decide, hnil⟩

theorem normalize_ne_nil (p : Text) : normalize p ≠ [] := by
  obtain ⟨body, ending, -, heq, -, ⟨rfl, habsolute⟩ | ⟨rfl, -⟩⟩ := normalize_cases p
  · by_cases hnil : reduce p = []
    · rw [heq, lead, if_pos (habsolute hnil)]
      exact List.cons_ne_nil _ _
    · obtain ⟨part, parts, hparts⟩ := List.exists_cons_of_ne_nil hnil
      obtain ⟨u, rest, rfl⟩ := List.exists_cons_of_ne_nil
        (reduce_forall p part (hparts ▸ List.mem_cons_self)).1
      have hbody : unsegments (reduce p) ≠ [] := by
        rw [hparts]
        cases parts <;> exact List.cons_ne_nil _ _
      simp [heq, hbody]
  · rw [heq]
    exact List.append_ne_nil_of_right_ne_nil _ (List.append_ne_nil_of_left_ne_nil (by decide) _)

/-- A normal form leads up at first, and then only down. -/
theorem forthright_normalize (p : Text) :
    FileTree.Forthright (FileTree.names (Utf8.encode (normalize p))) := by
  rw [names_encode]
  rcases steps_normalize p with hsteps | ⟨hsteps, -⟩
  · rw [hsteps]
    obtain ⟨ups, downs, hsplit, hups, hdowns⟩ := settled_reduce p
    refine ⟨ups.map Utf8.encode, downs.map Utf8.encode, by rw [hsplit, List.map_append], ?_, ?_⟩
    · rw [List.forall_mem_map]
      rintro s hs
      exact Or.inr (by rw [hups s hs]; decide)
    · rw [List.forall_mem_map]
      exact fun s hs => (hdowns s hs).isEntryName
  · exact ⟨_, [], by rw [hsteps, List.append_nil], by simp, by simp⟩

/-- A normal form names the directory that the path names. -/
theorem destination_normalize_eq (base : Place) (p : Text) :
    FileTree.destination base (Utf8.encode (normalize p)) = directoryLocation base p := by
  have horigin : FileTree.origin base (Utf8.encode (normalize p))
      = if isAbsolute p then [] else base.location := by
    rw [FileTree.origin, ← isAbsolute_normalize p]
    simp only [head?_encode]
  rw [FileTree.destination_eq, horigin, names_encode, directoryLocation]
  rcases steps_normalize p with hsteps | ⟨hsteps, hnil⟩
  · rw [hsteps]
  · rw [hsteps, hnil]
    rfl

/-! ## Paths below a directory -/

/-- What remains of a path that is read from a directory. -/
def parts (p : Text) : List Text := reduceFrom false [] (segments p)

theorem settled_parts (p : Text) : Settled (parts p) :=
  settled_segments _ fun _ => not_mem_of_mem_segments

theorem arrive_parts (loc : Location) (p : Text) :
    FileTree.arrive loc ((parts p).map Utf8.encode) = FileTree.arrive loc (steps (segments p)) :=
  arrive_reduceFrom nofun (by simp) fun _ => not_mem_of_mem_segments

theorem directoryLocation_below (base : Place) {dir : Text} (hdir : dir ≠ []) (p : Text) :
    directoryLocation base (below dir p)
      = FileTree.arrive (directoryLocation base dir) ((parts p).map Utf8.encode) := by
  have habsolute : isAbsolute (below dir p) = isAbsolute dir := by
    rw [below, if_neg hdir]
    obtain ⟨u, rest, rfl⟩ := List.exists_cons_of_ne_nil hdir
    rfl
  rw [arrive_parts, ← destination_encode, ← destination_encode, FileTree.destination_eq,
    FileTree.destination_eq, names_encode, names_encode, segments_below, if_neg hdir, steps_append,
    FileTree.arrive_append, FileTree.origin, FileTree.origin]
  simp only [head?_encode, habsolute]

/-- A path that is joined to a directory leads where it leads from the directory. -/
theorem destination_join_parts (base : Place) {dir : Text} (hdir : dir ≠ []) (p : Text) :
    FileTree.destination base (Utf8.encode (join dir p))
      = FileTree.arrive (directoryLocation base dir) ((parts p).map Utf8.encode) := by
  by_cases hp : p = []
  · rw [hp, join, if_neg hdir, if_pos rfl, destination_normalize_eq]
    rfl
  · rw [join_eq dir hp, destination_normalize_eq, directoryLocation_below base hdir]

theorem join_ne_nil (dir p : Text) : join dir p ≠ [] := by
  rw [join]
  split
  · exact normalize_ne_nil _
  · split <;> exact normalize_ne_nil _

theorem forthright_join (dir p : Text) :
    FileTree.Forthright (FileTree.names (Utf8.encode (join dir p))) := by
  rw [join]
  split
  · exact forthright_normalize _
  · split <;> exact forthright_normalize _

theorem isAbsolute_join {dir : Text} (h : isAbsolute dir = true) (p : Text) :
    isAbsolute (join dir p) = true := by
  cases dir with
  | nil => cases h
  | cons u dir =>
    rw [join, if_neg (List.cons_ne_nil u dir)]
    split <;> exact (isAbsolute_normalize _).trans h

/-- A path from the root leads where it leads, whatever directory others start from. -/
theorem destination_eq_of_isAbsolute (h : isAbsolute p = true) (base base' : Place) :
    FileTree.destination base (Utf8.encode p) = FileTree.destination base' (Utf8.encode p) := by
  rw [destination_encode, destination_encode, directoryLocation, directoryLocation, if_pos h,
    if_pos h]

/-- How many directories a path leads up before it leads down. -/
def climbs (p : Text) : Nat := (parts p).count above

/-- The names along which a path leads down at last. -/
def descent (p : Text) : List Text := (parts p).filter (· ≠ above)

theorem parts_eq (p : Text) : parts p = List.replicate (climbs p) above ++ descent p := by
  obtain ⟨ups, downs, hsplit, hups, hdowns⟩ := settled_parts p
  have hcount : downs.count above = 0 := List.count_eq_zero.2 fun h => (hdowns above h).ne_above rfl
  have hups' : ups = List.replicate ups.length above := List.eq_replicate_iff.2 ⟨rfl, hups⟩
  have hdrop : ups.filter (· ≠ above) = [] :=
    List.filter_eq_nil_iff.2 fun s hs => by simpa using hups s hs
  have hkeep : downs.filter (· ≠ above) = downs :=
    List.filter_eq_self.2 fun s hs => by simpa using (hdowns s hs).ne_above
  rw [climbs, descent, hsplit, List.count_append, hcount, List.filter_append, hdrop, hkeep,
    List.nil_append, Nat.add_zero, List.count_eq_length.2 fun s hs => (hups s hs).symm, ← hups']

theorem isName_of_mem_descent {s : Text} (h : s ∈ descent p) : IsName s := by
  obtain ⟨ups, downs, hsplit, hups, hdowns⟩ := settled_parts p
  rw [descent, List.mem_filter, hsplit, List.mem_append] at h
  exact h.1.elim (fun hs => absurd (hups s hs) (by simpa using h.2)) (hdowns s)

/-- Where a path leads from a location. -/
theorem arrive_parts_eq (loc : Location) (p : Text) :
    FileTree.arrive loc ((parts p).map Utf8.encode)
      = loc.take (loc.length - climbs p) ++ (descent p).map Utf8.encode := by
  have hups : ∀ n (loc : Location), FileTree.arrive loc (List.replicate n FileTree.above)
      = loc.take (loc.length - n) := by
    intro n
    induction n with
    | zero => intro loc; simp [FileTree.arrive]
    | succ n ih =>
      intro loc
      rw [List.replicate_succ, FileTree.arrive, if_neg (by decide), if_pos rfl, ih,
        List.length_dropLast, List.dropLast_eq_take, List.take_take]
      congr 1
      omega
  rw [parts_eq, List.map_append, List.map_replicate, FileTree.arrive_append,
    show Utf8.encode above = FileTree.above from by decide, hups,
    arrive_names _ fun s hs => isName_of_mem_descent hs]

/-! ## Paths that stay below -/

/-- The path leads below whatever directory it is read from. -/
def LeadsBelow (p : Text) : Prop := parts p ≠ [] ∧ above ∉ parts p

instance (p : Text) : Decidable (LeadsBelow p) := inferInstanceAs (Decidable (_ ∧ _))

theorem IsName.parts {x : Text} (hx : IsName x) : parts x = [x] := by
  rw [Path.parts, segments_of_not_mem hx.no_separator, ← List.nil_append [x],
    reduceFrom_concat hx]
  rfl

theorem IsName.leadsBelow {x : Text} (hx : IsName x) : LeadsBelow x := by
  rw [LeadsBelow, hx.parts]
  exact ⟨List.cons_ne_nil _ _, by simpa using hx.ne_above.symm⟩

theorem LeadsBelow.isName (h : LeadsBelow p) : ∀ s ∈ parts p, IsName s := by
  intro s hs
  refine isName_of_mem_descent (p := p) (List.mem_filter.2 ⟨hs, ?_⟩)
  rw [decide_eq_true_eq]
  rintro rfl
  exact h.2 hs

theorem LeadsBelow.arrive (h : LeadsBelow p) (loc : Location) :
    FileTree.arrive loc ((Path.parts p).map Utf8.encode) = loc ++ (Path.parts p).map Utf8.encode :=
  arrive_names loc h.isName

/-- The directory of a name at the root. -/
theorem directoryLocation_root (base : Place) {x : Text} (hx : IsName x) :
    directoryLocation base (separator :: x) = [Utf8.encode x] := by
  have hreduce : reduce (separator :: x) = [x] := by
    rw [reduce, segments_cons_separator, segments_of_not_mem hx.no_separator,
      show [[], x] = [[]] ++ [x] from rfl, reduceFrom_concat hx]
    rfl
  rw [directoryLocation, hreduce]
  exact arrive_names [] (List.forall_mem_singleton.2 hx)

/-- A path leads below every directory, or there is one that it leads out of or to. -/
theorem leadsBelow_iff (base : Place) : LeadsBelow p ↔ ∀ dir, isAbsolute dir = true →
    directoryLocation base dir <+: directoryLocation base (below dir p)
      ∧ directoryLocation base (below dir p) ≠ directoryLocation base dir := by
  have hsome : ∀ {dir : Text}, isAbsolute dir = true → dir ≠ [] := by
    rintro dir hdir rfl
    cases hdir
  constructor
  · intro h dir hdir
    rw [directoryLocation_below base (hsome hdir), h.arrive]
    exact ⟨List.prefix_append _ _, by simpa using h.1⟩
  · -- a directory that has another name than the first one that the path leads down to
    intro h
    obtain ⟨x, hx, hother⟩ : ∃ x, IsName x
        ∧ ((descent p).map Utf8.encode).head? ≠ some (Utf8.encode x) := by
      by_cases ha : ((descent p).map Utf8.encode).head? = some (Utf8.encode "aaa")
      · exact ⟨"bbb", isName_of_length (by decide) (by decide), by rw [ha]; decide⟩
      · exact ⟨"aaa", isName_of_length (by decide) (by decide), ha⟩
    obtain ⟨hbelow, hne⟩ := h (separator :: x) rfl
    rw [directoryLocation_below base (List.cons_ne_nil _ _), directoryLocation_root base hx,
      arrive_parts_eq] at hbelow hne
    have hparts := parts_eq p
    cases hclimbs : climbs p with
    | zero =>
      rw [hclimbs] at hparts hne
      rw [LeadsBelow, hparts, List.replicate_zero, List.nil_append]
      exact ⟨fun hnil => hne (by rw [hnil]; rfl),
        fun hmem => (isName_of_mem_descent hmem).ne_above rfl⟩
    | succ n =>
      rw [hclimbs, List.length_singleton, Nat.sub_eq_zero_of_le (Nat.le_add_left 1 n),
        List.take_zero,
        List.nil_append] at hbelow
      obtain ⟨rest, hrest⟩ := hbelow
      exact absurd (by rw [← hrest]; rfl) hother

/-! ## Endings -/

theorem reduceFrom_append_eq (rooted : Bool) (kept segs more : List Text) :
    reduceFrom rooted kept (segs ++ more)
      = reduceFrom rooted (reduceFrom rooted kept segs).reverse more := by
  induction segs generalizing kept with
  | nil => rw [List.nil_append, reduceFrom.eq_def rooted kept [], List.reverse_reverse]
  | cons seg segs ih =>
    rw [List.cons_append, reduceFrom.eq_def, reduceFrom.eq_def rooted kept (seg :: segs)]
    simp only [ih]
    split
    · rfl
    split
    · cases kept with
      | nil =>
        dsimp only
        split <;> rfl
      | cons last kept =>
        dsimp only
        split <;> rfl
    · rfl

/-- A way up that was kept first is never taken back. -/
theorem head?_reduceFrom (front : List Text) (hkept : kept = front ++ [above]) :
    (reduceFrom rooted kept segs).head? = some above := by
  fun_induction reduceFrom rooted kept segs generalizing front with
  | case1 kept => rw [hkept, List.reverse_append]; rfl
  | case2 kept seg rest hseg ih => exact ih front hkept
  | case3 rest hroot hseg ih => simp at hkept
  | case4 rest hroot hseg ih => simp at hkept
  | case5 rest kept hseg ih => exact ih (above :: front) (by rw [hkept]; rfl)
  | case6 rest last kept hlast hseg ih =>
    cases front with
    | nil => exact absurd (List.cons.inj hkept).1 hlast
    | cons s front => exact ih front (List.cons.inj hkept).2
  | case7 kept seg rest hseg hname ih => exact ih (seg :: front) (by rw [hkept]; rfl)

/-- What leads out of a directory leads out of it whatever follows. -/
theorem above_mem_reduceFrom_append {more : List Text} (hsegs : ∀ s ∈ segs, separator ∉ s)
    (h : above ∈ reduceFrom false [] segs) : above ∈ reduceFrom false [] (segs ++ more) := by
  obtain ⟨ups, downs, hsplit, hups, hdowns⟩ := settled_segments false hsegs
  rw [reduceFrom_append_eq]
  refine List.mem_of_mem_head? ?_
  cases ups with
  | nil =>
    rw [hsplit, List.nil_append] at h
    exact absurd rfl (hdowns above h).ne_above
  | cons up ups =>
    obtain rfl : up = above := hups up List.mem_cons_self
    exact head?_reduceFrom (ups ++ downs).reverse (by rw [hsplit]; simp)

/-- With an ending, the last segment of a path becomes a name. -/
theorem parts_append (hq : separator ∉ q) (hname : IsName (leaf p ++ q)) :
    parts (p ++ q) = reduceFrom false [] (directory p) ++ [leaf p ++ q] := by
  rw [parts, segments_append hq, reduceFrom_concat hname]

/-- A path that leads below a directory does so with an ending. -/
theorem LeadsBelow.append (h : LeadsBelow p) (hq : separator ∉ q) (hname : IsName (leaf p ++ q)) :
    LeadsBelow (p ++ q) := by
  rw [LeadsBelow, parts_append hq hname]
  refine ⟨by simp, ?_⟩
  rw [List.mem_append, List.mem_singleton, not_or]
  refine ⟨fun hmem => h.2 ?_, hname.ne_above.symm⟩
  rw [parts, segments_eq]
  exact above_mem_reduceFrom_append (fun _ => not_mem_of_mem_directory) hmem

end Path

end SurfaceGuard
