import SurfaceGuard.Export
import SurfaceGuard.Proofs.Host.Location
import SurfaceGuard.Proofs.Host.Task

/-!
# The graph that is found

The names of the graphs of a target start with the target and `.` or `@`, and end with
`.symbols.json`.  The two tests are made apart from each other, so they also let names through that
belong to other modules (`isGraphName_iff`): to one whose name goes on after the target and a point,
and, since the beginning and the ending may overlap, to one from which the target goes on by
`.symbols`.

Of the names that pass, the newest one is taken, and the last of the newest ones
(`findGraph_picks_newest`).
-/

namespace SurfaceGuard.Export

variable {target other name : Text}

/-! ## Names of graphs -/

/-- The name is that of a graph of the target, for any platform. -/
def IsGraphOf (target name : Text) : Prop :=
  name = target ++ graphEnding ∨ ∃ platform, name = target ++ "@" ++ platform ++ graphEnding

/-- The graph of the other module passes for one of the target. -/
def IsTakenFor (target other : Text) : Prop :=
  (∃ inner, other = target ++ "." ++ inner) ∨ target = other ++ ".symbols"

/-- A list starts and ends with two others if they stand apart in it, or share something. -/
theorem prefix_and_suffix_iff {α : Type} {front ending l : List α} :
    front <+: l ∧ ending <:+ l ↔ (∃ inner, l = front ++ inner ++ ending)
      ∨ ∃ a b c, b ≠ [] ∧ front = a ++ b ∧ ending = b ++ c ∧ l = a ++ ending := by
  constructor
  · rintro ⟨⟨rest, rfl⟩, start, h⟩
    rcases List.append_eq_append_iff.1 h with ⟨b, rfl, hending⟩ | ⟨inner, rfl, hrest⟩
    · cases b with
      | nil => exact Or.inl ⟨[], by simp [hending]⟩
      | cons u b => exact Or.inr ⟨start, u :: b, rest, List.cons_ne_nil _ _, rfl, hending, h.symm⟩
    · exact Or.inl ⟨inner, by rw [hrest, List.append_assoc]⟩
  · rintro (⟨inner, rfl⟩ | ⟨a, b, c, -, rfl, rfl, rfl⟩)
    · exact ⟨⟨inner ++ ending, by simp⟩, List.suffix_append _ _⟩
    · exact ⟨⟨c, by simp⟩, List.suffix_append _ _⟩

/-- There are two points in the ending, and no `@`. -/
theorem graphEnding_split {u : CodeUnit} {a c : Text} (hu : u = 0x2E ∨ u = 0x40)
    (h : graphEnding = a ++ u :: c) : u = 0x2E ∧ (a = [] ∨ a = ".symbols") := by
  have hunits : ∀ n < graphEnding.length, ∀ v, (v = 0x2E ∨ v = 0x40) → graphEnding[n]? = some v →
      v = 0x2E ∧ (graphEnding.take n = [] ∨ graphEnding.take n = ".symbols") := by
    rintro n hn v (rfl | rfl)
    · revert n
      decide
    · revert n
      decide
  have ha : graphEnding.take a.length = a := by rw [h, List.take_left]
  rw [← ha]
  refine hunits a.length ?_ u hu ?_
  · rw [h]
    simp
  · rw [h]
    simp

/-- A name starts with the target and a mark, and has the ending: what is between them is free, or
they overlap in a point. -/
theorem marked_iff {u : CodeUnit} (hu : u = 0x2E ∨ u = 0x40) :
    target ++ [u] <+: name ∧ graphEnding <:+ name ↔
      (∃ inner, name = target ++ [u] ++ inner ++ graphEnding)
        ∨ u = 0x2E ∧ (name = target ++ graphEnding
          ∨ ∃ other, target = other ++ ".symbols" ∧ name = other ++ graphEnding) := by
  rw [prefix_and_suffix_iff]
  refine or_congr_right ⟨?_, ?_⟩
  · rintro ⟨a, b, c, hb, hfront, hending, rfl⟩
    obtain ⟨d, v, rfl⟩ := (List.eq_nil_or_concat b).resolve_left hb
    rw [List.concat_eq_append] at hfront hending
    obtain ⟨rfl, huv⟩ := List.append_inj' (hfront.trans (List.append_assoc ..).symm) rfl
    obtain rfl := List.singleton_inj.1 huv
    obtain ⟨hpoint, rfl | rfl⟩ := graphEnding_split hu (hending.trans (List.append_assoc ..))
    · exact ⟨hpoint, Or.inl (by rw [List.append_nil])⟩
    · exact ⟨hpoint, Or.inr ⟨a, rfl, rfl⟩⟩
  · rintro ⟨rfl, rfl | ⟨other, rfl, rfl⟩⟩
    · exact ⟨target, ".", "symbols.json", by decide, rfl, by decide, rfl⟩
    · exact ⟨other, ".symbols.", "json", by decide, List.append_assoc .., by decide, rfl⟩

/-- What passes for the name of a graph of the target. -/
theorem isGraphName_iff : isGraphName target name = true ↔
    IsGraphOf target name ∨ ∃ other, IsTakenFor target other ∧ name = other ++ graphEnding := by
  have hnames : isGraphName target name = true
      ↔ (target ++ [0x2E] <+: name ∧ graphEnding <:+ name)
        ∨ (target ++ [0x40] <+: name ∧ graphEnding <:+ name) := by
    rw [isGraphName, Bool.and_eq_true, Bool.or_eq_true, Text.startsWith, Text.startsWith,
      Text.endsWith, List.isPrefixOf_iff_prefix, List.isPrefixOf_iff_prefix,
      List.isSuffixOf_iff_suffix, and_comm, or_and_right]
    rfl
  rw [hnames, marked_iff (Or.inl rfl), marked_iff (Or.inr rfl)]
  constructor
  · rintro ((⟨inner, rfl⟩ | ⟨-, rfl | ⟨other, rfl, rfl⟩⟩) | (⟨platform, rfl⟩ | ⟨hpoint, -⟩))
    · exact Or.inr ⟨_, Or.inl ⟨inner, rfl⟩, rfl⟩
    · exact Or.inl (Or.inl rfl)
    · exact Or.inr ⟨other, Or.inr rfl, rfl⟩
    · exact Or.inl (Or.inr ⟨platform, rfl⟩)
    · exact absurd hpoint (by decide)
  · rintro ((rfl | ⟨platform, rfl⟩) | ⟨other, ⟨inner, rfl⟩ | rfl, rfl⟩)
    · exact Or.inl (Or.inr ⟨rfl, Or.inl rfl⟩)
    · exact Or.inr (Or.inl ⟨platform, rfl⟩)
    · exact Or.inl (Or.inl ⟨inner, rfl⟩)
    · exact Or.inl (Or.inr ⟨rfl, Or.inr ⟨other, rfl, rfl⟩⟩)

/-- A graph that passes for one of the target is none of its own. -/
theorem IsTakenFor.not_isGraphOf (h : IsTakenFor target other) :
    ¬IsGraphOf target (other ++ graphEnding) := by
  have hcut : IsGraphOf target (other ++ graphEnding) →
      other = target ∨ ∃ platform, other = target ++ "@" ++ platform :=
    Or.imp List.append_cancel_right (Exists.imp fun _ => List.append_cancel_right)
  have hpoint : (Text.ofString ".").length = 1 := rfl
  have hword : (Text.ofString ".symbols").length = 8 := rfl
  intro hgraph
  rcases h with ⟨inner, rfl⟩ | rfl
  · rcases hcut hgraph with h | ⟨platform, h⟩
    · have hlength := congrArg List.length h
      simp only [List.length_append, hpoint] at hlength
      omega
    · rw [List.append_assoc, List.append_assoc] at h
      exact absurd (List.cons.inj (List.append_cancel_left h)).1 (by decide)
  · -- the target is longer than the other name
    rcases hcut hgraph with h | ⟨platform, h⟩
    all_goals
      have hlength := congrArg List.length h
      simp only [List.length_append, hword] at hlength
      omega

/-! ## The newest of some files -/

section Newest

variable {α : Type} {p q : α → Prop} {time : α → Int} {l : List α} {a b : α}

/-- Of those in the list with the property it is the newest, and the last of the newest. -/
def IsNewest (p : α → Prop) (time : α → Int) (l : List α) (a : α) : Prop :=
  p a ∧ ∃ before after, l = before ++ a :: after ∧ (∀ b ∈ before, p b → time b ≤ time a)
    ∧ ∀ b ∈ after, p b → time b < time a

theorem IsNewest.mem (h : IsNewest p time l a) : a ∈ l := by
  obtain ⟨-, before, after, rfl, -⟩ := h
  exact List.mem_append_right _ List.mem_cons_self

theorem IsNewest.eq (ha : IsNewest p time l a) (hb : IsNewest p time l b) : a = b := by
  obtain ⟨hpa, before, after, rfl, hbefore, hafter⟩ := ha
  obtain ⟨hpb, before', after', h, hbefore', hafter'⟩ := hb
  -- if one stood before the other, it would be older
  rcases List.append_eq_append_iff.1 h with ⟨c, rfl, hrest⟩ | ⟨c, rfl, hrest⟩
  · cases c with
    | nil => exact (List.cons.inj hrest).1
    | cons u c =>
      obtain ⟨rfl, rfl⟩ := List.cons.inj hrest
      have hle := hbefore' a (by simp) hpa
      have hlt := hafter b (by simp) hpb
      omega
  · cases c with
    | nil => exact (List.cons.inj hrest).1.symm
    | cons u c =>
      obtain ⟨rfl, rfl⟩ := List.cons.inj hrest
      have hle := hbefore b (by simp) hpb
      have hlt := hafter' a (by simp) hpa
      omega

theorem exists_isNewest (time : α → Int) (h : ∃ a ∈ l, p a) : ∃ a, IsNewest p time l a := by
  induction l with
  | nil => simp at h
  | cons x l ih =>
    by_cases hl : ∃ a ∈ l, p a
    · obtain ⟨a, hpa, before, after, rfl, hbefore, hafter⟩ := ih hl
      by_cases hx : p x ∧ time a < time x
      · refine ⟨x, hx.1, [], _, rfl, by simp, fun b hb hpb => lt_of_le_of_lt ?_ hx.2⟩
        rcases List.mem_append.1 hb with hb | hb
        · exact hbefore b hb hpb
        · rcases List.mem_cons.1 hb with rfl | hb
          · exact le_rfl
          · exact (hafter b hb hpb).le
      · refine ⟨a, hpa, x :: before, after, rfl, ?_, hafter⟩
        refine List.forall_mem_cons.2 ⟨fun hpx => ?_, hbefore⟩
        by_contra hlt
        exact hx ⟨hpx, not_le.1 hlt⟩
    · have hx : p x := by
        obtain ⟨a, ha, hpa⟩ := h
        rcases List.mem_cons.1 ha with rfl | ha
        · exact hpa
        · exact absurd ⟨a, ha, hpa⟩ hl
      exact ⟨x, hx, [], l, rfl, by simp, fun b hb hpb => absurd ⟨b, hb, hpb⟩ hl⟩

end Newest

/-- The later one of two files, of which the second one counts if neither is older. -/
def newer (best? : Option (Text × Int)) (f : Text × Int) : Option (Text × Int) :=
  match best? with
  | some best => if f.2 < best.2 then some best else some f
  | none => some f

section Newer

variable {files : List (Text × Int)} {f : Text × Int}

theorem newest?_eq_foldl (files : List (Text × Int)) :
    newest? files = (files.foldl newer none).map Prod.fst := rfl

theorem newer_of_le {best? : Option (Text × Int)} (h : ∀ g ∈ best?, g.2 ≤ f.2) :
    newer best? f = some f := by
  cases best? with
  | none => rfl
  | some g => exact if_neg (not_lt.2 (h g rfl))

theorem foldl_newer_le {best? : Option (Text × Int)} {t : Int} (hbest : ∀ g ∈ best?, g.2 ≤ t)
    (h : ∀ g ∈ files, g.2 ≤ t) : ∀ g ∈ files.foldl newer best?, g.2 ≤ t := by
  induction files generalizing best? with
  | nil => exact hbest
  | cons f files ih =>
    obtain ⟨hf, hfiles⟩ := List.forall_mem_cons.1 h
    refine ih (fun g hg => ?_) hfiles
    cases best? with
    | none =>
      cases hg
      exact hf
    | some best =>
      rw [newer] at hg
      split at hg
      · exact hbest g hg
      · cases hg
        exact hf

theorem foldl_newer_of_lt (h : ∀ g ∈ files, g.2 < f.2) : files.foldl newer (some f) = some f := by
  induction files with
  | nil => rfl
  | cons g files ih =>
    obtain ⟨hg, hfiles⟩ := List.forall_mem_cons.1 h
    rw [List.foldl_cons, newer, if_pos hg, ih hfiles]

/-- A file that is not older than those before it, and newer than those after it, is taken. -/
theorem newest?_append {before after : List (Text × Int)} (hbefore : ∀ g ∈ before, g.2 ≤ f.2)
    (hafter : ∀ g ∈ after, g.2 < f.2) : newest? (before ++ f :: after) = some f.1 := by
  rw [newest?_eq_foldl, List.foldl_append, List.foldl_cons,
    newer_of_le (foldl_newer_le (by simp) hbefore), foldl_newer_of_lt hafter]
  rfl

end Newer

/-! ## Looking into a directory -/

/-- The directory is there and has the names; and those that pass for names of graphs of the target
have been changed at the times. -/
structure Listing (dir target : Text) (names : List Text) (time : Text → Int) (w : World) :
    Prop where
  isThere : Task.pathExists dir w = (.ok true, w)
  listed : Task.listDirectory dir w = (.ok names, w)
  times : ∀ name ∈ names, isGraphName target name = true →
    Task.modifiedAt (Path.join dir name) w = (.ok (time name), w)

/-- Of the names with the property the newest is found, and the last of the newest; none is found
only if there is none. -/
structure Picks (p : Text → Prop) (dir : Text) (names : List Text) (time : Text → Int)
    (found? : Option Text) : Prop where
  none_iff : found? = none ↔ ∀ name ∈ names, ¬p name
  some_iff : ∀ path, found? = some path ↔ ∃ name, IsNewest p time names name
    ∧ path = Path.join dir name

variable {dir : Text} {names : List Text} {time : Text → Int} {w : World}

/-- A directory that may be read is listed with its entries in ascending order. -/
theorem Listing.of_entries (entries : List Bytes)
    (hzero : dir.contains 0 = false)
    (hfind : ((w.files.find w.directory (Utf8.encode dir)).toOption.map fun s =>
      (s.node.isDirectory, s.node.allows .read, s.node.entries.map Prod.fst))
        = some (true, true, entries))
    (hsorted : Ascii.sort entries = entries)
    (htimes : ∀ name ∈ entries.map Utf8.decode,
      (Task.modifiedAt (Path.join dir name) w).1.toOption = some (time name)) :
    Listing dir target (entries.map Utf8.decode) time w := by
  obtain ⟨s, hs, hnode⟩ := Option.map_eq_some_iff.1 hfind
  simp only [Prod.mk.injEq] at hnode
  obtain ⟨hdirectory, hreadable, hentries⟩ := hnode
  have hspot : w.files.find w.directory (Utf8.encode dir) = .ok s := eq_ok_of_toOption hs
  have hlist : w.files.list w.directory (Utf8.encode dir) = .ok entries := by
    rw [FileTree.list, hspot]
    change (if !s.node.isDirectory then Except.error Errno.notDirectory
      else if !s.node.allows .read then .error .accessDenied else .ok s.node.names) = _
    rw [hdirectory, hreadable, Node.names, hentries, hsorted]
    rfl
  refine ⟨?_, ?_, fun name hname _ => ?_⟩
  · rw [Task.pathExists_eq, FileTree.hasPath, hspot, hzero]
    rfl
  · have hpath : Task.pathOf dir w = (.ok (Utf8.encode dir), w) := by
      rw [Task.pathOf, Task.pathFor, if_neg (Bool.eq_false_iff.1 hzero)]
      rfl
    have hnames : (Task.look (fun w => w.files.list w.directory (Utf8.encode dir)) >>= fun names =>
        Task.ofExcept (names.mapError (Task.systemError · "scandir" dir))) w
          = (.ok entries, w) := by
      refine (Task.bind_of_ok (a := .ok entries) ?_).trans rfl
      rw [← hlist]
      rfl
    exact (Task.bind_of_ok hpath).trans (Task.bind_of_ok hnames)
  · have hreads : (Task.modifiedAt (Path.join dir name)).Reads :=
      (Task.reads_pathFor "path" _).bind fun _ => (Task.reads_look _).bind fun _ =>
        Task.reads_ofExcept _
    exact Prod.ext (eq_ok_of_toOption (htimes name hname)) (hreads w)

theorem stampAll_map (names : List Text) (h : ∀ name ∈ names,
    Task.modifiedAt (Path.join dir name) w = (.ok (time name), w)) :
    stampAll (names.map (Path.join dir)) w
      = (.ok (names.map fun name => (Path.join dir name, time name)), w) := by
  induction names with
  | nil => rfl
  | cons name names ih =>
    obtain ⟨hname, hnames⟩ := List.forall_mem_cons.1 h
    exact (Task.bind_of_ok hname).trans (Task.bind_of_ok (ih hnames))

theorem findGraph_of_listing (h : Listing dir target names time w) :
    findGraph dir target w = (.ok (newest? ((names.filter (isGraphName target)).map
      fun name => (Path.join dir name, time name))), w) := by
  have hstamps := stampAll_map (names.filter (isGraphName target)) fun name hname =>
    h.times name (List.mem_of_mem_filter hname) (List.of_mem_filter hname)
  exact (Task.bind_of_ok h.isThere).trans
    ((Task.bind_of_ok h.listed).trans (Task.bind_of_ok hstamps))

/-- It is enough to know what the newest one leads to. -/
theorem Picks.intro {p : Text → Prop} {found? : Option Text}
    (hnone : (∀ name ∈ names, ¬p name) → found? = none)
    (hsome : ∀ name, IsNewest p time names name → found? = some (Path.join dir name)) :
    Picks p dir names time found? := by
  by_cases h : ∃ name ∈ names, p name
  · obtain ⟨name, hname⟩ := exists_isNewest time h
    rw [hsome name hname]
    refine ⟨iff_of_false (Option.some_ne_none _) fun hall => hall name hname.mem hname.1,
      fun path => ⟨fun hpath => ⟨name, hname, (Option.some.inj hpath).symm⟩, ?_⟩⟩
    rintro ⟨name', hname', rfl⟩
    rw [hname.eq hname']
  · have hall : ∀ name ∈ names, ¬p name := fun name hname hp => h ⟨name, hname, hp⟩
    rw [hnone hall]
    refine ⟨iff_of_true rfl hall, fun path => iff_of_false (Option.some_ne_none path).symm ?_⟩
    rintro ⟨name, hname, -⟩
    exact hall name hname.mem hname.1

/-- Of the names that pass for those of graphs of the target the newest is found. -/
theorem picks_newest? : Picks (isGraphName target · = true) dir names time
    (newest? ((names.filter (isGraphName target)).map
      fun name => (Path.join dir name, time name))) := by
  refine .intro (fun hall => ?_) fun name hname => ?_
  · rw [List.filter_eq_nil_iff.2 hall]
    rfl
  · obtain ⟨hgraph, before, after, rfl, hbefore, hafter⟩ := hname
    rw [List.filter_append, List.filter_cons_of_pos hgraph, List.map_append, List.map_cons]
    refine newest?_append ?_ ?_
    · rw [List.forall_mem_map]
      exact fun b hb => hbefore b (List.mem_of_mem_filter hb) (List.of_mem_filter hb)
    · rw [List.forall_mem_map]
      exact fun b hb => hafter b (List.mem_of_mem_filter hb) (List.of_mem_filter hb)

/-- If the newest of all has a property, it is the newest of those with that property. -/
theorem Picks.of_newest {p q : Text → Prop} {found? : Option Text}
    (h : Picks p dir names time found?) (hsub : ∀ name, q name → p name)
    (hq : ∀ name, IsNewest p time names name → q name) : Picks q dir names time found? := by
  by_cases hsome : ∃ name ∈ names, p name
  · obtain ⟨name, hname⟩ := exists_isNewest time hsome
    have hnewest : IsNewest q time names name := by
      obtain ⟨-, before, after, heq, hbefore, hafter⟩ := id hname
      exact ⟨hq name hname, before, after, heq, fun b hb hqb => hbefore b hb (hsub b hqb),
        fun b hb hqb => hafter b hb (hsub b hqb)⟩
    refine .intro (fun hall => absurd hnewest.1 (hall name hnewest.mem)) fun name' hname' => ?_
    rw [hname'.eq hnewest]
    exact (h.some_iff _).2 ⟨name, hname, rfl⟩
  · have hall : ∀ name ∈ names, ¬p name := fun name hname hp => hsome ⟨name, hname, hp⟩
    exact .intro (fun _ => h.none_iff.2 hall) fun name hname =>
      absurd (hsub name hname.1) (hall name hname.mem)

/-- What passes for the name of a graph of the target is one of its own or that of certain other
modules, never both.  If the directory is not there, nothing is found; otherwise it is the path of
the newest one that passes, and the last of the newest, and nothing only if none passes.  So a graph
of the target is found as it should be whenever that newest one is no graph of another module. -/
theorem findGraph_picks_newest (dir target : Text) (w : World) :
    (∀ name, isGraphName target name = true ↔ IsGraphOf target name
      ∨ ∃ other, IsTakenFor target other ∧ name = other ++ graphEnding)
    ∧ (∀ other, IsTakenFor target other → ¬IsGraphOf target (other ++ graphEnding))
    ∧ (Task.pathExists dir w = (.ok false, w) → findGraph dir target w = (.ok none, w))
    ∧ ∀ names time, Listing dir target names time w →
      ∃ found?, findGraph dir target w = (.ok found?, w)
        ∧ Picks (isGraphName target · = true) dir names time found?
        ∧ ((∀ other, IsTakenFor target other →
            ¬IsNewest (isGraphName target · = true) time names (other ++ graphEnding)) →
          Picks (IsGraphOf target) dir names time found?) := by
  refine ⟨fun name => isGraphName_iff, fun other h => h.not_isGraphOf,
    fun hmissing => Task.bind_of_ok hmissing, fun names time h =>
      ⟨_, findGraph_of_listing h, picks_newest?, fun hown => ?_⟩⟩
  refine picks_newest?.of_newest (fun name hname => isGraphName_iff.2 (Or.inl hname)) ?_
  intro name hname
  refine (isGraphName_iff.1 hname.1).resolve_right ?_
  rintro ⟨other, hother, rfl⟩
  exact hown other hother hname

/-- The newer one of two graphs of the target is found, whatever there is of another module. -/
theorem findGraph_picks_newest_of_platforms :
    let file (serial : Nat) (time : Int) : Node := .file ⟨serial, 0o644, time⟩ []
    let graphs : Node := .directory ⟨1, 0o755, 0⟩ [("Mod.symbols.json", file 2 1000),
      ("Mod@linux.symbols.json", file 3 2000), ("Other.symbols.json", file 4 3000)]
    let w : World := .quiet ⟨.directory ⟨0, 0o755, 0⟩ [("g", graphs)], 5⟩
    let names : List Text := ["Mod.symbols.json", "Mod@linux.symbols.json", "Other.symbols.json"]
    let time (name : Text) : Int := if name = "Mod.symbols.json" then 1000
      else if name = "Mod@linux.symbols.json" then 2000 else 3000
    Listing "g" "Mod" names time w
      ∧ findGraph "g" "Mod" w = (.ok (some "g/Mod@linux.symbols.json"), w) := by
  intro file graphs w names time
  have h : Listing "g" "Mod" names time w := .of_entries
    ["Mod.symbols.json", "Mod@linux.symbols.json", "Other.symbols.json"]
    (by decide) (by decide +kernel) (List.mergeSort_of_pairwise (by decide)) (by decide +kernel)
  obtain ⟨found?, hfound, hpicks, -⟩ := (findGraph_picks_newest "g" "Mod" w).2.2.2 names time h
  have hnewest : IsNewest (isGraphName "Mod" · = true) time names "Mod@linux.symbols.json" :=
    ⟨by decide, ["Mod.symbols.json"], ["Other.symbols.json"], rfl, by decide, by decide⟩
  refine ⟨h, ?_⟩
  rw [hfound, (hpicks.some_iff _).2 ⟨_, hnewest, rfl⟩]
  congr

/-- The graph of another module is found where there is none of the target. -/
theorem findGraph_picks_other :
    let holding (name : Bytes) : World := .quiet ⟨.directory ⟨0, 0o755, 0⟩
      [("g", .directory ⟨1, 0o755, 0⟩ [(name, .file ⟨2, 0o644, 0⟩ [])])], 3⟩
    let isMistaken (target name : Text) (w : World) : Prop :=
      Listing "g" target [name] (fun _ => 0) w ∧ ¬IsGraphOf target name
        ∧ findGraph "g" target w = (.ok (some (Path.join "g" name)), w)
    isMistaken "Mod" "Mod.Sub.symbols.json" (holding "Mod.Sub.symbols.json")
      ∧ isMistaken "Mod.symbols" "Mod.symbols.json" (holding "Mod.symbols.json") := by
  intro holding isMistaken
  have hmistaken : ∀ target other w, IsTakenFor target other →
      Listing "g" target [other ++ graphEnding] (fun _ => 0) w →
      isMistaken target (other ++ graphEnding) w := by
    intro target other w hother h
    refine ⟨h, hother.not_isGraphOf, ?_⟩
    rw [findGraph_of_listing h,
      List.filter_cons_of_pos (isGraphName_iff.2 (Or.inr ⟨other, hother, rfl⟩))]
    rfl
  exact ⟨hmistaken "Mod" "Mod.Sub" _ (Or.inl ⟨"Sub", by decide⟩)
      (.of_entries ["Mod.Sub.symbols.json"] (by decide) (by decide +kernel)
        (List.mergeSort_singleton _) (by decide +kernel)),
    hmistaken "Mod.symbols" "Mod" _ (Or.inr (by decide))
      (.of_entries ["Mod.symbols.json"] (by decide) (by decide +kernel)
        (List.mergeSort_singleton _) (by decide +kernel))⟩

end SurfaceGuard.Export
