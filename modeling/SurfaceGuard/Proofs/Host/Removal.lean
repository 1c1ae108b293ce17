import SurfaceGuard.Proofs.Host.Names
import SurfaceGuard.Proofs.Host.Operations

/-!
# What a removal takes away

Whatever is removed with everything below it, and wherever the removal stops, something is lost
below the destination of the path at most, and all else stays (`clears_removeAll`).  The paths of
what is below are built from the names in the tree, so these must be names that an entry can have
(`WellNamed`).

After a removal that is not refused nothing is at the destination, unless the path starts at a
directory that went away with it (`removeAll_ok`).
-/

namespace SurfaceGuard.FileTree

variable {t t' u : FileTree} {base : Place} {time : Int} {path : Bytes}

/-- All names in the tree are names that an entry can have. -/
def WellNamed (t : FileTree) : Prop :=
  ∀ loc n, t.face? loc = some n → ∀ name ∈ loc, IsEntryName name

theorem wellNamed_empty : empty.WellNamed := by
  intro loc n hn
  cases loc with
  | nil => exact List.forall_mem_nil _
  | cons name rest => cases hn

/-- The second tree is the first one without some of what is at a location and below it. -/
def Clears (t : FileTree) (loc : Location) (t' : FileTree) : Prop :=
  ∀ other, t'.face? other = t.face? other ∨ loc <+: other ∧ t'.face? other = none

namespace Clears

variable {loc : Location}

theorem refl (t : FileTree) (loc : Location) : t.Clears loc t := fun _ => Or.inl rfl

theorem trans (h : t.Clears loc u) (h' : u.Clears loc t') : t.Clears loc t' := by
  intro other
  rcases h' other with heq | hlost
  · rcases h other with heq' | ⟨hp, hnone⟩
    · exact Or.inl (heq.trans heq')
    · exact Or.inr ⟨hp, heq.trans hnone⟩
  · exact Or.inr hlost

/-- What is below a location is below those above it. -/
theorem mono {front : Location} (h : t.Clears loc t') (hp : front <+: loc) : t.Clears front t' :=
  fun other => (h other).imp_right fun ⟨hloc, hnone⟩ => ⟨hp.trans hloc, hnone⟩

theorem wellNamed (h : t.Clears loc t') (ht : t.WellNamed) : t'.WellNamed := by
  intro other n hn
  rcases h other with heq | ⟨-, hnone⟩
  · exact ht other n (heq ▸ hn)
  · rw [hnone] at hn
    cases hn

end Clears

/-! ## Taking away an entry -/

theorem entry?_withoutEntry (n : Node) (name key : Bytes) (time : Int) :
    Node.entry? (n.withoutEntry name time) key = if key = name then none else n.entry? key := by
  cases n with
  | directory a entries => exact Node.lookup_filter_ne name key entries
  | _ => split <;> rfl

theorem face_withoutEntry (n : Node) (name : Bytes) (time : Int) :
    (n.withoutEntry name time).face = n.face := by
  cases n <;> rfl

/-- Without the entry that led to it, a spot is lost with everything below it, and nothing else. -/
theorem face?_removeEntry {s : Spot} (h : t.removeEntry s time = .ok t') (other : Location) :
    t'.face? other = if s.location <+: other then none else t.face? other := by
  rw [removeEntry] at h
  split at h
  · cases h
  next name directory way hway =>
  split at h
  · cases h
    have hloc : s.location = s.above.location ++ [name] := by
      simp [Spot.location, Spot.above, hway]
    rw [hloc]
    by_cases hp : s.above.location <+: other
    · obtain ⟨rest, rfl⟩ := hp
      rw [face?, face?, node?_change, node?_append]
      simp only [List.prefix_append_right_inj]
      cases t.node? s.above.location with
      | none => simp
      | some n =>
        cases rest with
        | nil => simp [Node.find?, face_withoutEntry]
        | cons key rest =>
          simp only [Option.bind_some, Node.find?, entry?_withoutEntry, List.cons_prefix_cons,
            List.nil_prefix, and_true]
          by_cases hkey : key = name
          · rw [if_pos hkey, if_pos hkey.symm]
            rfl
          · rw [if_neg hkey, if_neg (Ne.symm hkey)]
    · rw [face?_change_elsewhere _ hp,
        if_neg fun hlong => hp ((List.prefix_append _ _).trans hlong)]
  · cases h

theorem clears_removeEntry {s : Spot} (h : t.removeEntry s time = .ok t') :
    t.Clears s.location t' := by
  intro other
  rw [face?_removeEntry h]
  split
  · next hp => exact Or.inr ⟨hp, rfl⟩
  · exact Or.inl rfl

theorem removeEntry_ne_noEntry (t : FileTree) (s : Spot) (time : Int) :
    t.removeEntry s time ≠ .error .noEntry := by
  rw [removeEntry]
  split
  · rintro ⟨⟩
  · split <;> rintro ⟨⟩

/-! ## One path -/

/-- The removal of what a path leads to, without a look below it. -/
def removeHere (base : Place) (time : Int) (path : Bytes) (t : FileTree) (operation : Text) :
    Option RemoveError × FileTree :=
  match (t.find base path).bind (t.removeEntry · time) with
  | .ok t => (none, t)
  | .error .noEntry => (none, t)
  | .error e => (some ⟨e, operation, path⟩, t)

theorem removeHere_cases {operation : Text} {e? : Option RemoveError}
    (h : removeHere base time path t operation = (e?, t')) :
    (∃ s, t.find base path = .ok s ∧ t.removeEntry s time = .ok t')
      ∨ t' = t ∧ (e? = none → t.find base path = .error .noEntry) := by
  rw [removeHere] at h
  split at h
  · next files hremove =>
    cases h
    exact Or.inl (exists_of_bind_ok hremove)
  · next hremove =>
    cases h
    refine Or.inr ⟨rfl, fun _ => ?_⟩
    cases hfind : t.find base path with
    | error e =>
      rw [hfind] at hremove
      cases hremove
      rfl
    | ok s =>
      rw [hfind] at hremove
      exact absurd hremove (removeEntry_ne_noEntry t s time)
  · cases h
    exact Or.inr ⟨rfl, nofun⟩

/-- What is below a path goes first. -/
def removeContent (base : Place) (time : Int) (fuel : Nat) (path : Bytes) (s : Spot)
    (t : FileTree) :
    Option RemoveError × FileTree :=
  foldSteps (removeBelow base time fuel) t (s.node.names.map fun name => path ++ separator :: name)

/-- The ways that the removal of a path can go. -/
theorem removeBelow_cases {fuel : Nat} {e? : Option RemoveError}
    (h : removeBelow base time (fuel + 1) t path = (e?, t')) :
    (t' = t ∧ (e? = none → t.find base path = .error .noEntry))
      ∨ (∃ operation, removeHere base time path t operation = (e?, t'))
      ∨ ∃ s, t.find base path = .ok s
        ∧ (e? ≠ none ∧ (removeContent base time fuel path s t).2 = t'
          ∨ ∃ operation,
            removeHere base time path (removeContent base time fuel path s t).2 operation
            = (e?, t')) := by
  rw [removeBelow] at h
  split at h
  · next hfind =>
    cases h
    exact Or.inl ⟨rfl, fun _ => hfind⟩
  · cases h
    exact Or.inl ⟨rfl, nofun⟩
  next s hfind =>
  split at h
  · exact Or.inr (Or.inl ⟨_, h⟩)
  split at h
  · exact Or.inr (Or.inl ⟨_, h⟩)
  split at h
  · cases h
    exact Or.inl ⟨rfl, nofun⟩
  refine Or.inr (Or.inr ⟨s, hfind, ?_⟩)
  split at h
  · next u hcontent =>
    rw [removeContent, hcontent]
    exact Or.inr ⟨_, h⟩
  · next hcontent =>
    refine Or.inl ⟨?_, ?_⟩
    · rintro rfl
      exact hcontent t' h
    · rw [removeContent, h]

/-! ## A path with everything below it -/

theorem clears_removeHere {operation : Text} {e? : Option RemoveError}
    (h : removeHere base time path t operation = (e?, t')) :
    t.Clears (destination base path) t' := by
  rcases removeHere_cases h with ⟨s, hfind, hremove⟩ | ⟨rfl, -⟩
  · rw [← (find_spot hfind).2]
    exact clears_removeEntry hremove
  · exact .refl _ _

/-- What every step keeps is kept by all of them, however far they come. -/
theorem foldSteps_of_step {α ε : Type} {step : FileTree → α → Option ε × FileTree} {l : List α}
    {P : FileTree → Prop} (hstep : ∀ u, P u → ∀ a ∈ l, P (step u a).2) (ht : P t) :
    P (foldSteps step t l).2 := by
  induction l generalizing t with
  | nil => exact ht
  | cons a rest ih =>
    obtain ⟨ha, hrest⟩ : P (step t a).2 ∧ ∀ u, P u → ∀ a ∈ rest, P (step u a).2 :=
      ⟨hstep t ht a List.mem_cons_self, fun u hu b hb => hstep u hu b (List.mem_cons_of_mem a hb)⟩
    rw [foldSteps]
    split
    · next u hu =>
      rw [hu] at ha
      exact ih hrest ha
    · next e u hu =>
      rw [hu] at ha
      exact ha

/-- The names of a directory lead somewhere. -/
theorem exists_face?_of_mem_names {s : Spot} {name : Bytes} (hs : t.Has s)
    (hname : name ∈ s.node.names) : ∃ n, t.face? (s.location ++ [name]) = some n := by
  rw [Node.names, Ascii.sort, List.mem_mergeSort, List.mem_map] at hname
  obtain ⟨⟨name, child⟩, hmem, rfl⟩ := hname
  have hentry : (s.node.entry? name).isSome = true := by
    rw [Node.entry?, List.lookup_isSome_iff]
    exact ⟨_, hmem, beq_self_eq_true name⟩
  obtain ⟨child, hchild⟩ := Option.isSome_iff_exists.1 hentry
  refine ⟨child.face, ?_⟩
  rw [← location_below s name child, face?, (hs.entry hchild).node?]
  rfl

/-- Whatever becomes of it, a removal takes away nothing but what is at the destination of the path
and below it. -/
theorem clears_removeBelow (ht : t.WellNamed) (fuel : Nat) :
    t.Clears (destination base path) (removeBelow base time fuel t path).2 := by
  induction fuel generalizing t path with
  | zero => exact .refl _ _
  | succ fuel ih =>
    obtain ⟨e?, t', h⟩ : ∃ e? t', removeBelow base time (fuel + 1) t path = (e?, t') := ⟨_, _, rfl⟩
    rw [h]
    rcases removeBelow_cases h with ⟨rfl, -⟩ | ⟨operation, hhere⟩ | ⟨s, hfind, hcontent⟩
    · exact .refl _ _
    · exact clears_removeHere hhere
    have hpath : path ≠ [] := by
      rintro rfl
      cases hfind
    obtain ⟨hhas, hloc⟩ := find_spot hfind
    have hclears : t.Clears (destination base path) (removeContent base time fuel path s t).2 := by
      refine foldSteps_of_step (P := t.Clears (destination base path)) ?_ (.refl _ _)
      intro u hu child hchild
      obtain ⟨name, hname, rfl⟩ := List.mem_map.1 hchild
      obtain ⟨n, hn⟩ := exists_face?_of_mem_names hhas hname
      have hentry : IsEntryName name := ht _ n hn name List.mem_concat_self
      have hbelow : u.Clears (destination base (path ++ separator :: name))
          (removeBelow base time fuel u (path ++ separator :: name)).2 := ih (hu.wellNamed ht)
      rw [destination_child hpath hentry] at hbelow
      exact hu.trans (hbelow.mono (List.prefix_append _ _))
    rcases hcontent with ⟨-, rfl⟩ | ⟨operation, hhere⟩
    · exact hclears
    · exact hclears.trans (clears_removeHere hhere)

theorem clears_removeAll (ht : t.WellNamed) {e? : Option RemoveError}
    (h : t.removeAll base path time = (e?, t')) : t.Clears (destination base path) t' := by
  have hclears : t.Clears (destination base path) (t.removeAll base path time).2 :=
    clears_removeBelow ht pathLimit
  rwa [h] at hclears

/-! ## Removals that are not refused -/

/-- Nothing is at a location and below it. -/
def IsBare (t : FileTree) (loc : Location) : Prop := ∀ other, loc <+: other → t.face? other = none

theorem isBare_of_face? {loc : Location} (h : t.face? loc = none) : t.IsBare loc :=
  fun _ hp => face?_eq_none_of_prefix h hp

theorem removeHere_ok (hnames : Forthright (names path)) (hpath : path ≠ []) {operation : Text}
    (h : removeHere base time path t operation = (none, t')) :
    t'.IsBare (destination base path) ∨ t'.Stranded base path := by
  rcases removeHere_cases h with ⟨s, hfind, hremove⟩ | ⟨rfl, hnone⟩
  · refine Or.inl fun other hp => ?_
    rw [face?_removeEntry hremove, (find_spot hfind).2, if_pos hp]
  · exact (lost_of_find hnames hpath (hnone rfl)).imp_left isBare_of_face?

/-- After a removal nothing is at the destination of the path, unless the start of the path is
lost. -/
theorem removeAll_ok (hnames : Forthright (names path)) (hpath : path ≠ [])
    (h : t.removeAll base path time = (none, t')) :
    t'.IsBare (destination base path) ∨ t'.Stranded base path := by
  rw [removeAll, pathLimit] at h
  rcases removeBelow_cases h with ⟨rfl, hnone⟩ | ⟨operation, hhere⟩ | ⟨s, -, ⟨hne, -⟩ | ⟨_, hhere⟩⟩
  · exact (lost_of_find hnames hpath (hnone rfl)).imp_left isBare_of_face?
  · exact removeHere_ok hnames hpath hhere
  · exact absurd rfl hne
  · exact removeHere_ok hnames hpath hhere

end SurfaceGuard.FileTree
