import SurfaceGuard.Proofs.Host.Names
import SurfaceGuard.Proofs.Host.Operations

/-!
# What making directories adds

When a directory is made with those above it, each of them is where the first names of the path
lead.  So along a forthright path nothing is made but directories on the way to its destination
(`paves_makeDirectories`), and once nothing fails, a directory is there (`makeDirectories_ok`).
From a start that is lost nothing can be made (`Stranded.makeDirectories_ne_none`).
-/

namespace SurfaceGuard.FileTree

variable {t t' u : FileTree} {base : Place} {time : Int} {path : Bytes}

/-- The second tree is the first one with directories more, on the way to a location. -/
def Paves (t : FileTree) (loc : Location) (t' : FileTree) : Prop :=
  ∀ other, t'.face? other = t.face? other
    ∨ t.face? other = none ∧ other <+: loc ∧ t'.DirectoryAt other

namespace Paves

variable {loc : Location}

theorem refl (t : FileTree) (loc : Location) : t.Paves loc t := fun _ => Or.inl rfl

theorem trans (h : t.Paves loc u) (h' : u.Paves loc t') : t.Paves loc t' := by
  intro other
  rcases h other with heq | ⟨hnone, hp, hmade⟩
  · rw [← heq]
    exact h' other
  · rcases h' other with heq | ⟨hnone', -⟩
    · exact Or.inr ⟨hnone, hp, by rwa [DirectoryAt, heq]⟩
    · exact absurd hmade (not_directoryAt_of_none hnone')

end Paves

/-! ## One directory -/

/-- Along names that lead up nothing is missing. -/
theorem walk_ne_missing {s directory : Spot} {ups : List Bytes} {name : Bytes}
    (hups : ∀ name ∈ ups, name = here ∨ name = above) :
    walk s ups ≠ .ok (.missing directory name) := by
  induction ups generalizing s with
  | nil => rintro ⟨⟩
  | cons up ups ih =>
    obtain ⟨hup, hrest⟩ := List.forall_mem_cons.1 hups
    rw [walk]
    split
    · rintro ⟨⟩
    split
    · rintro ⟨⟩
    split
    · exact ih hrest
    next hhere =>
    rw [if_pos (hup.resolve_left hhere)]
    exact ih hrest

/-- A prefix of two lists after one another ends in the first one, or has all of it. -/
theorem prefix_append_cases {α : Type} {front l rest : List α} (h : front <+: l ++ rest) :
    front <+: l ∨ ∃ more, front = l ++ more ∧ more <+: rest := by
  rcases List.prefix_or_prefix_of_prefix h (List.prefix_append l rest) with hfront | ⟨more, rfl⟩
  · exact Or.inl hfront
  · exact Or.inr ⟨more, rfl, (List.prefix_append_right_inj l).1 h⟩

/-- A directory is only made on the way to the destination of a forthright path, if the names
of its path are the first ones there. -/
theorem paves_makeDirectory {front : Bytes} {mode : Nat} (hnames : Forthright (names path))
    (hfront : IsFront path front) (h : t.makeDirectory base front mode time = .ok t') :
    t.Paves (destination base path) t' := by
  obtain ⟨hnone, a, -, hface⟩ := makeDirectory_ok h
  have hway : destination base front <+: destination base path := by
    obtain ⟨ups, downs, hsplit, hups, hdowns⟩ := hnames
    have horigin : origin base front = origin base path := by rw [origin, origin, hfront.head]
    have hp := hfront.names
    rw [hsplit] at hp
    rcases prefix_append_cases hp with hup | ⟨more, hmore, hdown⟩
    · -- a path that only leads up leads to a directory that is there
      rw [makeDirectory] at h
      obtain ⟨found, hl, h⟩ := exists_of_bind_ok h
      cases found with
      | spot s => cases h
      | missing directory name =>
        obtain ⟨start, -, -, hwalk⟩ := exists_walk_of_locate hl
        exact absurd hwalk (walk_ne_missing fun name hname => hups name (hup.subset hname))
    · rw [destination_eq, destination_eq, horigin, hmore, hsplit, arrive_append, arrive_append,
        arrive_entries _ hdowns,
        arrive_entries _ fun name hname => hdowns name (hdown.subset hname)]
      exact (List.prefix_append_right_inj _).2 hdown
  intro other
  by_cases hother : other = destination base front
  · exact Or.inr ⟨hother ▸ hnone, hother ▸ hway, a, by rw [hface, if_pos hother]⟩
  · exact Or.inl (by rw [hface, if_neg hother])

/-! ## A directory with those above it -/

theorem paves_makeStacked (hnames : Forthright (names path)) (fuel : Nat) (stack : List Bytes)
    (t : FileTree) (hstack : ∀ front ∈ stack, IsFront path front) :
    t.Paves (destination base path) (makeStacked base time fuel stack t).2 := by
  fun_induction makeStacked base time fuel stack t with
  | case3 fuel front rest t u h ih =>
    obtain ⟨hfront, hrest⟩ := List.forall_mem_cons.1 hstack
    exact (paves_makeDirectory hnames hfront h).trans (ih hrest)
  | case5 fuel front rest t h parent hparent hrest ih =>
    exact ih (List.forall_mem_cons.1 hstack).2
  | case7 fuel front rest t h parent hparent hne ih =>
    have hfront := (List.forall_mem_cons.1 hstack).1
    exact ih (List.forall_mem_cons.2 ⟨hfront.parentPath (by simpa using hparent), hstack⟩)
  | case12 fuel front rest t e h _ _ _ _ s hfind hdirectory ih =>
    exact ih (List.forall_mem_cons.1 hstack).2
  | _ => exact .refl _ _

/-- Nothing is made but directories on the way to the destination. -/
theorem paves_makeDirectories (hnames : Forthright (names path)) {e? : Option Errno}
    (h : t.makeDirectories base path time = (e?, t')) : t.Paves (destination base path) t' := by
  have hpaves : t.Paves (destination base path) (t.makeDirectories base path time).2 :=
    paves_makeStacked hnames _ [path] t (List.forall_mem_singleton.2 (.refl path))
  rwa [h] at hpaves

theorem makeStacked_nil {fuel : Nat} (h : makeStacked base time fuel [] t = (none, t')) :
    t' = t := by
  cases fuel <;> cases h
  rfl

/-- Where nothing fails, a directory is at the destination of the path at the bottom of the
stack. -/
theorem makeStacked_ok {fuel : Nat} {stack : List Bytes}
    (h : makeStacked base time fuel stack t = (none, t')) (hlast : stack.getLast? = some path) :
    t'.DirectoryAt (destination base path) := by
  fun_induction makeStacked base time fuel stack t with
  | case1 => cases h
  | case2 => cases hlast
  | case3 fuel front rest t u hmake ih =>
    cases rest with
    | nil =>
      obtain rfl : front = path := by simpa using hlast
      obtain ⟨-, a, -, hface⟩ := makeDirectory_ok hmake
      rw [makeStacked_nil h]
      exact ⟨a, by rw [hface, if_pos rfl]⟩
    | cons next rest => exact ih h (by simpa using hlast)
  | case4 => cases h
  | case5 fuel front rest t hmake parent hparent hrest ih =>
    cases rest with
    | nil => exact absurd rfl hrest
    | cons next rest => exact ih h (by simpa using hlast)
  | case7 fuel front rest t hmake parent hparent hne ih => exact ih h (by simpa using hlast)
  | case12 fuel front rest t e hmake _ _ _ _ s hfind hdirectory ih =>
    cases rest with
    | nil =>
      obtain rfl : front = path := by simpa using hlast
      obtain ⟨hhas, hloc⟩ := find_spot hfind
      rw [makeStacked_nil h, ← hloc]
      exact hhas.directoryAt hdirectory
    | cons next rest => exact ih h (by simpa using hlast)
  | _ => cases h

/-- Once directories were made, one is at the destination of the path. -/
theorem makeDirectories_ok (h : t.makeDirectories base path time = (none, t')) :
    t'.DirectoryAt (destination base path) :=
  makeStacked_ok h rfl

/-! ## Starts that are lost -/

theorem Stranded.locate_ne_ok (h : t.Stranded base path) (found : Found) :
    t.locate base path ≠ .ok found := by
  intro hl
  rw [locate] at hl
  obtain ⟨-, hl⟩ := ok_of_ite_error hl
  obtain ⟨-, hl⟩ := ok_of_ite_error hl
  rw [if_neg h.1] at hl
  obtain ⟨s, hs, -⟩ := exists_of_bind_ok hl
  exact h.2 s hs

theorem Stranded.parentPath (h : t.Stranded base path) (hparent : parentPath path ≠ []) :
    t.Stranded base (parentPath path) :=
  ⟨by rw [head?_parentPath hparent]; exact h.1, h.2⟩

/-- A stack of paths whose start is lost never comes to a good end. -/
theorem makeStacked_ne_none {fuel : Nat} {stack : List Bytes} (hne : stack ≠ [])
    (hstack : ∀ front ∈ stack, t.Stranded base front) :
    (makeStacked base time fuel stack t).1 ≠ none := by
  fun_induction makeStacked base time fuel stack t with
  | case2 => exact absurd rfl hne
  | case3 fuel front rest t u hmake ih =>
    obtain ⟨found, hl, -⟩ := exists_of_bind_ok hmake
    exact absurd hl ((hstack front List.mem_cons_self).locate_ne_ok found)
  | case5 fuel front rest t hmake parent hparent hrest ih =>
    exact ih (by simpa using hrest) (List.forall_mem_cons.1 hstack).2
  | case7 fuel front rest t hmake parent hparent hne' ih =>
    have hfront := (List.forall_mem_cons.1 hstack).1
    exact ih (List.cons_ne_nil _ _)
      (List.forall_mem_cons.2 ⟨hfront.parentPath (by simpa using hparent), hstack⟩)
  | case12 fuel front rest t e hmake _ _ _ _ s hfind hdirectory ih =>
    obtain ⟨found, hl, -⟩ := exists_of_bind_ok hfind
    exact absurd hl ((hstack front List.mem_cons_self).locate_ne_ok found)
  | _ => exact Option.some_ne_none _

theorem Stranded.makeDirectories_ne_none (h : t.Stranded base path) :
    (t.makeDirectories base path time).1 ≠ none :=
  makeStacked_ne_none (List.cons_ne_nil _ _) (List.forall_mem_singleton.2 h)

end SurfaceGuard.FileTree
