import SurfaceGuard.Proofs.Host.Operations
import SurfaceGuard.Proofs.Host.Task

/-!
# What files hold after writes

A write gives a file a content or adds one to its end.  After some writes each file holds what they
make of what was in it before, one after the other, and a file that none of them is for holds what
it held (`FileTree.Wrote`).  Directories that are made on the way hold nothing, so they do not show.

Each operation of the host that succeeds is one such write: `FileTree.wrote_writeFile`,
`FileTree.wrote_appendFile`.  A device or a program takes every content and keeps none, so nothing
is said about what it holds; but it is one afterwards if and only if it was one before.
-/

namespace SurfaceGuard

/-- A content that a file is given, or that is added to its end. -/
inductive Write where
  | put (place : Location) (content : Bytes)
  | add (place : Location) (content : Bytes)
  deriving DecidableEq, Repr

namespace Write

/-- Where the file is. -/
def place : Write → Location
  | put place _ => place
  | add place _ => place

/-- What is held at a location after a write, from what was held there before. -/
def apply (loc : Location) (held? : Option Bytes) : Write → Option Bytes
  | put place content => if place = loc then some content else held?
  | add place content => if place = loc then some (held?.getD [] ++ content) else held?

@[simp]
theorem apply_put_self (loc : Location) (held? : Option Bytes) (content : Bytes) :
    apply loc held? (put loc content) = some content := if_pos rfl

@[simp]
theorem apply_add_self (loc : Location) (held? : Option Bytes) (content : Bytes) :
    apply loc held? (add loc content) = some (held?.getD [] ++ content) := if_pos rfl

theorem apply_of_ne (write : Write) {loc : Location} (h : write.place ≠ loc)
    (held? : Option Bytes) : apply loc held? write = held? := by
  cases write <;> exact if_neg h

end Write

namespace FileTree

variable {t u t' : FileTree} {loc : Location}

/-- No device and no program is at the location. -/
def IsOrdinaryAt (t : FileTree) (loc : Location) : Prop :=
  ∀ n, t.face? loc = some n → n.isOrdinary = true

/-- A file with the content is at the location; or a device or a program, which takes every content
and keeps none. -/
def Holds (t : FileTree) (loc : Location) (content : Bytes) : Prop :=
  t.content? loc = some content ∨ ¬t.IsOrdinaryAt loc

/-- A file that ends with the content is at the location; or a device or a program. -/
def Ends (t : FileTree) (loc : Location) (content : Bytes) : Prop :=
  (∃ before, t.content? loc = some (before ++ content)) ∨ ¬t.IsOrdinaryAt loc

theorem Holds.of_face? {content : Bytes} (h : t.Holds loc content)
    (hface : t'.face? loc = t.face? loc) : t'.Holds loc content := by
  rw [Holds, content?_eq, IsOrdinaryAt, hface, ← content?_eq]
  exact h

/-- The files of the second tree hold what the writes make of what those of the first one hold. -/
structure Wrote (t : FileTree) (writes : List Write) (t' : FileTree) : Prop where
  content : ∀ loc, t.IsOrdinaryAt loc →
    t'.content? loc = writes.foldl (Write.apply loc) (t.content? loc)
  ordinary : ∀ loc, t'.IsOrdinaryAt loc ↔ t.IsOrdinaryAt loc

theorem Wrote.trans {writes writes' : List Write} (h : t.Wrote writes u)
    (h' : u.Wrote writes' t') : t.Wrote (writes ++ writes') t' := by
  refine ⟨fun loc hloc => ?_, fun loc => (h'.ordinary loc).trans (h.ordinary loc)⟩
  rw [List.foldl_append, ← h.content loc hloc]
  exact h'.content loc ((h.ordinary loc).2 hloc)

/-- What the writes make of any content is what is held after them. -/
theorem Wrote.holds {writes : List Write} {content : Bytes} (h : t.Wrote writes t')
    (hwrites : ∀ held?, writes.foldl (Write.apply loc) held? = some content) :
    t'.Holds loc content := by
  by_cases hloc : t'.IsOrdinaryAt loc
  · exact Or.inl ((h.content loc ((h.ordinary loc).1 hloc)).trans (hwrites _))
  · exact Or.inr hloc

/-- What is added last is at the end. -/
theorem Wrote.ends {writes : List Write} {content : Bytes}
    (h : t.Wrote (writes ++ [.add loc content]) t') : t'.Ends loc content := by
  by_cases hloc : t'.IsOrdinaryAt loc
  · have hcontent := h.content loc ((h.ordinary loc).1 hloc)
    rw [List.foldl_append, List.foldl_cons, List.foldl_nil, Write.apply_add_self] at hcontent
    exact Or.inl ⟨_, hcontent⟩
  · exact Or.inr hloc

theorem Grows.wrote (h : t.Grows t') : t.Wrote [] t' := by
  refine ⟨fun loc _ => (h loc).content?, fun loc => ⟨fun hloc n hn => ?_, (h loc).isOrdinary⟩⟩
  exact hloc n ((h loc).face? hn)

theorem Wrote.refl (t : FileTree) : t.Wrote [] t := (Grows.refl t).wrote

/-- A file was put where the write is for, with the content that the write makes. -/
theorem Puts.wrote (write : Write) {a : Attributes} {content : Bytes}
    (hput : t.Puts write.place (some (.file a content)) t')
    (hbefore : t.IsOrdinaryAt write.place)
    (hcontent : Write.apply write.place (t.content? write.place) write = some content) :
    t.Wrote [write] t' := by
  refine ⟨fun loc _ => ?_, fun loc => ?_⟩
  · rw [List.foldl_cons, List.foldl_nil, content?_eq, hput.2]
    by_cases hloc : loc = write.place
    · subst hloc
      rw [if_pos rfl, hcontent]
      rfl
    · rw [if_neg hloc, ← content?_eq, Write.apply_of_ne write (Ne.symm hloc)]
  · rw [IsOrdinaryAt, hput.2]
    split
    · next hloc =>
      subst hloc
      refine iff_of_true (fun n hn => ?_) hbefore
      cases hn
      rfl
    · exact Iff.rfl

/-- Where the write is for is a device or a program, and nothing was changed. -/
theorem Puts.wrote_special (write : Write) {n : Node} (hn : n.isOrdinary = false)
    (hbefore : t.face? write.place = some n) (hput : t.Puts write.place (some n) t') :
    t.Wrote [write] t' := by
  have hface : ∀ loc, t'.face? loc = t.face? loc := by
    intro loc
    rw [hput.2]
    split
    · next hloc => rw [hloc, hbefore]
    · rfl
  refine ⟨fun loc hloc => ?_, fun loc => by rw [IsOrdinaryAt, IsOrdinaryAt, hface]⟩
  have hne : write.place ≠ loc := by
    rintro rfl
    rw [hloc n hbefore] at hn
    cases hn
  rw [List.foldl_cons, List.foldl_nil, Write.apply_of_ne write hne, content?_eq, hface,
    ← content?_eq]

theorem wrote_writeFile {base : Place} {path content : Bytes} {time : Int}
    (h : t.writeFile base path content time = .ok t') :
    t.Wrote [.put (destination base path) content] t' := by
  rcases writeFile_cases h with ⟨hordinary, a, hput⟩ | ⟨n, hn, hface, hput⟩
  · exact Puts.wrote (.put _ content) hput hordinary (Write.apply_put_self _ _ content)
  · exact Puts.wrote_special (.put _ content) hn hface hput

theorem wrote_appendFile {base : Place} {path content : Bytes} {time : Int}
    (h : t.appendFile base path content time = .ok t') :
    t.Wrote [.add (destination base path) content] t' := by
  rcases appendFile_cases h with ⟨hordinary, a, hput⟩ | ⟨n, hn, hface, hput⟩
  · exact Puts.wrote (.add _ content) hput hordinary (Write.apply_add_self _ _ content)
  · exact Puts.wrote_special (.add _ content) hn hface hput

end FileTree

/-! ## Tasks that succeed -/

namespace Task

variable {path : Text} {content : Bytes} {w w' : World}

/-- A task in two parts succeeds if both parts do. -/
theorem bind_eq_ok_iff {α β : Type} {t : Task α} {next : α → Task β} {b : β} :
    (t >>= next) w = (.ok b, w') ↔ ∃ a u, t w = (.ok a, u) ∧ next a u = (.ok b, w') := by
  constructor
  · intro h
    rcases bind_cases h with ⟨a, u, hfirst, hlast⟩ | ⟨e, -, hr⟩
    · exact ⟨a, u, hfirst, hlast⟩
    · cases hr
  · rintro ⟨a, u, hfirst, hlast⟩
    exact (bind_of_ok hfirst).trans hlast

theorem wrote_makeDirectories (h : makeDirectories path w = (.ok (), w')) :
    w.files.Wrote [] w'.files ∧ w.Stays w' := by
  obtain ⟨hstays, ⟨-, time, hmade⟩ | ⟨e, hr, -⟩⟩ := makeDirectories_cases h
  · exact ⟨(FileTree.grows_makeDirectories hmade).wrote, hstays⟩
  · cases hr

theorem wrote_writeBytes (h : writeBytes path content w = (.ok (), w')) :
    w.files.Wrote [.put (FileTree.destination w.directory (Utf8.encode path)) content] w'.files
      ∧ w.Stays w' := by
  obtain ⟨hstays, ⟨-, time, hwritten⟩ | ⟨e, hr, -⟩⟩ := writeBytes_cases h
  · exact ⟨FileTree.wrote_writeFile hwritten, hstays⟩
  · cases hr

/-- A content that was added to a file was added to its end. -/
theorem appendBytes_ok (h : appendBytes path content w = (.ok (), w')) :
    w.Stays w' ∧ ∃ time,
      w.files.appendFile w.directory (Utf8.encode path) content time = .ok w'.files := by
  rcases pathFor_bind_cases h with happend | ⟨-, e, hr⟩
  · obtain ⟨faults, happend | ⟨fault, hbroken⟩⟩ := attempt_cases happend
    · obtain ⟨hstays, ⟨-, hfiles⟩ | ⟨e, hr, -⟩⟩ := change_cases happend
      · exact ⟨(stays_faults w faults).trans hstays, _, hfiles⟩
      · cases hr
    · cases hwritten : fault.written with
      | none =>
        simp only [hwritten] at hbroken
        cases hbroken
      | some count =>
        simp only [hwritten, bind_eq_ok_iff] at hbroken
        obtain ⟨_, u, -, hfail⟩ := hbroken
        cases hfail
  · cases hr

theorem wrote_appendBytes (h : appendBytes path content w = (.ok (), w')) :
    w.files.Wrote [.add (FileTree.destination w.directory (Utf8.encode path)) content] w'.files
      ∧ w.Stays w' := by
  obtain ⟨hstays, time, happended⟩ := appendBytes_ok h
  exact ⟨FileTree.wrote_appendFile happended, hstays⟩

/-- What is added to a file is added nowhere else. -/
theorem face?_appendBytes (h : appendBytes path content w = (.ok (), w')) {loc : Location}
    (hloc : loc ≠ FileTree.destination w.directory (Utf8.encode path)) :
    w'.files.face? loc = w.files.face? loc := by
  obtain ⟨-, time, happended⟩ := appendBytes_ok h
  rcases FileTree.appendFile_cases happended with ⟨-, a, hput⟩ | ⟨n, -, -, hput⟩
  · rw [hput.2, if_neg hloc]
  · rw [hput.2, if_neg hloc]

end Task

end SurfaceGuard
