import SurfaceGuard.Host.Node
import Mathlib.Tactic

/-!
# Nodes and changes below them

What is found at a location after a node was changed, and after an entry of a directory
was.  Nodes are compared by their faces: the face of a directory says neither what its
entries are nor when they were changed, so a change of one entry shows at the place of
that entry alone.
-/

namespace SurfaceGuard.Node

/-! ## Entries -/

theorem lookup_cons (key : Bytes) (e : Bytes × Node) (entries : List (Bytes × Node)) :
    (e :: entries).lookup key = if key = e.1 then some e.2 else entries.lookup key := by
  rw [List.lookup_cons]
  by_cases h : key = e.1
  · rw [if_pos h, beq_iff_eq.2 h]
  · rw [if_neg h, beq_eq_false_iff_ne.2 h]

theorem lookup_putEntry (name key : Bytes) (child : Node) (entries : List (Bytes × Node)) :
    (putEntry name child entries).lookup key
      = if key = name then some child else entries.lookup key := by
  induction entries with
  | nil => rw [putEntry, lookup_cons]
  | cons e entries ih =>
    by_cases he : e.1 = name
    · rw [putEntry, if_pos he, lookup_cons, lookup_cons]
      grind
    · rw [putEntry, if_neg he, lookup_cons, lookup_cons, ih]
      grind

theorem lookup_filter_ne (name key : Bytes) (entries : List (Bytes × Node)) :
    (entries.filter (·.1 ≠ name)).lookup key
      = if key = name then none else entries.lookup key := by
  induction entries with
  | nil => simp
  | cons e entries ih =>
    by_cases he : e.1 = name
    · rw [List.filter_cons_of_neg (by simpa using he), ih, lookup_cons]
      grind
    · rw [List.filter_cons_of_pos (by simpa using he), lookup_cons, lookup_cons, ih]
      grind

theorem lookup_map_change (f : Node → Node) (name key : Bytes) (rest : Location)
    (entries : List (Bytes × Node)) :
    (entries.map fun e => if e.1 = name then (e.1, change f rest e.2) else e).lookup key
      = (entries.lookup key).map fun n => if key = name then change f rest n else n := by
  induction entries with
  | nil => rfl
  | cons e entries ih =>
    rw [List.map_cons, lookup_cons, lookup_cons, ih]
    by_cases hk : key = e.1
    · subst hk
      by_cases he : e.1 = name <;> simp [he]
    · by_cases he : e.1 = name <;> simp [hk, he]
      grind

/-! ## Locations -/

theorem find?_append (n : Node) (loc rest : Location) :
    n.find? (loc ++ rest) = (n.find? loc).bind fun m => m.find? rest := by
  induction loc generalizing n with
  | nil => rfl
  | cons name loc ih =>
    rw [List.cons_append, find?, find?]
    cases n.entry? name with
    | none => rfl
    | some child => exact ih child

/-- Below a node without entries there is nothing. -/
theorem find?_eq_none {n : Node} (h : n.entries = []) (name : Bytes) (rest : Location) :
    n.find? (name :: rest) = none := by
  rw [find?, entry?, h]
  rfl

theorem entry?_change (f : Node → Node) (n : Node) (name key : Bytes) (rest : Location) :
    entry? (change f (name :: rest) n) key
      = (n.entry? key).map fun m => if key = name then change f rest m else m := by
  cases n with
  | directory a entries => exact lookup_map_change f name key rest entries
  | file a content => rfl
  | program a name => rfl
  | device a kind => rfl

/-- What is at or below a location after the node there was changed. -/
theorem find?_change_append (f : Node → Node) (n : Node) (loc rest : Location) :
    (change f loc n).find? (loc ++ rest) = (n.find? loc).bind fun m => (f m).find? rest := by
  induction loc generalizing n with
  | nil => simp [change, find?]
  | cons name loc ih =>
    rw [List.cons_append, find?, find?, entry?_change]
    cases n.entry? name with
    | none => rfl
    | some child => simpa using ih child

/-! ## Faces -/

/-- The node without what depends on the entries of a directory. -/
def face : Node → Node
  | directory a _ => directory { a with modified := 0 } []
  | n => n

@[simp]
theorem face_change_cons (f : Node → Node) (name : Bytes) (rest : Location) (n : Node) :
    (change f (name :: rest) n).face = n.face := by
  cases n <;> rfl

/-- A change elsewhere leaves the face of a node. -/
theorem face_find?_change {f : Node → Node} {n : Node} {loc other : Location}
    (h : ¬loc <+: other) : ((change f loc n).find? other).map face = (n.find? other).map face := by
  induction loc generalizing n other with
  | nil => exact absurd (List.nil_prefix) h
  | cons name loc ih =>
    cases other with
    | nil => simp [find?]
    | cons key other =>
      rw [find?, find?, entry?_change]
      cases n.entry? key with
      | none => rfl
      | some child =>
        by_cases hk : key = name
        · subst hk
          have h' : ¬loc <+: other := fun hp => h (List.cons_prefix_cons.2 ⟨rfl, hp⟩)
          simpa using ih h'
        · simp [hk]

/-! ## Changes of one entry -/

/-- The function changes a single entry of a directory, and when the directory was changed. -/
def ChangesEntry (f : Node → Node) (name : Bytes) (child? : Option Node) : Prop :=
  ∀ a entries, ∃ time entries',
    f (directory a entries) = directory { a with modified := time } entries'
    ∧ ∀ key, entries'.lookup key = if key = name then child? else entries.lookup key

theorem changesEntry_withEntry (name : Bytes) (child : Node) (time : Int) :
    ChangesEntry (withEntry name child time) name (some child) :=
  fun _ entries => ⟨time, _, rfl, fun key => lookup_putEntry name key child entries⟩

theorem changesEntry_withoutEntry (name : Bytes) (time : Int) :
    ChangesEntry (withoutEntry name time) name none :=
  fun _ entries => ⟨time, _, rfl, fun key => lookup_filter_ne name key entries⟩

/-! ## Kinds of nodes -/

theorem isDirectory_iff {n : Node} :
    n.isDirectory = true ↔ ∃ a entries, n = directory a entries := by
  cases n <;> simp [isDirectory]

@[simp]
theorem isDirectory_face (n : Node) : n.face.isDirectory = n.isDirectory := by
  cases n <;> rfl

theorem isDirectory_of_entry? {n child : Node} {name : Bytes} (h : n.entry? name = some child) :
    n.isDirectory = true := by
  cases n with
  | directory a entries => rfl
  | _ => cases h

theorem entries_of_not_directory {n : Node} (h : n.isDirectory = false) : n.entries = [] := by
  cases n with
  | directory a entries => cases h
  | _ => rfl

/-- Is the node a file or a directory, and no device or program of the system? -/
def isOrdinary : Node → Bool
  | directory .. => true
  | file .. => true
  | _ => false

/-- What is not ordinary is a program or a device. -/
theorem special_of_not_ordinary {n : Node} (h : n.isOrdinary = false) :
    (∃ a name, n = program a name) ∨ ∃ a kind, n = device a kind := by
  cases n with
  | directory a entries => cases h
  | file a content => cases h
  | program a name => exact Or.inl ⟨a, name, rfl⟩
  | device a kind => exact Or.inr ⟨a, kind, rfl⟩

@[simp]
theorem isOrdinary_face (n : Node) : n.face.isOrdinary = n.isOrdinary := by
  cases n <;> rfl

/-- The content of a regular file. -/
def content? : Node → Option Bytes
  | file _ content => some content
  | _ => none

@[simp]
theorem content?_face (n : Node) : n.face.content? = n.content? := by
  cases n <;> rfl

/-- What can be read of a node. -/
def reading (n : Node) : Except Errno Bytes :=
  if n.allows .read then
    match n with
    | file _ content => .ok content
    | directory .. => .error .isDirectory
    | _ => .ok []
  else .error .accessDenied

@[simp]
theorem reading_face (n : Node) : n.face.reading = n.reading := by
  cases n <;> rfl

end SurfaceGuard.Node
