import SurfaceGuard.Number.Basic

/-!
# JSON values

A JSON value with its object members in written order.  A name occurs once in the
members of a value that was read: `Members.insert` keeps the first place of a name and
its last value.  `Members.enumerated` is the order in which the members of an object are
visited where that matters: names that are array indexes come first, in ascending order,
and the others follow in the order in which they were written.
-/

namespace SurfaceGuard

/-- A JSON value. -/
inductive Json where
  | null
  | boolean (b : Bool)
  | number (n : Number)
  | string (s : Text)
  | array (items : List Json)
  | object (members : List (Text × Json))
  deriving Repr, Inhabited

namespace Members

/-! ## Names and values -/

variable {α : Type}

/-- The value of a name. -/
def get? (name : Text) (members : List (Text × α)) : Option α := members.lookup name

/-- A name set to a value, at its old place or else at the end. -/
def insert (name : Text) (value : α) : List (Text × α) → List (Text × α)
  | [] => [(name, value)]
  | (k, v) :: rest => if k = name then (k, value) :: rest else (k, v) :: insert name value rest

/-- The members of a list of pairs: each name at its first place with its last value. -/
def ofPairs (pairs : List (Text × α)) : List (Text × α) :=
  pairs.foldl (fun members p => insert p.1 p.2 members) []

/-- The members in ascending order of their names. -/
def sort (members : List (Text × α)) : List (Text × α) :=
  members.mergeSort fun a b => Text.le a.1 b.1

/-- Setting a name adds it at the end, unless it is there. -/
theorem keys_insert (name : Text) (value : α) (members : List (Text × α)) :
    (insert name value members).map Prod.fst =
      if name ∈ members.map Prod.fst then members.map Prod.fst
      else members.map Prod.fst ++ [name] := by
  induction members with
  | nil => simp [insert]
  | cons m rest ih =>
    obtain ⟨k, v⟩ := m
    by_cases h : k = name
    · simp [insert, h]
    · have h' : name ≠ k := fun e => h e.symm
      by_cases hr : name ∈ rest.map Prod.fst
      · simp_all [insert]
      · simp_all [insert]

/-- Setting a name keeps names distinct. -/
theorem nodup_insert (name : Text) (value : α) {members : List (Text × α)}
    (h : (members.map Prod.fst).Nodup) : ((insert name value members).map Prod.fst).Nodup := by
  rw [keys_insert]
  split
  · exact h
  · next hn =>
    refine List.nodup_append.2 ⟨h, by simp, ?_⟩
    rintro a ha b hb rfl
    exact hn (List.mem_singleton.1 hb ▸ ha)

/-! ## The order of enumeration -/

/-- The number that a name writes, if the name is an array index. -/
def index? (name : Text) : Option Nat :=
  let n := Text.toNat name
  if name ≠ [] ∧ name.all Text.isDigit ∧ name.length ≤ 10
      ∧ (name.head? = some 0x30 → name.length = 1)
      ∧ n < 4294967295 then some n
  else none

/-- The members as they are enumerated: array indexes first and ascending, then the others. -/
def enumerated (members : List (Text × α)) : List (Text × α) :=
  (members.filter fun m => (index? m.1).isSome).mergeSort
      (fun a b => (index? a.1).getD 0 ≤ (index? b.1).getD 0)
    ++ members.filter fun m => (index? m.1).isNone

end Members

end SurfaceGuard
