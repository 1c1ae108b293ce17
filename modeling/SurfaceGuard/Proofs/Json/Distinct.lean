import SurfaceGuard.Json.Reader
import SurfaceGuard.Proofs.Json.Members

/-!
# Distinct names

Of a name that occurs twice in an object the reader keeps the last value, so in what is read every
object, at any depth, has each of its names once (`Json.distinct_of_read?`).
-/

namespace SurfaceGuard

namespace Members

variable {α : Type}

theorem mem_of_mem_insert {name : Text} {value : α} {members : List (Text × α)} {m : Text × α}
    (h : m ∈ insert name value members) : m = (name, value) ∨ m ∈ members := by
  induction members with
  | nil => simpa [insert] using h
  | cons n members ih =>
    obtain ⟨k, v⟩ := n
    unfold insert at h
    split at h
    · next hk =>
      rcases List.mem_cons.1 h with rfl | h
      · exact Or.inl (by rw [hk])
      · exact Or.inr (List.mem_cons_of_mem _ h)
    · rcases List.mem_cons.1 h with rfl | h
      · exact Or.inr List.mem_cons_self
      · exact (ih h).imp_right (List.mem_cons_of_mem _)

/-- Collecting pairs keeps names distinct, and every property of the pairs. -/
theorem foldl_insert_induction {P : Text × α → Prop} {pairs members : List (Text × α)}
    (hd : (names members).Nodup) (hm : ∀ m ∈ members, P m) (hp : ∀ p ∈ pairs, P p) :
    (names (pairs.foldl (fun ms p => insert p.1 p.2 ms) members)).Nodup
      ∧ ∀ m ∈ pairs.foldl (fun ms p => insert p.1 p.2 ms) members, P m := by
  induction pairs generalizing members with
  | nil => exact ⟨hd, hm⟩
  | cons p pairs ih =>
    obtain ⟨hhead, htail⟩ := List.forall_mem_cons.1 hp
    refine ih (nodup_insert _ _ hd) (fun m hmem => ?_) htail
    rcases mem_of_mem_insert hmem with rfl | hmem
    · exact hhead
    · exact hm m hmem

end Members

namespace Json

/-- Every object of the value, at any depth, has each of its names once. -/
inductive Distinct : Json → Prop
  | null : Distinct .null
  | boolean (b : Bool) : Distinct (.boolean b)
  | number (n : Number) : Distinct (.number n)
  | string (s : Text) : Distinct (.string s)
  | array {js : List Json} : (∀ j ∈ js, Distinct j) → Distinct (.array js)
  | object {members : List (Text × Json)} : (Members.names members).Nodup →
      (∀ m ∈ members, Distinct m.2) → Distinct (.object members)

theorem distinct_ofPairs {pairs : List (Text × Json)} (h : ∀ p ∈ pairs, p.2.Distinct) :
    (object (Members.ofPairs pairs)).Distinct := by
  have hnil : (Members.names ([] : List (Text × Json))).Nodup := List.nodup_nil
  obtain ⟨hd, hm⟩ := Members.foldl_insert_induction hnil (List.forall_mem_nil _) h
  exact .object hd hm

/-- What every call of the reader with the given fuel yields. -/
structure ReadsDistinct (fuel : Nat) : Prop where
  value : ∀ {t j rest}, readValue fuel t = some (j, rest) → j.Distinct
  items : ∀ {t js rest}, readItems fuel t = some (js, rest) → ∀ j ∈ js, j.Distinct
  members : ∀ {t ms rest}, readMembers fuel t = some (ms, rest) → ∀ m ∈ ms, m.2.Distinct

theorem readsDistinct (fuel : Nat) : ReadsDistinct fuel := by
  induction fuel with
  | zero => exact ⟨nofun, nofun, nofun⟩
  | succ fuel ih =>
    refine ⟨?value, ?items, ?members⟩
    case value =>
      intro t j rest h
      rw [readValue] at h
      split at h
      · cases h
      · split_ifs at h
        · split at h
          · cases h
            exact .object List.nodup_nil (List.forall_mem_nil _)
          · obtain ⟨⟨pairs, _⟩, hpairs, hj⟩ := Option.map_eq_some_iff.1 h
            cases hj
            exact distinct_ofPairs (ih.members hpairs)
        · split at h
          · cases h
            exact .array (List.forall_mem_nil _)
          · obtain ⟨⟨items, _⟩, hitems, hj⟩ := Option.map_eq_some_iff.1 h
            cases hj
            exact .array (ih.items hitems)
        · obtain ⟨⟨s, _⟩, -, hj⟩ := Option.map_eq_some_iff.1 h
          cases hj
          exact .string s
        · obtain ⟨_, -, hj⟩ := Option.map_eq_some_iff.1 h
          cases hj
          exact .boolean true
        · obtain ⟨_, -, hj⟩ := Option.map_eq_some_iff.1 h
          cases hj
          exact .boolean false
        · obtain ⟨_, -, hj⟩ := Option.map_eq_some_iff.1 h
          cases hj
          exact .null
        · obtain ⟨⟨n, _⟩, -, hj⟩ := Option.map_eq_some_iff.1 h
          cases hj
          exact .number n
    case items =>
      intro t js rest h
      rw [readItems] at h
      split at h
      · cases h
      · next item after hitem =>
        split at h
        · obtain ⟨⟨items, _⟩, hitems, hjs⟩ := Option.map_eq_some_iff.1 h
          cases hjs
          exact List.forall_mem_cons.2 ⟨ih.value hitem, ih.items hitems⟩
        · cases h
          exact List.forall_mem_singleton.2 (ih.value hitem)
        · cases h
    case members =>
      intro t ms rest h
      rw [readMembers] at h
      split at h
      · split at h
        · cases h
        · split at h
          · split at h
            · cases h
            · next value after hvalue =>
              split at h
              · obtain ⟨⟨members, _⟩, hmembers, hms⟩ := Option.map_eq_some_iff.1 h
                cases hms
                exact List.forall_mem_cons.2 ⟨ih.value hvalue, ih.members hmembers⟩
              · cases h
                exact List.forall_mem_singleton.2 (ih.value hvalue)
              · cases h
          · cases h
      · cases h

/-- In a value that is read, every object has each of its names once. -/
theorem distinct_of_read? {t : Text} {j : Json} (h : read? t = some j) : j.Distinct := by
  unfold read? at h
  split at h
  · next value rest hvalue =>
    split_ifs at h
    cases h
    exact (readsDistinct _).value hvalue
  · cases h

end Json

end SurfaceGuard
