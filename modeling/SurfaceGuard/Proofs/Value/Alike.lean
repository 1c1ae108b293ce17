import SurfaceGuard.Proofs.Json.Members
import SurfaceGuard.Value.Basic

/-!
# Values that have a JSON form, and when two are the same

A value is supported if it is built from JSON scalars, lists and objects alone.  Two such
values are alike if they differ in nothing but the order of members, the ancestry of
objects and their numbers, which a given relation compares.  `Value.Same` is the case
where numbers are equal up to the sign of zero, `Value.ReadsAs` the one where the second
value has the numbers of the first, zero without its sign.
-/

namespace SurfaceGuard

namespace Number

/-- The number itself, but zero has no sign. -/
def unsignedZero (n : Number) : Number := if n = zero true then zero false else n

theorem unsignedZero_finite (negative : Bool) (k : Fin limit) :
    unsignedZero (.finite negative k) = .finite (negative && k.val != 0) k := by
  by_cases hk : k.val = 0
  · have hk' : k = ⟨0, by decide⟩ := Fin.ext hk
    subst hk'
    cases negative with
    | true => rfl
    | false => rfl
  · have hne : Number.finite negative k ≠ zero true := by
      intro h
      cases h
      exact hk rfl
    rw [unsignedZero, if_neg hne, bne_iff_ne.2 hk, Bool.and_true]

end Number

namespace Value

/-- The value is built from JSON scalars, lists and objects, and no object has a name twice. -/
inductive Supported : Value → Prop
  | null : Supported .null
  | boolean (b : Bool) : Supported (.boolean b)
  | number (negative : Bool) (k : Fin Number.limit) : Supported (.number (.finite negative k))
  | string (s : Text) : Supported (.string s)
  | list {items : List Value} (h : ∀ v ∈ items, Supported v) : Supported (.list items)
  | object (ancestry : Ancestry) {members : List (Text × Value)}
      (hd : (Members.names members).Nodup) (h : ∀ m ∈ members, Supported m.2) :
      Supported (.object ancestry members)

/-- The values differ in nothing but the order of members, the ancestry of objects and their
numbers, which are related: lists are alike place by place and objects name by name. -/
inductive Alike (r : Number → Number → Prop) : Value → Value → Prop
  | null : Alike r .null .null
  | boolean (b : Bool) : Alike r (.boolean b) (.boolean b)
  | number {n m : Number} (h : r n m) : Alike r (.number n) (.number m)
  | string (s : Text) : Alike r (.string s) (.string s)
  | list {xs ys : List Value} (hl : xs.length = ys.length)
      (h : ∀ (i : Nat) (x y : Value), xs[i]? = some x → ys[i]? = some y → Alike r x y) :
      Alike r (.list xs) (.list ys)
  | object (p q : Ancestry) {ms ns : List (Text × Value)}
      (hn : ∀ name, (Members.get? name ms).isSome = (Members.get? name ns).isSome)
      (h : ∀ (name : Text) (v w : Value),
        Members.get? name ms = some v → Members.get? name ns = some w → Alike r v w) :
      Alike r (.object p ms) (.object q ns)

/-- The values are equal up to the order of members, the ancestry of objects and the sign of
zero. -/
def Same (v w : Value) : Prop := Alike (fun n m => n.unsignedZero = m.unsignedZero) v w

/-- The second value is the first up to the order of members and the ancestry of objects, with
zero without its sign. -/
def ReadsAs (v w : Value) : Prop := Alike (fun n m => m = n.unsignedZero) v w

/-- Values alike to the same third value are alike. -/
theorem Alike.of_common {r s t : Number → Number → Prop}
    (hrst : ∀ n m k, r n k → s m k → t n m) {u v w : Value} (hu : Alike r u w)
    (hv : Alike s v w) : Alike t u v := by
  induction hu generalizing v with
  | null =>
    cases hv with
    | null => exact .null
  | boolean b =>
    cases hv with
    | boolean => exact .boolean b
  | number hr =>
    cases hv with
    | number hs => exact .number (hrst _ _ _ hr hs)
  | string s =>
    cases hv with
    | string => exact .string s
  | @list xs zs hl h ih =>
    cases hv with
    | @list ys _ hl' h' =>
      refine .list (hl.trans hl'.symm) fun i x y hx hy => ?_
      have hi : i < zs.length := hl ▸ (List.getElem?_eq_some_iff.1 hx).1
      have hz : zs[i]? = some zs[i] := List.getElem?_eq_getElem hi
      exact ih i x zs[i] hx hz (h' i y zs[i] hy hz)
  | @object p q ms ks hn h ih =>
    cases hv with
    | @object p' _ ns _ hn' h' =>
      refine .object p p' (fun name => (hn name).trans (hn' name).symm) fun name v w hv hw => ?_
      obtain ⟨z, hz⟩ : ∃ z, Members.get? name ks = some z := by
        rw [← Option.isSome_iff_exists, ← hn name, hv]
        rfl
      exact ih name v z hv hz (h' name w z hw hz)

theorem Same.of_readsAs {u v w : Value} (hu : ReadsAs u w) (hv : ReadsAs v w) : Same u v :=
  Alike.of_common (fun _ _ _ hr hs => hr.symm.trans hs) hu hv

end Value

end SurfaceGuard
