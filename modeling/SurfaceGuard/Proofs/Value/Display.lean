import SurfaceGuard.Failure
import Mathlib.Tactic

/-!
# Values without a text

Which values have no text, told by their shape: an object that has no method to make one,
and a list with such an object or a symbol somewhere in it (`Value.textless_iff`).  What is
thrown is described for a report unless it is such a value.
-/

namespace SurfaceGuard

namespace Value

/-- A value without a text. -/
inductive Textless : Value → Prop
  /-- An object has none if neither an inherited method nor one of its own makes it. -/
  | object {ancestry : Ancestry} {members : List (Text × Value)}
      (hown : hasMethod members "toString" = false)
      (hinherited : ancestry = .plain → (Members.get? "toString" members).isSome = true)
      (hvalue : hasMethod members "valueOf" = false) : Textless (.object ancestry members)
  | symbol {items : List Value} (h : .foreign .symbol ∈ items) : Textless (.list items)
  | item {items : List Value} {item : Value} (h : item ∈ items) (hitem : Textless item) :
      Textless (.list items)

theorem displayObject_error_iff {ancestry : Ancestry} {members : List (Text × Value)} :
    (∃ e, displayObject ancestry members = .error e) ↔ Textless (.object ancestry members) := by
  rw [displayObject]
  constructor
  · rintro ⟨e, he⟩
    split at he
    · cases he
    next hown =>
    split at he
    · cases he
    next hinherited =>
    split at he
    · cases he
    next hvalue =>
    refine .object (Bool.eq_false_iff.2 hown) (fun hplain => ?_) (Bool.eq_false_iff.2 hvalue)
    rw [Option.isSome_iff_ne_none]
    simpa [hplain] using hinherited
  · rintro ⟨hown, hinherited, hvalue⟩
    refine ⟨.objectToPrimitive, ?_⟩
    have hplain : ¬(ancestry = .plain && (Members.get? "toString" members).isNone) = true := by
      intro h
      obtain ⟨h1, h2⟩ := Bool.and_eq_true_iff.1 h
      rw [Option.isNone_iff_eq_none.1 h2] at hinherited
      exact absurd (hinherited (of_decide_eq_true h1)) Bool.false_ne_true
    rw [if_neg (by simp [hown]), if_neg hplain, if_neg (by simp [hvalue])]

/-- A list has no text if and only if one of its items has none. -/
theorem displayItems_error_iff {items : List Value} :
    (∃ e, displayItems items = .error e) ↔ ∃ item ∈ items, ∃ e, displayItem item = .error e := by
  induction items with
  | nil => simp [displayItems]
  | cons item items ih =>
    rw [displayItems]
    cases hitem : displayItem item with
    | error e => simp [hitem]
    | ok t =>
      simp only [List.mem_cons, exists_eq_or_imp, hitem, reduceCtorEq, exists_false, false_or]
      rw [← ih]
      cases displayItems items <;> simp [Except.map]

theorem displayItem_error_iff {item : Value} :
    (∃ e, displayItem item = .error e)
      ↔ item = .foreign .symbol ∨ ∃ e, display item = .error e := by
  cases item with
  | null => simp [displayItem, display]
  | foreign f => cases f <;> simp [displayItem, display]
  | _ => simp [displayItem]

theorem display_list_error_iff {items : List Value} :
    (∃ e, display (.list items) = .error e)
      ↔ .foreign .symbol ∈ items ∨ ∃ item ∈ items, ∃ e, display item = .error e := by
  have hitems : (∃ e, display (.list items) = .error e) ↔ ∃ e, displayItems items = .error e := by
    rw [display]
    cases displayItems items <;> simp [Except.map]
  rw [hitems, displayItems_error_iff]
  simp only [displayItem_error_iff, and_or_left, exists_or]
  refine or_congr_left ⟨?_, fun h => ⟨_, h, rfl⟩⟩
  rintro ⟨item, hmem, rfl⟩
  exact hmem

theorem Textless.display {v : Value} (h : v.Textless) : ∃ e, v.display = .error e := by
  induction h with
  | object hown hinherited hvalue =>
    rw [Value.display]
    exact displayObject_error_iff.2 (.object hown hinherited hvalue)
  | symbol h => exact display_list_error_iff.2 (Or.inl h)
  | item h _ ih => exact display_list_error_iff.2 (Or.inr ⟨_, h, ih⟩)

theorem textless_of_display : (v : Value) → (∃ e, v.display = .error e) → v.Textless
  | .null, h => by simp [Value.display] at h
  | .boolean b, h => by cases b <;> simp [Value.display] at h
  | .number n, h => by simp [Value.display] at h
  | .string s, h => by simp [Value.display] at h
  | .foreign f, h => by simp [Value.display] at h
  | .object ancestry members, h => by
    rw [Value.display] at h
    exact displayObject_error_iff.1 h
  | .list items, h => by
    rcases display_list_error_iff.1 h with hsymbol | ⟨item, hmem, hitem⟩
    · exact .symbol hsymbol
    · have hsmaller : sizeOf item < sizeOf items := List.sizeOf_lt_of_mem hmem
      exact .item hmem (textless_of_display item hitem)
termination_by v => sizeOf v

/-- A value has no text if and only if it is of such a shape. -/
theorem textless_iff {v : Value} : v.Textless ↔ ∃ e, v.display = .error e :=
  ⟨Textless.display, textless_of_display v⟩

end Value

namespace Thrown

/-- Something thrown for which there is no description. -/
def Textless : Thrown → Prop
  | value v => v.Textless
  | _ => False

/-- What is thrown has a description unless it is a value without a text. -/
theorem describe_ok_iff {e : Thrown} : (∃ info, e.describe = .ok info) ↔ ¬e.Textless := by
  cases e with
  | guard e => simp [describe, Textless]
  | error message => simp [describe, Textless]
  | badArgument message => simp [describe, Textless]
  | value v =>
    rw [Textless, Value.textless_iff]
    by_cases hv : v = .foreign .error
    · subst hv
      simp [describe, Value.display]
    · have hdescribe : describe (.value v) = v.display.map fun text => ⟨.unexpected, text⟩ := by
        rw [describe]
        exact hv
      rw [hdescribe]
      cases v.display <;> simp [Except.map]

end Thrown

end SurfaceGuard
