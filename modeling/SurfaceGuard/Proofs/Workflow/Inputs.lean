import Mathlib.Data.List.DropRight
import SurfaceGuard.CommandLine.Options
import SurfaceGuard.Proofs.Text.LowerCase
import SurfaceGuard.Workflow.Inputs

/-!
# Inputs that spell options

The inputs of a workflow step say the same as options of the command line if each of them spells the
value of its option: white space around it is free, and so is the case of the letters of a truth
value.  Such inputs are read as that value (`Inputs.read_of_spells`).
-/

namespace SurfaceGuard

namespace Text

/-- The text with white space around it, or with none. -/
def Pads (body t : Text) : Prop :=
  ∃ pre post, IsBlank pre ∧ IsBlank post ∧ t = pre ++ body ++ post

theorem trim_of_pads {body t : Text} (hbody : trim body = body) (h : Pads body t) :
    trim t = body := by
  obtain ⟨pre, post, hpre, hpost, rfl⟩ := h
  exact trim_surrounded hpre hpost hbody

/-- Trimming takes away white space at the two ends and nothing else. -/
theorem pads_trim (t : Text) : Pads (trim t) t := by
  have hstart : t.takeWhile isSpace ++ trimStart t = t := List.takeWhile_append_dropWhile
  have hend : trim t ++ (trimStart t).rtakeWhile isSpace = trimStart t :=
    List.rdropWhile_append_rtakeWhile
  refine ⟨t.takeWhile isSpace, (trimStart t).rtakeWhile isSpace, fun u hu => ?_, fun u hu => ?_, ?_⟩
  · exact List.mem_takeWhile_imp hu
  · exact List.mem_rtakeWhile_imp hu
  · rw [List.append_assoc, hend, hstart]

theorem trim_trim (t : Text) : trim (trim t) = trim t := by
  obtain ⟨pre, post, hpre, hpost, ht⟩ := pads_trim t
  calc trim (trim t) = trim (pre ++ trim t ++ post) := by
        rw [trim_append_right hpost, trim_append_left hpre]
    _ = trim t := by rw [← ht]

theorem trim_of_isBlank {t : Text} (h : IsBlank t) : trim t = [] :=
  trim_of_pads rfl ⟨t, [], h, isBlank_nil, by simp⟩

theorem trim_of_forall {t : Text} (h : ∀ u ∈ t, isSpace u = false) : trim t = t := by
  have hstart : ∀ s : Text, (∀ u ∈ s, isSpace u = false) → s.dropWhile isSpace = s := by
    intro s hs
    cases s with
    | nil => rfl
    | cons u s => rw [List.dropWhile_cons_of_neg (by simp [hs u List.mem_cons_self])]
  rw [trim, trimStart, hstart t h, trimEnd, hstart _ fun u hu => h u (List.mem_reverse.1 hu),
    List.reverse_reverse]

end Text

namespace Workflow

open Text

/-- The word for a truth value. -/
def flagWord (b : Bool) : Text := if b then "true" else "false"

/-- The text spells a truth value, or that none is given. -/
inductive SpellsFlag : Option Bool → Text → Prop where
  | absent {raw : Text} (h : IsBlank raw) : SpellsFlag none raw
  | given (b : Bool) {body raw : Text} (hbody : IsCased (flagWord b) body) (h : Pads body raw) :
      SpellsFlag (some b) raw

/-- The text spells a mode, or that none is given. -/
inductive SpellsMode : Option Mode → Text → Prop where
  | absent {raw : Text} (h : IsBlank raw) : SpellsMode none raw
  | given (m : Mode) {raw : Text} (h : Pads m.name raw) : SpellsMode (some m) raw

/-- The text of an input as it was given, empty if it was not. -/
def raw (given : Variables) (name : Text) : Text :=
  (Members.get? (variableName name) given).getD []

/-- The inputs spell the options that a run depends on. -/
structure Spells (given : Variables) (o : CliOptions) : Prop where
  config : Pads o.config (raw given "config")
  trimmed : Text.trim o.config = o.config
  nonempty : o.config ≠ []
  update : SpellsFlag (some o.update) (raw given "update")
    ∨ o.update = false ∧ SpellsFlag none (raw given "update")
  mode : SpellsMode o.mode (raw given "mode")
  failOnAdditions : SpellsFlag o.failOnAdditions (raw given "fail-on-additions")

theorem flagWord_isSmall (b : Bool) : ∀ v ∈ flagWord b, isSmall v = true := by
  rw [← List.all_eq_true]
  cases b <;> decide

theorem flagInput_of_spells {given : Variables} {name : Text} {b? : Option Bool}
    (h : SpellsFlag b? (raw given name)) : flagInput given name = .ok b? := by
  cases h with
  | absent h =>
    have hempty : lower (trim (input given name)) = [] := by
      rw [input, ← raw, trim_of_isBlank h]
      rfl
    rw [flagInput, hempty]
    rfl
  | given b hbody h =>
    obtain ⟨hlower, hspace⟩ := lower_of_isCased (flagWord_isSmall b) hbody
    have htrim := trim_of_forall hspace
    have hword : lower (trim (input given name)) = flagWord b := by
      rw [input, ← raw, trim_of_pads htrim h, htrim, hlower]
    rw [flagInput, hword]
    cases b <;> rfl

theorem modeInput_of_spells {given : Variables} {m? : Option Mode}
    (h : SpellsMode m? (raw given "mode")) : modeInput given = .ok m? := by
  cases h with
  | absent h =>
    have hempty : trim (input given "mode") = [] := by
      rw [input, ← raw, trim_of_isBlank h]
      rfl
    rw [modeInput, hempty]
    rfl
  | given m h =>
    have htrim : trim m.name = m.name := by cases m <;> decide
    have hname : trim (input given "mode") = m.name := by
      rw [input, ← raw, trim_of_pads htrim h, htrim]
    rw [modeInput, hname]
    cases m <;> rfl

/-- Inputs that spell options are read as these options. -/
theorem Inputs.read_of_spells {given : Variables} {o : CliOptions} (h : Spells given o) :
    Inputs.read given = .ok ⟨o.config, o.update, o.mode, o.failOnAdditions⟩ := by
  have hconfig : input given "config" = o.config := trim_of_pads h.trimmed h.config
  have hupdate : ∃ b?, flagInput given "update" = .ok b? ∧ b?.getD false = o.update := by
    rcases h.update with hgiven | ⟨hfalse, habsent⟩
    · exact ⟨_, flagInput_of_spells hgiven, rfl⟩
    · exact ⟨_, flagInput_of_spells habsent, hfalse.symm⟩
  obtain ⟨b?, hread, hb⟩ := hupdate
  rw [Inputs.read, hread, modeInput_of_spells h.mode, flagInput_of_spells h.failOnAdditions,
    hconfig, ← hb]
  simp only [h.nonempty, if_false]
  rfl

end Workflow

end SurfaceGuard
