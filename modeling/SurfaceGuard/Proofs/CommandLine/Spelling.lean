import SurfaceGuard.CommandLine.Options
import Mathlib.Tactic

/-!
# How settings are spelled

A command line is a sequence of groups of arguments, with operands between them.  A group sets one
option: the option and its argument beside each other, joined by an equals sign or written together,
or an option without an argument, which may be written together with the group after it.

`Spelling` says which settings a command line spells, one group after the other.  Reading is exact
for it: the values that a command line leaves are those that the settings put into the record, and a
command line that spells nothing leaves none (`read_eq_ok_iff`).
-/

namespace SurfaceGuard.CommandLine

/-! ## Forms of options -/

namespace Flag

/-- The option has the form, short or long. -/
def HasForm (f : Flag) (form : Text) : Prop := f.short? = some form ∨ f.long = form

theorem short?_cases {f : Flag} {form : Text} (h : f.short? = some form) :
    f = version ∧ form = "-v" ∨ f = config ∧ form = "-c" ∨ f = quiet ∧ form = "-q" := by
  cases f with
  | version => cases h; exact .inl ⟨rfl, rfl⟩
  | config => cases h; exact .inr (.inl ⟨rfl, rfl⟩)
  | quiet => cases h; exact .inr (.inr ⟨rfl, rfl⟩)
  | _ => cases h

/-- A short form is a dash and a letter. -/
theorem short?_eq {f : Flag} {form : Text} (h : f.short? = some form) :
    ∃ letter, letter ≠ dash ∧ form = [dash, letter] := by
  rcases short?_cases h with ⟨-, rfl⟩ | ⟨-, rfl⟩ | ⟨-, rfl⟩
  · exact ⟨0x76, by decide, rfl⟩
  · exact ⟨0x63, by decide, rfl⟩
  · exact ⟨0x71, by decide, rfl⟩

/-- A long form has two dashes and something after them, but no equals sign. -/
theorem long_eq (f : Flag) : ∃ u word, f.long = dash :: dash :: u :: word ∧ 0x3D ∉ f.long := by
  have hstart : f.long.take 2 = [dash, dash] := by cases f <;> decide
  have hword : f.long.drop 2 ≠ [] := by cases f <;> decide
  have hequals : 0x3D ∉ f.long := by cases f <;> decide
  obtain ⟨u, word, hrest⟩ := List.exists_cons_of_ne_nil hword
  have hlong : f.long = [dash, dash] ++ u :: word := by
    rw [← hstart, ← hrest, List.take_append_drop]
  exact ⟨u, word, hlong, hequals⟩

theorem not_mem_of_hasForm {f : Flag} {form : Text} (h : f.HasForm form) : 0x3D ∉ form := by
  rcases h with h | rfl
  · rcases short?_cases h with ⟨-, rfl⟩ | ⟨-, rfl⟩ | ⟨-, rfl⟩ <;> decide
  · obtain ⟨_, _, -, hequals⟩ := f.long_eq
    exact hequals

/-- An option is found by its forms, and by nothing else. -/
theorem ofForm?_eq_some_iff {form : Text} {f : Flag} : ofForm? form = some f ↔ f.HasForm form := by
  constructor
  · intro h
    have hform := List.find?_some h
    rw [Bool.or_eq_true, beq_iff_eq, beq_iff_eq] at hform
    exact hform
  · rintro (h | rfl)
    · rcases short?_cases h with ⟨rfl, rfl⟩ | ⟨rfl, rfl⟩ | ⟨rfl, rfl⟩ <;> decide
    · cases f <;> decide

theorem ofForm?_eq_none {form : Text} (h : ∀ f : Flag, ¬f.HasForm form) : ofForm? form = none :=
  Option.eq_none_iff_forall_ne_some.2 fun f hf => h f (ofForm?_eq_some_iff.1 hf)

theorem isOption_of_hasForm {f : Flag} {form : Text} (h : f.HasForm form) (t : Text) :
    isOption (form ++ t) = true := by
  rcases h with h | rfl
  · obtain ⟨letter, -, rfl⟩ := short?_eq h
    simp [isOption]
  · obtain ⟨u, word, hlong, -⟩ := f.long_eq
    simp [isOption, hlong]

theorem hasForm_ne_dashes {f : Flag} {form : Text} (h : f.HasForm form) : form ≠ [dash, dash] := by
  rcases h with h | rfl
  · obtain ⟨letter, hletter, rfl⟩ := short?_eq h
    simpa using hletter
  · obtain ⟨u, word, hlong, -⟩ := f.long_eq
    simp [hlong]

end Flag

/-- A short form may be written together with what follows it. -/
theorem cluster?_eq_some_iff {arg tail : Text} {f : Flag} :
    cluster? arg = some (f, tail) ↔
      tail ≠ [] ∧ ∃ form, f.short? = some form ∧ arg = form ++ tail := by
  constructor
  · intro h
    unfold cluster? at h
    split at h
    · next d letter u rest =>
      split at h
      · next hdash =>
        rw [Bool.and_eq_true, beq_iff_eq, bne_iff_ne] at hdash
        obtain ⟨rfl, hletter⟩ := hdash
        obtain ⟨f', hform, heq⟩ := Option.map_eq_some_iff.1 h
        obtain ⟨rfl, rfl⟩ := Prod.mk.inj heq
        refine ⟨List.cons_ne_nil _ _, [dash, letter], ?_, rfl⟩
        rcases Flag.ofForm?_eq_some_iff.1 hform with hshort | hlong
        · exact hshort
        · obtain ⟨v, word, hlong', -⟩ := f'.long_eq
          rw [hlong] at hlong'
          cases hlong'
      · cases h
    · cases h
  · rintro ⟨htail, form, hshort, rfl⟩
    obtain ⟨letter, hletter, rfl⟩ := Flag.short?_eq hshort
    obtain ⟨u, rest, rfl⟩ := List.exists_cons_of_ne_nil htail
    have hform := Flag.ofForm?_eq_some_iff.2 (.inl hshort)
    simp [cluster?, hletter, hform]

/-- An option with a value may be joined to it by an equals sign. -/
theorem assignment?_eq_some_iff {arg value : Text} {f : Flag} :
    assignment? arg = some (f, value) ↔
      f.takesValue = true ∧ ∃ form, f.HasForm form ∧ arg = form ++ 0x3D :: value := by
  constructor
  · intro h
    have hparts : arg.takeWhile (· != 0x3D) ++ arg.dropWhile (· != 0x3D) = arg :=
      List.takeWhile_append_dropWhile
    rw [assignment?] at h
    split at h
    · cases h
    · next u value' hdrop =>
      obtain rfl : u = 0x3D := by
        have hhead := List.head?_dropWhile_not (· != 0x3D) arg
        rw [hdrop] at hhead
        simpa using hhead
      split at h
      · next f' hform =>
        split at h
        · next hvalue =>
          cases h
          refine ⟨hvalue, _, Flag.ofForm?_eq_some_iff.1 hform, ?_⟩
          rw [← hdrop, hparts]
        · cases h
      · cases h
  · rintro ⟨hvalue, form, hform, rfl⟩
    have hplain : ∀ u ∈ form, (u != 0x3D) = true := by
      intro u hu
      rw [bne_iff_ne]
      rintro rfl
      exact Flag.not_mem_of_hasForm hform hu
    have htake : (form ++ 0x3D :: value).takeWhile (· != 0x3D) = form := by
      rw [List.takeWhile_append_of_pos hplain, List.takeWhile_cons_of_neg (by decide),
        List.append_nil]
    have hdrop : (form ++ 0x3D :: value).dropWhile (· != 0x3D) = 0x3D :: value := by
      rw [List.dropWhile_append_of_pos hplain, List.dropWhile_cons_of_neg (by decide)]
    rw [assignment?, htake, hdrop]
    simp only [Flag.ofForm?_eq_some_iff.2 hform, hvalue, if_true]

/-! ## Settings -/

/-- An option set to a value. -/
inductive Setting where
  | config (path : Text)
  | update
  | mode (m : Mode)
  | failOnAdditions (b : Bool)
  | reportDir (dir : Text)
  | verbose
  | quiet
  deriving DecidableEq, Repr

namespace Setting

/-- The option that is set. -/
def flag : Setting → Flag
  | config _ => .config
  | update => .update
  | mode _ => .mode
  | failOnAdditions true => .failOnAdditions
  | failOnAdditions false => .noFailOnAdditions
  | reportDir _ => .reportDir
  | verbose => .verbose
  | quiet => .quiet

/-- The argument of the option, empty for an option without one. -/
def argument : Setting → Text
  | config path => path
  | mode m => m.name
  | reportDir dir => dir
  | _ => []

/-- The value that the record has then. -/
def value : Setting → Json
  | config path => .string path
  | mode m => .string m.name
  | failOnAdditions b => .boolean b
  | reportDir dir => .string dir
  | _ => .boolean true

/-- The record with the value in it. -/
def put (values : Values) (s : Setting) : Values := Members.insert s.flag.name s.value values

theorem apply_flag (s : Setting) (values : Values) :
    s.flag.apply s.argument values = .ok (s.put values) := by
  have hsetting : s.flag.setting s.argument = .ok s.value := by
    cases s with
    | mode m =>
      have hm : Mode.ofName? m.name = some m := Mode.ofName?_eq_some_iff.2 rfl
      simp [flag, argument, Flag.setting, value, hm]
    | failOnAdditions b => cases b <;> rfl
    | _ => rfl
  rw [Flag.apply, hsetting]
  rfl

/-- An option that is set without a failure is set by a setting. -/
theorem exists_of_apply {f : Flag} {argument : Text} {values values' : Values}
    (h : f.apply argument values = .ok values') (hnone : f.takesValue = false → argument = []) :
    ∃ s : Setting, s.flag = f ∧ s.argument = argument ∧ values' = s.put values := by
  have hset : ∀ s : Setting, s.flag = f → s.argument = argument →
      ∃ s : Setting, s.flag = f ∧ s.argument = argument ∧ values' = s.put values := by
    rintro s rfl rfl
    rw [apply_flag] at h
    exact ⟨s, rfl, rfl, (Except.ok.inj h).symm⟩
  cases f with
  | version => cases h
  | config => exact hset (config argument) rfl rfl
  | update => exact hset update rfl (hnone rfl).symm
  | mode =>
    cases hmode : Mode.ofName? argument with
    | some m => exact hset (mode m) rfl (Mode.ofName?_eq_some_iff.1 hmode).symm
    | none =>
      simp only [Flag.apply, Flag.setting, hmode] at h
      cases h
  | failOnAdditions => exact hset (failOnAdditions true) rfl (hnone rfl).symm
  | noFailOnAdditions => exact hset (failOnAdditions false) rfl (hnone rfl).symm
  | reportDir => exact hset (reportDir argument) rfl rfl
  | verbose => exact hset verbose rfl (hnone rfl).symm
  | quiet => exact hset quiet rfl (hnone rfl).symm

theorem exists_of_bind {α : Type} {f : Flag} {argument : Text} {values : Values} {r : α}
    {k : Values → Except Stop α} (h : (f.apply argument values).bind k = .ok r)
    (hnone : f.takesValue = false → argument = []) :
    ∃ s : Setting, s.flag = f ∧ s.argument = argument ∧ k (s.put values) = .ok r := by
  cases happly : f.apply argument values with
  | error stop =>
    rw [happly] at h
    cases h
  | ok values' =>
    obtain ⟨s, hflag, hargument, rfl⟩ := exists_of_apply happly hnone
    rw [happly] at h
    exact ⟨s, hflag, hargument, h⟩

end Setting

/-! ## Command lines -/

/-- The command line spells the settings, one group of arguments after the other. -/
inductive Spelling : List Text → List Setting → Prop
  | nil : Spelling [] []
  /-- Two dashes end the options, whatever follows. -/
  | ended (rest : List Text) : Spelling ([dash, dash] :: rest) []
  /-- An argument that is no option stands for itself. -/
  | operand {arg : Text} {rest : List Text} {ss : List Setting} (harg : isOption arg = false)
      (h : Spelling rest ss) : Spelling (arg :: rest) ss
  /-- The argument of an option is the next one, whatever it looks like. -/
  | separate (s : Setting) {form : Text} {rest : List Text} {ss : List Setting}
      (hform : s.flag.HasForm form) (hvalue : s.flag.takesValue = true) (h : Spelling rest ss) :
      Spelling (form :: s.argument :: rest) (s :: ss)
  /-- It may be joined to a long form by an equals sign. -/
  | assigned (s : Setting) {rest : List Text} {ss : List Setting}
      (hvalue : s.flag.takesValue = true) (h : Spelling rest ss) :
      Spelling ((s.flag.long ++ 0x3D :: s.argument) :: rest) (s :: ss)
  /-- It may be written right behind a short form, if it is not empty. -/
  | attached (s : Setting) {form : Text} {rest : List Text} {ss : List Setting}
      (hform : s.flag.short? = some form) (hvalue : s.flag.takesValue = true)
      (hargument : s.argument ≠ []) (h : Spelling rest ss) :
      Spelling ((form ++ s.argument) :: rest) (s :: ss)
  /-- An option without an argument stands alone. -/
  | switch (s : Setting) {form : Text} {rest : List Text} {ss : List Setting}
      (hform : s.flag.HasForm form) (hvalue : s.flag.takesValue = false) (h : Spelling rest ss) :
      Spelling (form :: rest) (s :: ss)
  /-- What follows a dash may be written right behind the short form of such an option. -/
  | clustered (s : Setting) {form tail : Text} {rest : List Text} {ss : List Setting}
      (hform : s.flag.short? = some form) (hvalue : s.flag.takesValue = false) (htail : tail ≠ [])
      (h : Spelling ((dash :: tail) :: rest) ss) : Spelling ((form ++ tail) :: rest) (s :: ss)

/-! ## Reading one group -/

section Scan

variable {arg form tail : Text} {rest unknown : List Text} {values : Values}
variable {f : Flag} {s : Setting}

/-- A short form with more behind it is no form itself. -/
theorem ofForm?_append (hform : f.short? = some form) (htail : tail ≠ []) :
    Flag.ofForm? (form ++ tail) = none := by
  obtain ⟨letter, hletter, rfl⟩ := Flag.short?_eq hform
  refine Flag.ofForm?_eq_none fun f' h => ?_
  rcases h with hshort | hlong
  · obtain ⟨letter', -, heq⟩ := Flag.short?_eq hshort
    exact htail (List.cons.inj (List.cons.inj heq).2).2
  · obtain ⟨u, word, hlong', -⟩ := f'.long_eq
    rw [hlong] at hlong'
    exact hletter (List.cons.inj (List.cons.inj hlong').2).1

theorem scan_of_form (h : f.HasForm form) : scan values unknown (form :: rest)
    = if f.takesValue then
        match rest with
        | [] => .error (.missingValue f)
        | value :: rest => (f.apply value values).bind fun values => scan values unknown rest
      else (f.apply [] values).bind fun values => scan values unknown rest := by
  rw [scan.eq_def]
  cases rest <;> simp only [Flag.hasForm_ne_dashes h, if_false, Flag.ofForm?_eq_some_iff.2 h]

theorem scan_of_cluster (hform : f.short? = some form) (htail : tail ≠ []) :
    scan values unknown ((form ++ tail) :: rest)
      = if f.takesValue then (f.apply tail values).bind fun values => scan values unknown rest
        else (f.apply [] values).bind fun values =>
          scan values unknown ((dash :: tail) :: rest) := by
  have hcluster : cluster? (form ++ tail) = some (f, tail) :=
    cluster?_eq_some_iff.2 ⟨htail, form, hform, rfl⟩
  have hdashes : form ++ tail ≠ [dash, dash] := by
    obtain ⟨letter, hletter, rfl⟩ := Flag.short?_eq hform
    simp [hletter]
  rw [scan.eq_def]
  simp only [hdashes, if_false, ofForm?_append hform htail]
  split
  · next h =>
    rw [hcluster] at h
    cases h
    rfl
  · next h =>
    rw [hcluster] at h
    cases h

theorem scan_of_no_form (hdashes : arg ≠ [dash, dash]) (hform : Flag.ofForm? arg = none)
    (hcluster : cluster? arg = none) : scan values unknown (arg :: rest)
      = match assignment? arg with
        | some (f, value) => (f.apply value values).bind fun values => scan values unknown rest
        | none =>
          if isOption arg || !unknown.isEmpty then scan values (unknown ++ [arg]) rest
          else scan values unknown rest := by
  rw [scan.eq_def]
  simp only [hdashes, if_false, hform]
  split
  · next h =>
    rw [hcluster] at h
    cases h
  · rfl

theorem scan_ended (values : Values) (rest : List Text) :
    scan values [] ([dash, dash] :: rest) = .ok (values, []) := by
  rw [scan.eq_def]
  simp

theorem scan_operand (harg : isOption arg = false) :
    scan values [] (arg :: rest) = scan values [] rest := by
  -- whatever is read as an option looks like one
  have hnone : ∀ (f : Flag) (form t : Text), f.HasForm form → arg ≠ form ++ t := by
    rintro f form t hform rfl
    rw [Flag.isOption_of_hasForm hform] at harg
    cases harg
  have hdashes : arg ≠ [dash, dash] := by
    rintro rfl
    cases harg
  have hform : Flag.ofForm? arg = none :=
    Flag.ofForm?_eq_none fun f h => hnone f arg [] h (List.append_nil arg).symm
  have hcluster : cluster? arg = none := by
    refine Option.eq_none_iff_forall_ne_some.2 fun ⟨f, tail⟩ h => ?_
    obtain ⟨-, form, hshort, heq⟩ := cluster?_eq_some_iff.1 h
    exact hnone f form tail (.inl hshort) heq
  have hassignment : assignment? arg = none := by
    refine Option.eq_none_iff_forall_ne_some.2 fun ⟨f, value⟩ h => ?_
    obtain ⟨-, form, hform, heq⟩ := assignment?_eq_some_iff.1 h
    exact hnone f form _ hform heq
  rw [scan_of_no_form hdashes hform hcluster, hassignment]
  simp only [harg]
  rfl

theorem scan_separate (hform : s.flag.HasForm form) (hvalue : s.flag.takesValue = true) :
    scan values unknown (form :: s.argument :: rest) = scan (s.put values) unknown rest := by
  rw [scan_of_form hform, if_pos hvalue]
  simp only [s.apply_flag]
  rfl

theorem scan_assigned (hvalue : s.flag.takesValue = true) :
    scan values unknown ((s.flag.long ++ 0x3D :: s.argument) :: rest)
      = scan (s.put values) unknown rest := by
  obtain ⟨u, word, hlong, -⟩ := s.flag.long_eq
  have hdashes : s.flag.long ++ 0x3D :: s.argument ≠ [dash, dash] := by simp [hlong]
  have hform : Flag.ofForm? (s.flag.long ++ 0x3D :: s.argument) = none :=
    Flag.ofForm?_eq_none fun f h => Flag.not_mem_of_hasForm h (by simp)
  have hcluster : cluster? (s.flag.long ++ 0x3D :: s.argument) = none := by
    refine Option.eq_none_iff_forall_ne_some.2 fun ⟨f, tail⟩ h => ?_
    obtain ⟨-, form, hshort, heq⟩ := cluster?_eq_some_iff.1 h
    obtain ⟨letter, hletter, rfl⟩ := Flag.short?_eq hshort
    rw [hlong] at heq
    exact hletter (List.cons.inj (List.cons.inj heq).2).1.symm
  have hassignment : assignment? (s.flag.long ++ 0x3D :: s.argument)
      = some (s.flag, s.argument) :=
    assignment?_eq_some_iff.2 ⟨hvalue, _, .inr rfl, rfl⟩
  rw [scan_of_no_form hdashes hform hcluster, hassignment]
  simp only [s.apply_flag]
  rfl

theorem scan_attached (hform : s.flag.short? = some form) (hvalue : s.flag.takesValue = true)
    (hargument : s.argument ≠ []) :
    scan values unknown ((form ++ s.argument) :: rest) = scan (s.put values) unknown rest := by
  rw [scan_of_cluster hform hargument, if_pos hvalue, s.apply_flag]
  rfl

theorem Setting.argument_eq_nil (hvalue : s.flag.takesValue = false) : s.argument = [] := by
  cases s with
  | config path => cases hvalue
  | mode m => cases hvalue
  | reportDir dir => cases hvalue
  | _ => rfl

theorem scan_switch (hform : s.flag.HasForm form) (hvalue : s.flag.takesValue = false) :
    scan values unknown (form :: rest) = scan (s.put values) unknown rest := by
  rw [scan_of_form hform, if_neg (Bool.eq_false_iff.1 hvalue), ← Setting.argument_eq_nil hvalue,
    s.apply_flag]
  rfl

theorem scan_clustered (hform : s.flag.short? = some form) (hvalue : s.flag.takesValue = false)
    (htail : tail ≠ []) : scan values unknown ((form ++ tail) :: rest)
      = scan (s.put values) unknown ((dash :: tail) :: rest) := by
  rw [scan_of_cluster hform htail, if_neg (Bool.eq_false_iff.1 hvalue),
    ← Setting.argument_eq_nil hvalue, s.apply_flag]
  rfl

end Scan

/-! ## Reading command lines -/

/-- The record with the values of all settings in it, a later one in the place of an earlier one. -/
def record (values : Values) (ss : List Setting) : Values :=
  ss.foldl (fun values s => s.put values) values

/-- What was spelled is read. -/
theorem scan_spelling {args : List Text} {ss : List Setting} (h : Spelling args ss) :
    ∀ values, scan values [] args = .ok (record values ss, []) := by
  induction h with
  | nil =>
    intro values
    rw [scan]
    rfl
  | ended rest => exact fun values => scan_ended values rest
  | operand harg _ ih => exact fun values => (scan_operand harg).trans (ih values)
  | separate s hform hvalue _ ih =>
    exact fun values => (scan_separate hform hvalue).trans (ih (s.put values))
  | assigned s hvalue _ ih => exact fun values => (scan_assigned hvalue).trans (ih (s.put values))
  | attached s hform hvalue hargument _ ih =>
    exact fun values => (scan_attached hform hvalue hargument).trans (ih (s.put values))
  | switch s hform hvalue _ ih =>
    exact fun values => (scan_switch hform hvalue).trans (ih (s.put values))
  | clustered s hform hvalue htail _ ih =>
    exact fun values => (scan_clustered hform hvalue htail).trans (ih (s.put values))

/-- Nothing else is read to its end: an argument that is unknown stays so. -/
theorem exists_spelling_of_scan {args unknown : List Text} {values values' : Values}
    (h : scan values unknown args = .ok (values', [])) :
    unknown = [] ∧ ∃ ss, Spelling args ss ∧ values' = record values ss := by
  fun_induction scan values unknown args with
  | case1 values unknown =>
    cases h
    exact ⟨rfl, [], .nil, rfl⟩
  | case2 values unknown rest =>
    rw [Except.ok.injEq, Prod.mk.injEq] at h
    obtain ⟨rfl, hunknown⟩ := h
    split at hunknown
    · next hempty => exact ⟨List.isEmpty_iff.1 hempty, [], .ended rest, rfl⟩
    · simp at hunknown
  | case3 => cases h
  | case4 values unknown form _ f hf hvalue argument rest ih =>
    obtain ⟨s, rfl, rfl, hs⟩ := Setting.exists_of_bind h (by simp [hvalue])
    obtain ⟨hunknown, ss, hss, hvalues⟩ := ih _ hs
    have hform := Flag.ofForm?_eq_some_iff.1 hf
    exact ⟨hunknown, s :: ss, .separate s hform hvalue hss, hvalues⟩
  | case5 values unknown form rest _ f hf hvalue ih =>
    obtain ⟨s, rfl, -, hs⟩ := Setting.exists_of_bind h fun _ => rfl
    obtain ⟨hunknown, ss, hss, hvalues⟩ := ih _ hs
    have hform := Flag.ofForm?_eq_some_iff.1 hf
    exact ⟨hunknown, s :: ss, .switch s hform (Bool.eq_false_iff.2 hvalue) hss, hvalues⟩
  | case6 values unknown arg rest _ _ f tail hcluster hvalue ih =>
    obtain ⟨s, rfl, rfl, hs⟩ := Setting.exists_of_bind h (by simp [hvalue])
    obtain ⟨hunknown, ss, hss, hvalues⟩ := ih _ hs
    obtain ⟨htail, form, hform, rfl⟩ := cluster?_eq_some_iff.1 hcluster
    exact ⟨hunknown, s :: ss, .attached s hform hvalue htail hss, hvalues⟩
  | case7 values unknown arg rest _ _ f tail hcluster hvalue ih =>
    obtain ⟨s, rfl, -, hs⟩ := Setting.exists_of_bind h fun _ => rfl
    obtain ⟨hunknown, ss, hss, hvalues⟩ := ih _ hs
    obtain ⟨htail, form, hform, rfl⟩ := cluster?_eq_some_iff.1 hcluster
    exact ⟨hunknown, s :: ss, .clustered s hform (Bool.eq_false_iff.2 hvalue) htail hss, hvalues⟩
  | case8 values unknown arg rest _ _ hcluster f argument hassignment ih =>
    obtain ⟨hvalue, form, hform, rfl⟩ := assignment?_eq_some_iff.1 hassignment
    obtain ⟨s, rfl, rfl, hs⟩ := Setting.exists_of_bind h (by simp [hvalue])
    obtain ⟨hunknown, ss, hss, hvalues⟩ := ih _ hs
    -- an equals sign behind a short form belongs to the argument
    rcases hform with hshort | rfl
    · have hsome : cluster? (form ++ 0x3D :: s.argument) = some (s.flag, 0x3D :: s.argument) :=
        cluster?_eq_some_iff.2 ⟨List.cons_ne_nil _ _, form, hshort, rfl⟩
      rw [hsome] at hcluster
      cases hcluster
    · exact ⟨hunknown, s :: ss, .assigned s hvalue hss, hvalues⟩
  | case9 values unknown arg rest _ _ _ _ _ ih =>
    exact absurd (ih h).1 (List.append_ne_nil_of_right_ne_nil _ (List.cons_ne_nil _ _))
  | case10 values unknown arg rest _ _ _ _ harg ih =>
    obtain ⟨hunknown, ss, hss, hvalues⟩ := ih h
    have hoperand : isOption arg = false := by
      rw [Bool.or_eq_true, not_or] at harg
      exact Bool.eq_false_iff.2 harg.1
    exact ⟨hunknown, ss, .operand hoperand hss, hvalues⟩

/-- A command line leaves the values of the settings that it spells. -/
theorem read_eq_ok_iff {args : List Text} {values : Values} :
    read args = .ok values ↔ ∃ ss, Spelling args ss ∧ values = record defaults ss := by
  constructor
  · intro h
    unfold read at h
    split at h
    · cases h
    · next values' unknown hscan =>
      split at h
      · cases h
      · split at h
        · cases h
          exact (exists_spelling_of_scan hscan).2
        · cases h
  · rintro ⟨ss, hss, rfl⟩
    rw [read, scan_spelling hss]
    rfl

end SurfaceGuard.CommandLine
