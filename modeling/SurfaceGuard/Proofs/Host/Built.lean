import SurfaceGuard.Guard
import SurfaceGuard.Proofs.Host.Task
import SurfaceGuard.Proofs.Snapshot

/-!
# What the work of the guard is made of

All that the guard does on the host is made of a few kinds of steps: something is read off the
world, files are changed, messages are recorded, random bytes are drawn, a command is run, and steps
follow one another or see how an earlier one ended.  `Task.Built` says so of a task, with one
constructor for each kind.

What holds of all tasks that are built in this way is proved by one induction for each property:

* whatever ends such a task has a description (`Built.reports`);
* it only records messages, and keeps what the guard knows about itself (`Built.continues`);
* it does not read the variables and the log, so it does the same in worlds that differ in these
  and remain related (`Built.mirrors`), for instance with other variables (`Built.twins`).
-/

namespace SurfaceGuard

/-! ## Worlds that differ in little -/

/-- The world with other variables and another log. -/
def World.dress (w : World) (environment : List Bytes) (log : List Entry) : World :=
  { w with environment := environment, log := log }

section Dress

variable (w : World) (environment : List Bytes) (log : List Entry)

@[simp] theorem World.dress_files : (w.dress environment log).files = w.files := rfl

@[simp] theorem World.dress_directory : (w.dress environment log).directory = w.directory := rfl

@[simp] theorem World.dress_stamp : (w.dress environment log).stamp = w.stamp := rfl

end Dress

/-- The second world is the first one with other variables, and maybe another log. -/
structure World.Twin (given given' : List Bytes) (w w' : World) : Prop where
  environment : w.environment = given
  dressed : ∃ log, w' = w.dress given' log

namespace World.Twin

variable {given given' : List Bytes} {w w' : World}

theorem files (h : Twin given given' w w') : w'.files = w.files := by
  obtain ⟨log, rfl⟩ := h.dressed
  rfl

theorem directory (h : Twin given given' w w') : w'.directory = w.directory := by
  obtain ⟨log, rfl⟩ := h.dressed
  rfl

theorem logged (h : Twin given given' w w') (entries : List Entry) :
    Twin given given' w (w'.logged entries) := by
  obtain ⟨log, rfl⟩ := h.dressed
  exact ⟨h.environment, log ++ entries, rfl⟩

end World.Twin

/-- Is it a named result of the run? -/
def Entry.isOutput : Entry → Bool
  | output .. => true
  | _ => false

/-- What the guard knows about itself is as before, and only messages were recorded. -/
structure World.Continues (w w' : World) : Prop where
  directory : w'.directory = w.directory
  environment : w'.environment = w.environment
  clock : Timestamp.IsValid w.clock → Timestamp.IsValid w'.clock
  log : ∃ entries, (∀ e ∈ entries, e.isOutput = false) ∧ w'.log = w.log ++ entries

namespace World.Continues

theorem refl (w : World) : w.Continues w := ⟨rfl, rfl, id, [], by simp, by simp⟩

theorem trans {w u v : World} (h : w.Continues u) (h' : u.Continues v) : w.Continues v := by
  obtain ⟨entries, hentries, hlog⟩ := h.log
  obtain ⟨entries', hentries', hlog'⟩ := h'.log
  refine ⟨h'.directory.trans h.directory, h'.environment.trans h.environment,
    fun hclock => h'.clock (h.clock hclock), entries ++ entries', ?_, ?_⟩
  · exact fun e he => (List.mem_append.1 he).elim (hentries e) (hentries' e)
  · rw [hlog', hlog, List.append_assoc]

/-- No named result was recorded. -/
theorem mem_log_iff {w w' : World} (h : w.Continues w') {e : Entry} (he : e.isOutput = true) :
    e ∈ w'.log ↔ e ∈ w.log := by
  obtain ⟨entries, hentries, hlog⟩ := h.log
  rw [hlog, List.mem_append, or_iff_left]
  intro hmem
  rw [hentries e hmem] at he
  cases he

end World.Continues

/-! ## Commands -/

/-- A command changes the machine and takes time, and that is all it can do. -/
structure Launcher.IsConfined (launch : Launcher) : Prop where
  world : ∀ argv cwd timeoutMs w, ∃ machine clock,
    (launch argv cwd timeoutMs w).2 = { w with toMachine := machine, clock := clock }
      ∧ (Timestamp.IsValid w.clock → Timestamp.IsValid clock)

/-- The launcher that starts nothing, for tasks without commands. -/
def Launcher.none : Launcher := fun _ _ _ w => (.error [], w)

/-- Commands do the same with either set of variables, and whatever the log is. -/
def Launcher.Ignores (launch : Launcher) (given given' : List Bytes) : Prop :=
  ∀ argv cwd timeoutMs w w', World.Twin given given' w w' →
    (launch argv cwd timeoutMs w').1 = (launch argv cwd timeoutMs w).1
      ∧ World.Twin given given' (launch argv cwd timeoutMs w).2 (launch argv cwd timeoutMs w').2

theorem Launcher.isConfined_none : Launcher.none.IsConfined :=
  ⟨fun _ _ _ w => ⟨w.toMachine, w.clock, rfl, id⟩⟩

theorem Launcher.ignores_none (given given' : List Bytes) : Launcher.none.Ignores given given' :=
  fun _ _ _ _ _ hw => ⟨rfl, hw⟩

namespace Task

variable {α β : Type} {launch : Launcher}

/-- The run of a command, whose failure ends the task. -/
def launched (launch : Launcher) (argv : List Text) (cwd : Text) (timeoutMs : Number) :
    Task ExecOutput := fun w =>
  match launch argv cwd timeoutMs w with
  | (.ok output, w) => (.ok output, w)
  | (.error message, w) => (.error (.error message), w)

/-! ## Built tasks -/

/-- What is read off a world does not come from its variables or its log. -/
def IsBlind (f : World → α) : Prop := ∀ w environment log, f (w.dress environment log) = f w

/-- The task is made of the steps that the guard is made of. -/
inductive Built (launch : Launcher) : {α : Type} → Task α → Prop where
  | done {α : Type} (a : α) : Built launch (Task.done a)
  | fail {α : Type} {e : Thrown} (h : ¬e.Textless) : Built launch (Task.fail e : Task α)
  | look {α : Type} {f : World → α} (h : IsBlind f) : Built launch (Task.look f)
  | record {entries : List Entry} (h : ∀ e ∈ entries, e.isOutput = false) :
      Built launch (recordAll entries)
  | change {f : World → Option Thrown × FileTree} (h : IsBlind f)
      (herror : ∀ w e, (f w).1 = some e → ¬e.Textless) : Built launch (changeWith f)
  | attempt {broken : Fault → Task Unit} {operation : Task Unit}
      (hbroken : ∀ fault, Built launch (broken fault)) (h : Built launch operation) :
      Built launch (Task.attempt broken operation)
  | draw (count : Nat) : Built launch (randomBytes count)
  | command (argv : List Text) (cwd : Text) (timeoutMs : Number) :
      Built launch (launched launch argv cwd timeoutMs)
  | bind {α β : Type} {t : Task α} {next : α → Task β} (ht : Built launch t)
      (hnext : ∀ a, Built launch (next a)) : Built launch (t >>= next)
  /-- What follows a task sees how it ended. -/
  | after {α β : Type} {t : Task α} {next : Except Thrown α → Task β} (ht : Built launch t)
      (hok : ∀ a, Built launch (next (.ok a)))
      (herror : ∀ e, ¬e.Textless → Built launch (next (.error e))) :
      Built launch (outcome t >>= next)

/-! ## What holds of all of them -/

theorem reports_launched (launch : Launcher) (argv : List Text) (cwd : Text) (timeoutMs : Number) :
    Reports (launched launch argv cwd timeoutMs) := by
  intro w e w' h
  rw [launched] at h
  split at h
  · cases h
  · cases h
    exact id

/-- Whatever ends a built task has a description. -/
theorem Built.reports {t : Task α} (h : Built launch t) : Reports t := by
  induction h with
  | done a => exact reports_pure a
  | fail h => exact reports_fail h
  | look _ => exact reports_look _
  | record _ => exact fun _ _ _ h => nomatch h
  | change _ herror => exact reports_changeWith herror
  | attempt _ _ hbroken h => exact h.attempt hbroken
  | draw _ => exact fun _ _ _ h => nomatch h
  | command argv cwd timeoutMs => exact reports_launched launch argv cwd timeoutMs
  | bind _ _ ht hnext => exact ht.bind hnext
  | after _ _ _ ht hok herror => exact ht.outcome_bind hok herror

/-- Wherever the task is run, it only records messages and keeps what the guard knows about
itself. -/
def Continues (t : Task α) : Prop := ∀ w : World, w.Continues (t w).2

theorem continues_launched (hlaunch : launch.IsConfined) (argv : List Text) (cwd : Text)
    (timeoutMs : Number) : Continues (launched launch argv cwd timeoutMs) := by
  intro w
  obtain ⟨machine, clock, hworld, hclock⟩ := hlaunch.world argv cwd timeoutMs w
  -- whether the command fails or not, the world after it is the launcher's
  have hsame : (launched launch argv cwd timeoutMs w).2 = (launch argv cwd timeoutMs w).2 := by
    rw [launched]
    split <;> next h => rw [h]
  rw [hsame, hworld]
  exact ⟨rfl, rfl, hclock, [], by simp, by simp⟩

theorem continues_changeWith (f : World → Option Thrown × FileTree) : Continues (changeWith f) := by
  intro w
  rw [changeWith]
  split <;> exact ⟨rfl, rfl, id, [], by simp, by simp⟩

/-- The host takes note of an operation before it is made. -/
theorem continues_attempt {broken : Fault → Task Unit} {operation : Task Unit}
    (hbroken : ∀ fault, Continues (broken fault)) (h : Continues operation) :
    Continues (attempt broken operation) := by
  intro w
  have hfaults : ∀ faults, w.Continues { w with faults := faults } :=
    fun _ => ⟨rfl, rfl, id, [], by simp, by simp⟩
  rw [attempt]
  split
  · exact h w
  · exact (hfaults _).trans (h _)
  · exact (hfaults _).trans (hbroken _ _)

theorem Continues.bind {t : Task α} {next : α → Task β} (ht : Continues t)
    (hnext : ∀ a, Continues (next a)) : Continues (t >>= next) := by
  intro w
  obtain ⟨r, w', h⟩ : ∃ r w', (t >>= next) w = (r, w') := ⟨_, _, rfl⟩
  have hfirst := ht w
  rw [h]
  rcases bind_cases h with ⟨a, u, htask, hrest⟩ | ⟨e, htask, -⟩
  · have hlast := hnext a u
    rw [hrest] at hlast
    rw [htask] at hfirst
    exact hfirst.trans hlast
  · rw [htask] at hfirst
    exact hfirst

theorem Continues.after {t : Task α} {next : Except Thrown α → Task β} (ht : Continues t)
    (hreports : Reports t) (hok : ∀ a, Continues (next (.ok a)))
    (herror : ∀ e, ¬e.Textless → Continues (next (.error e))) :
    Continues (outcome t >>= next) := by
  intro w
  obtain ⟨end_, u, h⟩ : ∃ end_ u, t w = (end_, u) := ⟨_, _, rfl⟩
  have hfirst := ht w
  rw [h] at hfirst
  rw [bind_of_ok (outcome_eq h)]
  cases end_ with
  | ok a => exact hfirst.trans (hok a u)
  | error e => exact hfirst.trans (herror e (hreports w e u h) u)

/-- A built task only records messages, and keeps what the guard knows about itself. -/
theorem Built.continues {t : Task α} (hlaunch : launch.IsConfined) (h : Built launch t) :
    Continues t := by
  induction h with
  | done a => exact fun w => .refl w
  | fail _ => exact fun w => .refl w
  | look _ => exact fun w => .refl w
  | record h => exact fun w => ⟨rfl, rfl, id, _, h, rfl⟩
  | change _ _ => exact continues_changeWith _
  | attempt _ _ hbroken h => exact continues_attempt hbroken h
  | draw _ => exact fun w => ⟨rfl, rfl, id, [], by simp, by simp [randomBytes]⟩
  | command argv cwd timeoutMs => exact continues_launched hlaunch argv cwd timeoutMs
  | bind _ _ ht hnext => exact ht.bind hnext
  | after hbuilt _ _ ht hok herror => exact ht.after hbuilt.reports hok herror

/-! ## Runs side by side -/

section Mirrors

variable {R : World → World → Prop}

/-- From related worlds the task ends in the same way, and in related worlds. -/
def Mirrors (R : World → World → Prop) (t : Task α) : Prop :=
  ∀ w w', R w w' → (t w').1 = (t w).1 ∧ R (t w).2 (t w').2

/-- Related worlds differ in their variables and logs only, and remain related whatever step is
taken in both. -/
structure IsKept (launch : Launcher) (R : World → World → Prop) : Prop where
  dressed {w w'} (h : R w w') : ∃ environment log, w' = w.dress environment log
  logged {w w'} (h : R w w') (entries : List Entry) : R (w.logged entries) (w'.logged entries)
  changed {w w'} (h : R w w') (files : FileTree) (time : Nat) :
    R { w with files := files, time := time } { w' with files := files, time := time }
  noted {w w'} (h : R w w') (faults : List (Option Fault)) :
    R { w with faults := faults } { w' with faults := faults }
  drawn {w w'} (h : R w w') (random : Nat → UInt8) :
    R { w with random := random } { w' with random := random }
  launched {w w'} (h : R w w') (argv : List Text) (cwd : Text) (timeoutMs : Number) :
    (launch argv cwd timeoutMs w').1 = (launch argv cwd timeoutMs w).1
      ∧ R (launch argv cwd timeoutMs w).2 (launch argv cwd timeoutMs w').2

theorem IsKept.look (hR : IsKept launch R) {f : World → α} (h : IsBlind f) :
    Mirrors R (Task.look f) := by
  intro w w' hw
  obtain ⟨environment, log, rfl⟩ := hR.dressed hw
  exact ⟨congrArg Except.ok (h w environment log), hw⟩

theorem IsKept.changeWith (hR : IsKept launch R) {f : World → Option Thrown × FileTree}
    (h : IsBlind f) : Mirrors R (Task.changeWith f) := by
  intro w w' hw
  obtain ⟨environment, log, rfl⟩ := hR.dressed hw
  rw [Task.changeWith, Task.changeWith, h]
  split <;> exact ⟨rfl, hR.changed hw _ _⟩

theorem IsKept.attempt (hR : IsKept launch R) {broken : Fault → Task Unit} {operation : Task Unit}
    (hbroken : ∀ fault, Mirrors R (broken fault)) (h : Mirrors R operation) :
    Mirrors R (Task.attempt broken operation) := by
  intro w w' hw
  have hsame : w'.faults = w.faults := by
    obtain ⟨environment, log, rfl⟩ := hR.dressed hw
    rfl
  rw [Task.attempt, Task.attempt, hsame]
  split
  · exact h w w' hw
  · exact h _ _ (hR.noted hw _)
  · exact hbroken _ _ _ (hR.noted hw _)

theorem IsKept.draw (hR : IsKept launch R) (count : Nat) : Mirrors R (randomBytes count) := by
  intro w w' hw
  have hsame : w'.random = w.random := by
    obtain ⟨environment, log, rfl⟩ := hR.dressed hw
    rfl
  rw [randomBytes, randomBytes, hsame]
  exact ⟨rfl, hR.drawn hw _⟩

theorem IsKept.command (hR : IsKept launch R) (argv : List Text) (cwd : Text) (timeoutMs : Number) :
    Mirrors R (Task.launched launch argv cwd timeoutMs) := by
  intro w w' hw
  obtain ⟨hend, hafter⟩ := hR.launched hw argv cwd timeoutMs
  rw [Task.launched, Task.launched]
  obtain ⟨r, u, h⟩ : ∃ r u, launch argv cwd timeoutMs w = (r, u) := ⟨_, _, rfl⟩
  obtain ⟨r', u', h'⟩ : ∃ r' u', launch argv cwd timeoutMs w' = (r', u') := ⟨_, _, rfl⟩
  rw [h, h'] at hend hafter
  obtain rfl : r' = r := hend
  rw [h, h']
  cases r' <;> exact ⟨rfl, hafter⟩

theorem Mirrors.bind {t : Task α} {next : α → Task β} (ht : Mirrors R t)
    (hnext : ∀ a, Mirrors R (next a)) : Mirrors R (t >>= next) := by
  intro w w' hw
  obtain ⟨hend, hafter⟩ := ht w w' hw
  obtain ⟨r, u, h⟩ : ∃ r u, t w = (r, u) := ⟨_, _, rfl⟩
  obtain ⟨r', u', h'⟩ : ∃ r' u', t w' = (r', u') := ⟨_, _, rfl⟩
  rw [h, h'] at hend hafter
  obtain rfl : r' = r := hend
  cases r' with
  | ok a =>
    rw [bind_of_ok h, bind_of_ok h']
    exact hnext a u u' hafter
  | error e =>
    rw [bind_of_error h, bind_of_error h']
    exact ⟨rfl, hafter⟩

theorem Mirrors.after {t : Task α} {next : Except Thrown α → Task β} (ht : Mirrors R t)
    (hreports : Reports t) (hok : ∀ a, Mirrors R (next (.ok a)))
    (herror : ∀ e, ¬e.Textless → Mirrors R (next (.error e))) :
    Mirrors R (Task.outcome t >>= next) := by
  intro w w' hw
  obtain ⟨hend, hafter⟩ := ht w w' hw
  obtain ⟨r, u, h⟩ : ∃ r u, t w = (r, u) := ⟨_, _, rfl⟩
  obtain ⟨r', u', h'⟩ : ∃ r' u', t w' = (r', u') := ⟨_, _, rfl⟩
  rw [h, h'] at hend hafter
  obtain rfl : r' = r := hend
  rw [bind_of_ok (outcome_eq h), bind_of_ok (outcome_eq h')]
  cases r' with
  | ok a => exact hok a u u' hafter
  | error e => exact herror e (hreports w e u h) u u' hafter

/-- A built task does the same in worlds that remain related. -/
theorem Built.mirrors {t : Task α} (hR : IsKept launch R) (h : Built launch t) : Mirrors R t := by
  induction h with
  | done a => exact fun _ _ hw => ⟨rfl, hw⟩
  | fail _ => exact fun _ _ hw => ⟨rfl, hw⟩
  | look h => exact hR.look h
  | record _ => exact fun _ _ hw => ⟨rfl, hR.logged hw _⟩
  | change h _ => exact hR.changeWith h
  | attempt _ _ hbroken h => exact hR.attempt hbroken h
  | draw count => exact hR.draw count
  | command argv cwd timeoutMs => exact hR.command argv cwd timeoutMs
  | bind _ _ ht hnext => exact ht.bind hnext
  | after hbuilt _ _ ht hok herror => exact ht.after hbuilt.reports hok herror

end Mirrors

/-- The task does the same with either set of variables, and whatever the log is. -/
def Twins (given given' : List Bytes) (t : Task α) : Prop :=
  ∀ w w', World.Twin given given' w w' →
    (t w').1 = (t w).1 ∧ World.Twin given given' (t w).2 (t w').2

variable {given given' : List Bytes}

theorem isKept_twin (hlaunch : launch.Ignores given given') :
    IsKept launch (World.Twin given given') where
  dressed h := ⟨given', h.dressed⟩
  logged h entries := by
    obtain ⟨log, rfl⟩ := h.dressed
    exact ⟨h.environment, log ++ entries, rfl⟩
  changed h files time := by
    obtain ⟨log, rfl⟩ := h.dressed
    exact ⟨h.environment, log, rfl⟩
  noted h faults := by
    obtain ⟨log, rfl⟩ := h.dressed
    exact ⟨h.environment, log, rfl⟩
  drawn h random := by
    obtain ⟨log, rfl⟩ := h.dressed
    exact ⟨h.environment, log, rfl⟩
  launched h argv cwd timeoutMs := hlaunch argv cwd timeoutMs _ _ h

/-- A built task does the same with either set of variables if its commands do. -/
theorem Built.twins {t : Task α} (hlaunch : launch.Ignores given given') (h : Built launch t) :
    Twins given given' t := h.mirrors (isKept_twin hlaunch)

end Task

end SurfaceGuard
