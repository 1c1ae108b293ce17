import SurfaceGuard.Process.Launch
import SurfaceGuard.Proofs.Host.Built

/-!
# What a command can touch

The launcher hands a command the machine, a directory, and the variables of the guard.  So a
command changes nothing but the machine, and it does not see the log.
-/

namespace SurfaceGuard.Launch

variable (pace : Nat) (argv : List Text) (cwd : Text) (timeoutMs : Number) (w : World)

/-- A command fails at once, or is started, not before it was called, and ends as the supervisor
says of what happened to it. -/
theorem run_cases (command : Text) (args : List Text) :
    (∃ message, run pace command args cwd timeoutMs w = (.failed message, w))
      ∨ ∃ s m termAt killAt, w.time ≤ s.time
        ∧ termAt = s.time + max 1000 (timerDelay timeoutMs * 1000 / pace)
        ∧ killAt = termAt + gracePeriod * 1000 / pace
        ∧ run pace command args cwd timeoutMs w
          = (((Supervisor.start true).run (events s m termAt killAt)).ending?.getD (.failed []),
            { w with toMachine := reap s m }) := by
  rw [run]
  split
  · exact Or.inl ⟨_, rfl⟩
  · next directory call _ =>
    refine Or.inr ⟨(start w directory call).1, _, _, _, ?_, rfl, rfl, rfl⟩
    show w.time ≤ (w.time + Machine.tick - 1) / Machine.tick * Machine.tick
    rw [Machine.tick]
    omega

/-- The time limit is only told of once the machine has come to its time. -/
theorem le_of_timeout_mem_events {s : Started} {m : Machine} {termAt killAt : Nat}
    (h : .timeout ∈ events s m termAt killAt) : termAt ≤ m.time := by
  have houtput : ∀ stream e, e ∈ outputOn stream m → e.2 ≠ .timeout := by
    intro stream e he
    obtain ⟨piece, -, rfl⟩ := List.mem_map.1 he
    exact nofun
  rw [events, List.mem_append, List.mem_singleton, or_iff_left nofun, List.mem_map] at h
  obtain ⟨e, he, htimeout⟩ := h
  rw [List.mem_mergeSort, List.mem_append, List.mem_append, List.mem_filter] at he
  rcases he with (⟨htimer, hdue⟩ | hout) | herr
  · rcases List.mem_cons.1 htimer with rfl | htimer
    · exact of_decide_eq_true hdue
    · rw [List.mem_singleton.1 htimer] at htimeout
      cases htimeout
  · exact absurd htimeout (houtput _ e hout)
  · exact absurd htimeout (houtput _ e herr)

theorem exists_machine_of_run (command : Text) (args : List Text) :
    ∃ machine, (run pace command args cwd timeoutMs w).2 = { w with toMachine := machine } := by
  rw [run]
  split
  · exact ⟨w.toMachine, rfl⟩
  · exact ⟨_, rfl⟩

/-- A command changes the machine, and nothing else. -/
theorem exists_machine_of_launcher :
    ∃ machine, (launcher pace argv cwd timeoutMs w).2 = { w with toMachine := machine } := by
  unfold launcher
  split
  · exact ⟨w.toMachine, rfl⟩
  · exact ⟨w.toMachine, rfl⟩
  · exact exists_machine_of_run pace cwd timeoutMs w _ _

theorem isConfined_launcher : (launcher pace).IsConfined where
  world argv cwd timeoutMs w := by
    obtain ⟨machine, hworld⟩ := exists_machine_of_launcher pace argv cwd timeoutMs w
    exact ⟨machine, w.clock, hworld, id⟩

theorem invocationIn_dress (directory : Place) (arguments : List Bytes) (name : Bytes) (e : Errno)
    (fronts : List Bytes) (log : List Entry) :
    invocationIn (w.dress w.environment log) directory arguments name e fronts
      = invocationIn w directory arguments name e fronts := by
  have hat : ∀ path, invocationAt (w.dress w.environment log) directory arguments path
      = invocationAt w directory arguments path := fun _ => rfl
  induction fronts generalizing e with
  | nil => rfl
  | cons front rest ih => rw [invocationIn, invocationIn, hat, ih, ih]

theorem invocation_dress (directory : Place) (command : Bytes) (args : List Bytes)
    (log : List Entry) : invocation (w.dress w.environment log) directory command args
      = invocation w directory command args := by
  rw [invocation, invocation, invocationIn_dress]
  rfl

theorem run_dress (command : Text) (args : List Text) (log : List Entry) :
    run pace command args cwd timeoutMs (w.dress w.environment log)
      = ((run pace command args cwd timeoutMs w).1,
        (run pace command args cwd timeoutMs w).2.dress w.environment log) := by
  have hdirectory : directoryAt (w.dress w.environment log) cwd = directoryAt w cwd := rfl
  rw [run, run, hdirectory]
  simp only [invocation_dress]
  split
  · rfl
  · rfl

/-- A command does the same whatever was recorded before it. -/
theorem ignores_launcher (given : List Bytes) : (launcher pace).Ignores given given := by
  intro argv cwd timeoutMs w w' hw
  obtain ⟨log, rfl⟩ := hw.dressed
  obtain rfl := hw.environment
  obtain ⟨machine, hworld⟩ := exists_machine_of_launcher pace argv cwd timeoutMs w
  have hdress : launcher pace argv cwd timeoutMs (w.dress w.environment log)
      = ((launcher pace argv cwd timeoutMs w).1,
        (launcher pace argv cwd timeoutMs w).2.dress w.environment log) := by
    unfold launcher
    split
    · rfl
    · rfl
    · rw [run_dress]
  rw [hdress]
  exact ⟨rfl, by rw [hworld], log, rfl⟩

end SurfaceGuard.Launch
