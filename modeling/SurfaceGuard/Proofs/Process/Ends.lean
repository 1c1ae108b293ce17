import SurfaceGuard.Proofs.Process.Launch
import SurfaceGuard.Proofs.Process.Supervision

/-!
# Commands that come to a good end

A command comes to a good end if it closes with the code 0 within its time (`EndsWell`).  Of a
command that is launched on the machine this can be read off its history, which is what the
supervisor is told of it (`Launch.endsWell_iff`).
-/

namespace SurfaceGuard

open ProcessEvent

/-- The command has closed with the code 0, within its time. -/
def EndsWell (end_ : Except Text ExecOutput) : Prop :=
  ∃ output, end_ = .ok output ∧ output.exitCode = 0

/-- A verdict is good if the command has closed with the code 0, and the time limit was not reached
before. -/
theorem ProcessEvent.exists_verdict_endsWell_iff (limit : Number) (events : List ProcessEvent) :
    (∃ end_, verdict limit events = some end_ ∧ EndsWell end_)
      ↔ events.find? settles = some (.closed (some 0)) ∧ timeout ∉ early events := by
  rw [verdict]
  split
  · next message hfind =>
    rw [hfind]
    constructor
    · rintro ⟨_, ⟨⟩, _, ⟨⟩, -⟩
    · rintro ⟨⟨⟩, -⟩
  · next code? hfind =>
    rw [hfind]
    split
    · next htimeout =>
      refine iff_of_false ?_ fun hgood => hgood.2 htimeout
      rintro ⟨_, ⟨⟩, _, ⟨⟩, -⟩
    · next htimeout =>
      rw [and_iff_left htimeout]
      constructor
      · rintro ⟨_, ⟨⟩, output, ⟨⟩, hcode⟩
        cases code? with
        | none => cases hcode
        | some code => rw [show code = 0 from hcode]
      · rintro ⟨⟩
        exact ⟨_, rfl, _, rfl, rfl⟩
  · next hfind =>
    refine iff_of_false ?_ fun hgood => hfind _ hgood.1
    rintro ⟨_, ⟨⟩, -⟩

namespace Launch

/-- What the supervisor is told of a command, if that can be started. -/
def history (pace : Nat) (command : Text) (args : List Text) (cwd : Text) (limit : Number)
    (w : World) : Except Errno (List ProcessEvent) := do
  let directory ← directoryAt w cwd
  let call ← invocation w directory (Utf8.encode command) (args.map Utf8.encode)
  let (s, m) := start w directory call
  let termAt := s.time + max 1000 (timerDelay limit * 1000 / pace)
  let killAt := termAt + gracePeriod * 1000 / pace
  let m := m.runUntil Programs.Installation.load (hasClosed s) fuel
    [⟨termAt, s.process, .terminate⟩, ⟨killAt, s.process, .kill⟩]
  return events s m termAt killAt

variable (pace : Nat) (argv : List Text) (cwd : Text) (limit : Number) (w : World)

/-- A command that is run ends as its history says. -/
theorem run_eq_history (command : Text) (args : List Text) :
    (run pace command args cwd limit w).1 = match history pace command args cwd limit w with
      | .error e => refuse (spawnError command e)
      | .ok events => ((Supervisor.start true).run events).ending?.getD (.failed []) := by
  rw [run, history]
  cases directoryAt w cwd with
  | error e => rfl
  | ok directory =>
    cases hcall : invocation w directory (Utf8.encode command) (args.map Utf8.encode) with
    | error e => simp only [bind, Except.bind, hcall]
    | ok call => simp only [bind, Except.bind, hcall, pure, Except.pure]

/-- The command may be called and can be started, and it closes with the code 0 before the time
limit is reached. -/
def ClosesWell : Prop :=
  refusal? argv cwd = none ∧ ∃ command args events, argv = command :: args
    ∧ history pace command args cwd limit w = .ok events
    ∧ events.find? settles = some (.closed (some 0)) ∧ timeout ∉ early events

variable {pace cwd limit w} in
/-- A command with a history closes well exactly if that says so. -/
theorem closesWell_iff {command : Text} {args : List Text} {events : List ProcessEvent}
    (hrefusal : refusal? (command :: args) cwd = none)
    (hhistory : history pace command args cwd limit w = .ok events) :
    ClosesWell pace (command :: args) cwd limit w
      ↔ events.find? settles = some (.closed (some 0)) ∧ timeout ∉ early events := by
  constructor
  · rintro ⟨-, _, _, events', ⟨⟩, hevents, h⟩
    rw [hhistory] at hevents
    cases hevents
    exact h
  · exact fun h => ⟨hrefusal, command, args, events, rfl, hhistory, h⟩

/-- A run that is not settled counts as one that failed. -/
theorem endsWell_getD_iff (ending? : Option Ending) :
    EndsWell ((ending?.getD (.failed [])).result limit)
      ↔ ∃ end_, ending?.map (·.result limit) = some end_ ∧ EndsWell end_ := by
  cases ending? with
  | none =>
    constructor
    · rintro ⟨_, ⟨⟩, -⟩
    · rintro ⟨_, ⟨⟩, -⟩
  | some ending =>
    constructor
    · exact fun h => ⟨_, rfl, h⟩
    · rintro ⟨_, ⟨⟩, h⟩
      exact h

/-- A launched command comes to a good end exactly if it closes well. -/
theorem endsWell_iff :
    EndsWell (launcher pace argv cwd limit w).1 ↔ ClosesWell pace argv cwd limit w := by
  unfold launcher
  split
  · next message hrefusal =>
    constructor
    · rintro ⟨_, ⟨⟩, -⟩
    · rintro ⟨hnone, -⟩
      cases hrefusal.symm.trans hnone
  · constructor
    · rintro ⟨_, ⟨⟩, -⟩
    · rintro ⟨-, _, _, _, ⟨⟩, -⟩
  · next command args hrefusal =>
    change EndsWell ((run pace command args cwd limit w).1.result limit) ↔ _
    rw [run_eq_history]
    cases hhistory : history pace command args cwd limit w with
    | error e =>
      constructor
      · rintro ⟨_, ⟨⟩, -⟩
      · rintro ⟨-, _, _, events, ⟨⟩, hevents, -⟩
        cases hhistory.symm.trans hevents
    | ok events =>
      rw [closesWell_iff hrefusal hhistory, ← exists_verdict_endsWell_iff limit events,
        ← (Supervisor.run_cases true limit events).1]
      exact endsWell_getD_iff limit _

end Launch

end SurfaceGuard
