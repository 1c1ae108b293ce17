import SurfaceGuard.Process.Supervisor
import Mathlib.Data.List.TakeWhile
import Mathlib.Tactic

/-!
# What a supervised run comes to

Whatever happens to a command and in whatever order, the run is settled by the first event
that says that the command failed or has closed (`verdict`), and the signals that were sent
up to then are those that the two timers call for (`signalsDue`).  What happens later changes
neither (`run_of_settled`).

A run is taken apart at the event that settles it: before that event the state of the watch
can be read off the events (`watched`), and after it no timer is armed (`Settled`).
-/

namespace SurfaceGuard

open Supervisor

/-! ## What the events say -/

namespace ProcessEvent

/-- Does the event settle a run? -/
def settles : ProcessEvent → Bool
  | .failed _ => true
  | .closed _ => true
  | _ => false

/-- The bytes that arrive on a stream. -/
def chunk? (stream : OutputStream) : ProcessEvent → Option Bytes
  | .output s bytes => if s = stream then some bytes else none
  | _ => none

/-- The events before the first one that settles the run. -/
def early (events : List ProcessEvent) : List ProcessEvent := events.takeWhile fun e => !e.settles

/-- What arrived on a stream, decoded chunk by chunk. -/
def received (stream : OutputStream) (events : List ProcessEvent) : Text :=
  (events.filterMap (chunk? stream)).flatMap Utf8.decode

/-- The signals that some events call for: one to terminate at the time limit, and one to kill at
the end of the grace period after it. -/
def signalsDue (events : List ProcessEvent) : List Signal :=
  if [timeout, graceOver].Sublist events then [.terminate, .kill]
  else if timeout ∈ events then [.terminate]
  else []

/-- How a run with these events ends, if it does.  The first event that settles it decides: a
failure is reported as it is, and a command that has closed has exceeded its limit if that was
reached before, and otherwise returns its code and what it had written. -/
def verdict (timeoutMs : Number) (events : List ProcessEvent) : Option (Except Text ExecOutput) :=
  match events.find? settles with
  | some (.failed message) => some (.error message)
  | some (.closed code?) =>
    if timeout ∈ early events then
      some (.error ("Process exceeded " ++ limitText timeoutMs ++ " timeout"))
    else
      some (.ok ⟨code?.getD 1, received .stdout (early events), received .stderr (early events)⟩)
  | _ => none

variable {events : List ProcessEvent} {e : ProcessEvent}

theorem early_eq_self (h : ∀ e ∈ events, e.settles = false) : early events = events :=
  List.takeWhile_eq_self_iff.2 fun e he => by rw [h e he]; rfl

theorem early_append (h : ∀ e ∈ events, e.settles = false) (he : e.settles = true)
    (late : List ProcessEvent) : early (events ++ e :: late) = events := by
  rw [early, List.takeWhile_append_of_pos (fun e he => by rw [h e he]; rfl),
    List.takeWhile_cons_of_neg (by simp [he]), List.append_nil]

theorem find?_settles_append (h : ∀ e ∈ events, e.settles = false) (he : e.settles = true)
    (late : List ProcessEvent) : (events ++ e :: late).find? settles = some e := by
  have hnone : events.find? settles = none :=
    List.find?_eq_none.2 fun e he => by rw [h e he]; exact Bool.false_ne_true
  rw [List.find?_append, hnone, List.find?_cons_of_pos he]
  rfl

/-- No event settles the run, or there is a first one that does. -/
theorem settles_cases (events : List ProcessEvent) :
    (∀ e ∈ events, e.settles = false)
      ∨ ∃ before e late, events = before ++ e :: late ∧ (∀ e ∈ before, e.settles = false)
        ∧ e.settles = true := by
  induction events with
  | nil => exact Or.inl (List.forall_mem_nil _)
  | cons e events ih =>
    cases he : e.settles with
    | true => exact Or.inr ⟨[], e, events, rfl, List.forall_mem_nil _, he⟩
    | false =>
      rcases ih with hnone | ⟨before, e', late, rfl, hbefore, he'⟩
      · exact Or.inl (List.forall_mem_cons.2 ⟨he, hnone⟩)
      · exact Or.inr ⟨e :: before, e', late, rfl, List.forall_mem_cons.2 ⟨he, hbefore⟩, he'⟩

@[simp]
theorem received_concat (stream : OutputStream) (events : List ProcessEvent) (e : ProcessEvent) :
    received stream (events ++ [e])
      = received stream events ++ ((e.chunk? stream).map Utf8.decode).getD [] := by
  rw [received, List.filterMap_append, List.flatMap_append, received]
  cases h : e.chunk? stream <;> simp [h]

/-- The grace period is over after the time limit exactly if it just ended, or did before. -/
theorem sublist_concat_iff :
    [timeout, graceOver].Sublist (events ++ [e])
      ↔ [timeout, graceOver].Sublist events ∨ timeout ∈ events ∧ e = graceOver := by
  rw [← List.reverse_sublist, List.reverse_concat, List.sublist_cons_iff, List.reverse_cons,
    List.reverse_singleton, List.singleton_append]
  constructor
  · rintro (h | ⟨rest, hrest, h⟩)
    · exact Or.inl (List.reverse_sublist.1 h)
    · obtain ⟨rfl, rfl⟩ := List.cons.inj hrest
      exact Or.inr ⟨List.mem_reverse.1 (List.singleton_sublist.1 h), rfl⟩
  · rintro (h | ⟨h, rfl⟩)
    · exact Or.inl (List.reverse_sublist.2 h)
    · exact Or.inr ⟨_, rfl, List.singleton_sublist.2 (List.mem_reverse.2 h)⟩

theorem timeout_mem_of_sublist (h : [timeout, graceOver].Sublist events) : timeout ∈ events :=
  h.subset List.mem_cons_self

theorem signalsDue_prefix (events : List ProcessEvent) :
    signalsDue events <+: [.terminate, .kill] := by
  rw [signalsDue]
  split
  · exact List.prefix_rfl
  · split
    · exact ⟨[.kill], rfl⟩
    · exact List.nil_prefix

/-- Only the end of a timer calls for another signal, each for its own. -/
theorem signalsDue_concat (events : List ProcessEvent) (e : ProcessEvent) :
    signalsDue (events ++ [e]) = signalsDue events
      ∨ e = timeout ∧ signalsDue events = [] ∧ signalsDue (events ++ [e]) = [.terminate]
      ∨ e = graceOver ∧ signalsDue events = [.terminate]
        ∧ signalsDue (events ++ [e]) = [.terminate, .kill] := by
  simp only [signalsDue, sublist_concat_iff, List.mem_append, List.mem_singleton]
  by_cases hs : [timeout, graceOver].Sublist events
  · simp [hs]
  by_cases ht : timeout ∈ events <;> cases e <;> simp [hs, ht]

/-- The verdict is that of the first event that settles the run. -/
theorem verdict_append (h : ∀ e ∈ events, e.settles = false) (he : e.settles = true)
    (late : List ProcessEvent) (timeoutMs : Number) :
    verdict timeoutMs (events ++ e :: late) = verdict timeoutMs (events ++ [e]) := by
  simp only [verdict, find?_settles_append h he, early_append h he]

end ProcessEvent

open ProcessEvent

namespace Supervisor

variable {hasProcess : Bool} {s : Supervisor} {events : List ProcessEvent} {e : ProcessEvent}

/-! ## Before the run is settled -/

/-- The watch over a command after some events, none of which settled the run. -/
def watched (hasProcess : Bool) (events : List ProcessEvent) : Supervisor :=
  { hasProcess
    stdout := received .stdout events
    stderr := received .stderr events
    limit := if timeout ∈ events then .fired else .armed
    grace := if [timeout, graceOver].Sublist events then .fired
      else if timeout ∈ events then .armed else .unset
    signals := if hasProcess then signalsDue events else []
    ending? := none }

theorem watched_nil (hasProcess : Bool) : watched hasProcess [] = start hasProcess := by
  cases hasProcess <;> rfl

theorem step_watched (hasProcess : Bool) (events : List ProcessEvent) (he : e.settles = false) :
    (watched hasProcess events).step e = watched hasProcess (events ++ [e]) := by
  have hsub := @timeout_mem_of_sublist events
  cases e with
  | failed message => cases he
  | closed code? => cases he
  | output stream bytes =>
    cases stream <;> simp [watched, Supervisor.step, chunk?, sublist_concat_iff, signalsDue]
  | timeout =>
    by_cases ht : timeout ∈ events
    · simp [watched, Supervisor.step, chunk?, sublist_concat_iff, signalsDue, ht]
    · have hnot : ¬[timeout, graceOver].Sublist events := fun h => ht (hsub h)
      cases hasProcess <;>
        simp [watched, Supervisor.step, send, chunk?, sublist_concat_iff, signalsDue, ht, hnot]
  | graceOver =>
    by_cases hs : [timeout, graceOver].Sublist events
    · have ht : timeout ∈ events := hsub hs
      simp [watched, Supervisor.step, chunk?, signalsDue, hs, ht]
    · by_cases ht : timeout ∈ events <;> cases hasProcess <;>
        simp [watched, Supervisor.step, send, chunk?, sublist_concat_iff, signalsDue, hs, ht]

/-- The watch after events of which none settled the run can be read off these events. -/
theorem run_eq_watched (hasProcess : Bool) (h : ∀ e ∈ events, e.settles = false) :
    (start hasProcess).run events = watched hasProcess events := by
  -- from the back, since the last event is the one that meets the state of the others
  induction events using List.reverseRecOn with
  | nil => exact (watched_nil hasProcess).symm
  | append_singleton events e ih =>
    have hbefore := ih fun e he => h e (List.mem_append_left _ he)
    rw [run] at hbefore ⊢
    rw [List.foldl_append, hbefore]
    exact step_watched hasProcess events (h e (by simp))

/-! ## After the run was settled -/

/-- The run is settled, and no timer waits any more. -/
structure Settled (s : Supervisor) : Prop where
  ending : s.ending?.isSome = true
  limit : s.limit ≠ .armed
  grace : s.grace ≠ .armed

theorem clear_ne_armed (timer : TimerState) : timer.clear ≠ .armed := by
  cases timer <;> decide

theorem settle_of_none (h : s.ending? = none) (ending : Ending) :
    s.settle ending
      = { s with ending? := some ending, limit := s.limit.clear, grace := s.grace.clear } := by
  rw [settle, h]

theorem settle_of_settled (h : s.Settled) (ending : Ending) : s.settle ending = s := by
  obtain ⟨e, he⟩ := Option.isSome_iff_exists.1 h.ending
  rw [settle, he]

/-- An event after the end changes nothing but what was received. -/
theorem step_of_settled (h : s.Settled) (e : ProcessEvent) :
    (s.step e).Settled ∧ (s.step e).ending? = s.ending? ∧ (s.step e).signals = s.signals := by
  have hsame : s.step e = s → (s.step e).Settled ∧ (s.step e).ending? = s.ending?
      ∧ (s.step e).signals = s.signals := fun heq => by rw [heq]; exact ⟨h, rfl, rfl⟩
  cases e with
  | output stream bytes => cases stream <;> exact ⟨⟨h.ending, h.limit, h.grace⟩, rfl, rfl⟩
  | timeout => exact hsame (if_neg h.limit)
  | graceOver => exact hsame (if_neg h.grace)
  | failed message => exact hsame (settle_of_settled h _)
  | closed code? => exact hsame (settle_of_settled h _)

/-- Once the run is settled, whatever happens does not change how it ended, and no signal is
sent. -/
theorem run_of_settled (h : s.Settled) (events : List ProcessEvent) :
    (s.run events).Settled ∧ (s.run events).ending? = s.ending?
      ∧ (s.run events).signals = s.signals := by
  induction events generalizing s with
  | nil => exact ⟨h, rfl, rfl⟩
  | cons e events ih =>
    obtain ⟨hstep, hending, hsignals⟩ := step_of_settled h e
    obtain ⟨hrun, hending', hsignals'⟩ := ih hstep
    exact ⟨hrun, hending'.trans hending, hsignals'.trans hsignals⟩

/-! ## Whole runs -/

/-- The event that settles a run decides how it ends. -/
theorem settle_watched (hasProcess : Bool) (h : ∀ e ∈ events, e.settles = false)
    (he : e.settles = true) (timeoutMs : Number) :
    let s := watched hasProcess events
    (s.step e).Settled ∧ (s.step e).signals = s.signals
      ∧ (s.step e).ending?.map (·.result timeoutMs) = verdict timeoutMs (events ++ [e]) := by
  intro s
  have hends : ∀ ending, (s.settle ending).Settled ∧ (s.settle ending).signals = s.signals
      ∧ (s.settle ending).ending? = some ending := by
    intro ending
    rw [settle_of_none rfl]
    exact ⟨⟨rfl, clear_ne_armed _, clear_ne_armed _⟩, rfl, rfl⟩
  rw [verdict, find?_settles_append h he, early_append h he]
  cases e with
  | output stream bytes => cases he
  | timeout => cases he
  | graceOver => cases he
  | failed message =>
    obtain ⟨hsettled, hsignals, hending⟩ := hends (.failed message)
    exact ⟨hsettled, hsignals, by rw [Supervisor.step, hending]; rfl⟩
  | closed code? =>
    obtain ⟨hsettled, hsignals, hending⟩ := hends (s.endingOf code?)
    refine ⟨hsettled, hsignals, ?_⟩
    -- the limit has fired exactly if its event is among those before
    rw [Supervisor.step, hending, Option.map_some, endingOf]
    by_cases ht : timeout ∈ events
    · simp only [s, watched, if_pos ht]
      rfl
    · simp only [s, watched, if_neg ht]
      rfl

/-- What a run comes to, by whether it is settled. -/
theorem run_cases (hasProcess : Bool) (timeoutMs : Number) (events : List ProcessEvent) :
    let s := (start hasProcess).run events
    s.ending?.map (·.result timeoutMs) = verdict timeoutMs events
      ∧ s.signals = (if hasProcess then signalsDue (early events) else [])
      ∧ (s.Settled ∨ (∀ e ∈ events, e.settles = false) ∧ s = watched hasProcess events) := by
  intro s
  rcases settles_cases events with hnone | ⟨before, e, late, rfl, hbefore, he⟩
  · have hwatched : s = watched hasProcess events := run_eq_watched hasProcess hnone
    have hfind : events.find? settles = none :=
      List.find?_eq_none.2 fun e he => by rw [hnone e he]; exact Bool.false_ne_true
    refine ⟨?_, ?_, Or.inr ⟨hnone, hwatched⟩⟩
    · rw [hwatched, verdict, hfind]
      rfl
    · rw [hwatched, early_eq_self hnone]
      rfl
  · obtain ⟨hsettled, hsignals, hending⟩ := settle_watched hasProcess hbefore he timeoutMs
    obtain ⟨hlate, hending', hsignals'⟩ := run_of_settled hsettled late
    have hrun : s = ((watched hasProcess before).step e).run late := by
      rw [← run_eq_watched hasProcess hbefore]
      simp only [s, run, List.foldl_append, List.foldl_cons]
    rw [hrun]
    refine ⟨?_, ?_, Or.inl hlate⟩
    · rw [hending', hending, verdict_append hbefore he late]
    · rw [hsignals', hsignals, early_append hbefore he]
      rfl

/-- A signal is only sent when a timer ends that was waiting. -/
theorem signals_step_watched (hasProcess : Bool) (events : List ProcessEvent)
    (he : e.settles = false) :
    let s := watched hasProcess events
    (s.step e).signals = s.signals
      ∨ e = .timeout ∧ s.limit = .armed ∧ s.signals = [] ∧ (s.step e).signals = [.terminate]
      ∨ e = .graceOver ∧ s.grace = .armed ∧ s.signals = [.terminate]
        ∧ (s.step e).signals = [.terminate, .kill] := by
  intro s
  rw [step_watched hasProcess events he]
  cases hasProcess with
  | false => exact Or.inl rfl
  | true =>
    rcases signalsDue_concat events e with hsame | ⟨rfl, hnone, hone⟩ | ⟨rfl, hone, htwo⟩
    · exact Or.inl hsame
    -- no signal yet means that the limit still waits, and one that the grace period does
    · have ht : timeout ∉ events := by
        intro ht
        rw [signalsDue] at hnone
        split at hnone <;> simp_all
      exact Or.inr (Or.inl ⟨rfl, if_neg ht, hnone, hone⟩)
    · have ht : timeout ∈ events ∧ ¬[timeout, graceOver].Sublist events := by
        rw [signalsDue] at hone
        split at hone
        · cases hone
        · split at hone
          · exact ⟨‹_›, ‹_›⟩
          · cases hone
      have harmed : s.grace = .armed := (if_neg ht.2).trans (if_pos ht.1)
      exact Or.inr (Or.inr ⟨rfl, harmed, hone, htwo⟩)

/-- Whatever happens and in whatever order, a run ends as its first failure or closing says and is
not changed by what comes later.  The signals that are sent are those that the time limit and the
end of the grace period after it call for before that, and none if there is no process; each of
them is sent when a timer ends that was waiting, and none waits once the run is settled. -/
theorem run_settles_once (hasProcess : Bool) (timeoutMs : Number) (events : List ProcessEvent) :
    let s := (start hasProcess).run events
    s.ending?.map (·.result timeoutMs) = verdict timeoutMs events
      ∧ s.signals = (if hasProcess then signalsDue (early events) else [])
      ∧ s.signals <+: [.terminate, .kill]
      ∧ (∀ e, (s.step e).signals = s.signals
        ∨ e = .timeout ∧ s.limit = .armed ∧ s.signals = [] ∧ (s.step e).signals = [.terminate]
        ∨ e = .graceOver ∧ s.grace = .armed ∧ s.signals = [.terminate]
          ∧ (s.step e).signals = [.terminate, .kill])
      ∧ (s.ending?.isSome = true → s.limit ≠ .armed ∧ s.grace ≠ .armed
        ∧ ∀ more, (s.run more).ending? = s.ending? ∧ (s.run more).signals = s.signals) := by
  intro s
  obtain ⟨hending, hsignals, hs⟩ := run_cases hasProcess timeoutMs events
  change s.Settled ∨ (∀ e ∈ events, e.settles = false) ∧ s = watched hasProcess events at hs
  refine ⟨hending, hsignals, ?_, fun e => ?_, fun hsome => ?_⟩
  · rw [hsignals]
    split
    · exact signalsDue_prefix _
    · exact List.nil_prefix
  · rcases hs with hsettled | ⟨hnone, hwatched⟩
    · exact Or.inl (step_of_settled hsettled e).2.2
    · rw [hwatched]
      cases he : e.settles with
      | false => exact signals_step_watched hasProcess events he
      | true => exact Or.inl (settle_watched hasProcess hnone he timeoutMs).2.1
  · rcases hs with hsettled | ⟨-, hwatched⟩
    · exact ⟨hsettled.limit, hsettled.grace, fun more => (run_of_settled hsettled more).2⟩
    · rw [hwatched] at hsome
      cases hsome

end Supervisor

end SurfaceGuard
