import SurfaceGuard.Proofs.Config
import SurfaceGuard.Proofs.Host.Location
import SurfaceGuard.Proofs.Number.Whole
import SurfaceGuard.Proofs.Process.Launch
import SurfaceGuard.Proofs.Process.Supervision

/-!
# The time that a command has

A configuration may give a command any positive whole number of milliseconds
(`Config.exportTimeoutMs_of_parse`).  A timer can only wait for `longestDelay` of them: it takes a
longer delay as one millisecond (`timerDelay_of_is`).  So a command that closes in its time is left
alone for the limits up to that one, and for no other (`Export.spared_iff`).
-/

namespace SurfaceGuard

open ProcessEvent

variable {hasProcess : Bool} {events : List ProcessEvent} {limit : Number}

/-! ## Runs that exceed their limit -/

theorem ProcessEvent.mem_of_mem_early {before after : List ProcessEvent} {c e : ProcessEvent}
    (hc : c.settles = true) (he : e ∈ early (before ++ c :: after)) : e ∈ before := by
  induction before with
  | nil => simp [early, hc] at he
  | cons b before ih =>
    rw [early, List.cons_append, List.takeWhile_cons] at he
    split at he
    · rcases List.mem_cons.1 he with rfl | he
      · exact List.mem_cons_self
      · exact List.mem_cons_of_mem b (ih he)
    · cases he

/-- A run that has exceeded its limit has reached it before it was settled. -/
theorem Supervisor.timeout_mem_of_exceeded
    (h : ((start hasProcess).run events).ending? = some .exceeded) : timeout ∈ early events := by
  rcases settles_cases events with hnone | ⟨before, e, late, rfl, hbefore, he⟩
  · rw [run_eq_watched hasProcess hnone] at h
    cases h
  · have hsettled := (settle_watched hasProcess hbefore he (.zero false)).1
    have hrun : (start hasProcess).run (before ++ e :: late)
        = ((watched hasProcess before).step e).run late := by
      rw [← run_eq_watched hasProcess hbefore]
      simp only [run, List.foldl_append, List.foldl_cons]
    rw [hrun, (run_of_settled hsettled late).2.1] at h
    rw [early_append hbefore he]
    cases e with
    | output stream bytes => cases he
    | timeout => cases he
    | graceOver => cases he
    | failed message =>
      rw [Supervisor.step, settle_of_none rfl] at h
      cases h
    | closed code? =>
      by_contra hnot
      rw [Supervisor.step, settle_of_none rfl, endingOf, watched, if_neg hnot] at h
      cases h

/-- Nothing was done to the command, and it is not said to have exceeded its limit. -/
def ProcessEvent.AreSparing (events : List ProcessEvent) : Prop :=
  ∀ hasProcess, ((Supervisor.start hasProcess).run events).signals = []
    ∧ ((Supervisor.start hasProcess).run events).ending? ≠ some .exceeded

theorem ProcessEvent.areSparing_of_not_mem (h : timeout ∉ early events) : AreSparing events := by
  intro hasProcess
  refine ⟨?_, fun hexceeded => h (Supervisor.timeout_mem_of_exceeded hexceeded)⟩
  have hdue : signalsDue (early events) = [] := by
    rw [signalsDue, if_neg fun hsub => h (timeout_mem_of_sublist hsub), if_neg h]
  rw [(Supervisor.run_cases hasProcess (.zero false) events).2.1, hdue]
  exact ite_self _

/-! ## Timers -/

/-- A timer waits for a limit up to the longest one, and one millisecond for the others. -/
theorem timerDelay_of_is {n : Nat} (h : limit.Is n) (hn : 0 < n) :
    timerDelay limit = if n ≤ longestDelay then n else 1 := by
  have hone : limit.ltNat 1 = false := by
    rw [← Bool.not_eq_true, h.ltNat_iff]
    omega
  by_cases hle : n ≤ longestDelay
  · have hlong : limit.ltNat (longestDelay + 1) = true := h.ltNat_iff.2 (Nat.lt_succ_of_le hle)
    rw [timerDelay, hone, hlong, if_pos hle, h.toInt_eq]
    rfl
  · have hlong : limit.ltNat (longestDelay + 1) = false := by
      rw [← Bool.not_eq_true, h.ltNat_iff]
      omega
    rw [timerDelay, hone, hlong, if_neg hle]
    rfl

/-- Events with the times at which they happen, in milliseconds from the start.  The two timers do
not end before they should: the limit not before it has been waited for, and the grace period not
before it has been waited for since the limit. -/
structure IsTimed (limit : Number) (timed : List (ℚ × ProcessEvent)) : Prop where
  start : ∀ e ∈ timed, 0 ≤ e.1
  sorted : timed.Pairwise fun a b => a.1 ≤ b.1
  limit : ∀ t, (t, timeout) ∈ timed → timerDelay limit ≤ t
  grace : ∀ t, (t, graceOver) ∈ timed → ∃ t', (t', timeout) ∈ timed ∧ t' + gracePeriod ≤ t

/-- A command that closes before the timer ends is spared. -/
theorem IsTimed.areSparing {timed : List (ℚ × ProcessEvent)} (h : IsTimed limit timed) {t : ℚ}
    {code? : Option Nat} (hclosed : (t, closed code?) ∈ timed) (ht : t < timerDelay limit) :
    AreSparing (timed.map Prod.snd) := by
  refine areSparing_of_not_mem fun hearly => ?_
  obtain ⟨before, after, rfl⟩ := List.append_of_mem hclosed
  rw [List.map_append, List.map_cons] at hearly
  obtain ⟨⟨t', _⟩, hmem, rfl⟩ := List.mem_map.1 (mem_of_mem_early rfl hearly)
  have hle : t' ≤ t := (List.pairwise_append.1 h.sorted).2.2 _ hmem _ List.mem_cons_self
  have hlimit := h.limit t' (List.mem_append_left _ hmem)
  exact absurd (ht.trans_le hlimit) (not_lt.2 hle)

/-! ## Configured limits -/

/-- The configured time is a positive whole number of milliseconds. -/
theorem Config.exportTimeoutMs_of_parse {text source cwd : Text} {c : Config}
    (h : parse text source cwd = .ok c) : ∃ n, 0 < n ∧ c.exportTimeoutMs.Is n := by
  obtain ⟨json, read, -, hread, rfl⟩ := parse_eq_ok_iff.1 h
  obtain ⟨o, -, -, -, -, -, -, -, -, hlimit⟩ := shape_eq_valid_iff.1 hread
  refine Number.isWhole_and_isPositive_iff.1 ?_
  rcases Shape.withDefault_eq_valid_iff.1 hlimit with ⟨-, hdefault⟩ | ⟨-, hvalid⟩
  · rw [resolved, ← hdefault]
    decide +kernel
  · exact (Shape.positiveWhole_eq_valid_iff.1 hvalid).2

/-! ## Launched commands -/

/-- A command that has ended before the timer is not said to have exceeded its limit. -/
theorem Launch.not_exceeded_of_time {command : Text} {args : List Text} {cwd : Text} {w : World}
    (h : (run 1 command args cwd limit w).2.time < w.time + timerDelay limit * 1000) :
    (run 1 command args cwd limit w).1 ≠ .exceeded := by
  rcases run_cases 1 cwd limit w command args with
    ⟨message, hrun⟩ | ⟨s, m, termAt, killAt, hstart, hterm, -, hrun⟩
  · rw [hrun]
    exact nofun
  · rw [hrun] at h ⊢
    intro hexceeded
    have hearly := Supervisor.timeout_mem_of_exceeded
      ((Option.getD_eq_iff.1 hexceeded).resolve_right fun hnone => nomatch hnone.2)
    have hreached := le_of_timeout_mem_events (List.takeWhile_subset _ hearly)
    have htime : m.time < w.time + timerDelay limit * 1000 := h
    omega

/-- A configured limit is a positive number of milliseconds.  Every command that closes in less time
is spared if and only if a timer can wait for the limit; and then no command that ends in less time
is said by the launcher to have exceeded it. -/
theorem Export.spared_iff {text source cwd : Text} {c : Config}
    (h : Config.parse text source cwd = .ok c) (dir : Text) :
    let limit := (Settings.ofConfig c dir).timeoutMs
    ∃ n, 0 < n ∧ limit.Is n
      ∧ ((∀ timed, IsTimed limit timed → (∃ t < (n : ℚ), ∃ code?, (t, closed code?) ∈ timed) →
          AreSparing (timed.map Prod.snd)) ↔ n ≤ longestDelay)
      ∧ (n ≤ longestDelay → ∀ command args w,
        (Launch.run 1 command args dir limit w).2.time < w.time + n * 1000 →
          (Launch.run 1 command args dir limit w).1 ≠ .exceeded) := by
  intro limit
  obtain ⟨n, hn, hlimit⟩ := Config.exportTimeoutMs_of_parse h
  change limit.Is n at hlimit
  have hdelay := timerDelay_of_is hlimit hn
  refine ⟨n, hn, hlimit, ⟨fun hspared => ?_, fun hle => ?_⟩, fun hle command args w htime => ?_⟩
  · -- the timer ends after a millisecond, and the command only closes after the next one
    by_contra hlong
    rw [if_neg hlong] at hdelay
    have htwo : (2 : ℚ) < n := by
      have : 2 < n := lt_trans (by decide) (not_le.1 hlong)
      exact_mod_cast this
    have htimed : IsTimed limit [(1, timeout), (2, closed (some 0))] := by
      refine ⟨by simp, by simp, fun t ht => ?_, by simp⟩
      obtain rfl : t = 1 := by simpa using ht
      rw [hdelay, Nat.cast_one]
    have hnone := (hspared _ htimed ⟨2, htwo, some 0, by simp⟩ true).1
    cases hnone
  · rw [if_pos hle] at hdelay
    rintro timed htimed ⟨t, ht, code?, hclosed⟩
    exact htimed.areSparing hclosed (by rwa [hdelay])
  · rw [if_pos hle] at hdelay
    exact Launch.not_exceeded_of_time (by rwa [hdelay])

/-- A configuration file with the given rest. -/
def Config.guarding (rest : Text) : Text := "\x7b\"targets\": [\"A\"]" ++ rest ++ "\x7d"

/-- A command that closes one millisecond before the default limit is spared. -/
theorem Export.spared_by_default :
    let timed : List (ℚ × ProcessEvent) := [(599999, closed (some 0)), (600000, timeout)]
    ∃ c, Config.parse (Config.guarding []) "c.json" "/" = .ok c
      ∧ IsTimed c.exportTimeoutMs timed ∧ AreSparing (timed.map Prod.snd) := by
  intro timed
  let c : Config := ⟨["A"], .semver, "/api-baseline", "/.build/apiguard", false,
    Config.defaultCommand, "/.build/symbol-graphs", Number.ofNat 600000⟩
  have hparse : Config.parse (Config.guarding []) "c.json" "/" = .ok c :=
    eq_ok_of_toOption (by decide +kernel)
  have hvalue : c.exportTimeoutMs.toInt = (600000 : Nat) := by decide +kernel
  clear_value c
  obtain ⟨n, hn, hlimit, hspared, -⟩ := Export.spared_iff hparse "/"
  obtain rfl : n = 600000 := Int.ofNat_inj.1 (hlimit.toInt_eq.symm.trans hvalue)
  have hdelay : timerDelay c.exportTimeoutMs = 600000 := timerDelay_of_is hlimit hn
  have htimed : IsTimed c.exportTimeoutMs timed := by
    refine ⟨by simp [timed], by norm_num [timed], fun t ht => ?_, by simp [timed]⟩
    obtain rfl : t = 600000 := by simpa [timed] using ht
    rw [hdelay]
    norm_num
  refine ⟨c, hparse, htimed, hspared.2 (by decide) timed htimed ?_⟩
  exact ⟨599999, by norm_num, some 0, by simp [timed]⟩

/-- A command that closes two milliseconds after its start was terminated a millisecond before,
since its limit is one millisecond longer than a timer can wait. -/
theorem Export.terminated_at_once :
    let timed : List (ℚ × ProcessEvent) := [(1, timeout), (2, closed (some 0))]
    let s := (Supervisor.start true).run (timed.map Prod.snd)
    ∃ c, Config.parse (Config.guarding ", \"exportTimeoutMs\": 2147483648") "c.json" "/" = .ok c
      ∧ c.exportTimeoutMs.Is 2147483648 ∧ IsTimed c.exportTimeoutMs timed
      ∧ s.signals = [.terminate] ∧ s.ending? = some .exceeded := by
  intro timed s
  let c : Config := ⟨["A"], .semver, "/api-baseline", "/.build/apiguard", false,
    Config.defaultCommand, "/.build/symbol-graphs", Number.ofNat 2147483648⟩
  have hparse : Config.parse (Config.guarding ", \"exportTimeoutMs\": 2147483648") "c.json" "/"
      = .ok c := eq_ok_of_toOption (by decide +kernel)
  have hvalue : c.exportTimeoutMs.toInt = (2147483648 : Nat) := by decide +kernel
  clear_value c
  obtain ⟨n, hn, hlimit⟩ := Config.exportTimeoutMs_of_parse hparse
  obtain rfl : n = 2147483648 := Int.ofNat_inj.1 (hlimit.toInt_eq.symm.trans hvalue)
  have hdelay : timerDelay c.exportTimeoutMs = 1 := timerDelay_of_is hlimit hn
  refine ⟨c, hparse, hlimit, ⟨by simp [timed], by simp [timed], fun t ht => ?_, by simp [timed]⟩,
    rfl, rfl⟩
  obtain rfl : t = 1 := by simpa [timed] using ht
  rw [hdelay, Nat.cast_one]

end SurfaceGuard
