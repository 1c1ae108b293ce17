import SurfaceGuard.Export
import SurfaceGuard.Proofs.Process.Launch
import SurfaceGuard.Proofs.Process.Supervision
import SurfaceGuard.Proofs.Text.Chunks

/-!
# What is captured of a command

The output of a command arrives in chunks, and each of them is decoded by itself
(`Supervisor.on_of_exited`).  How the bytes of a stream are cut into chunks is a matter of timing,
and it shows in the captured text as soon as a border cuts a character
(`captured_by_chunks`).  Otherwise what is captured is the text of all the bytes, and so is what an
export reports of a command that fails (`captured_text`).
-/

namespace SurfaceGuard

open ProcessEvent Supervisor

/-- What a command has written to a stream. -/
def ExecOutput.on (output : ExecOutput) : OutputStream → Text
  | .stdout => output.stdout
  | .stderr => output.stderr

namespace ProcessEvent

/-- The chunks in which the bytes of a stream arrive before the run is settled. -/
def chunks (stream : OutputStream) (events : List ProcessEvent) : List Bytes :=
  (early events).filterMap (chunk? stream)

/-- All the bytes that arrive on a stream before the run is settled. -/
def bytesOn (stream : OutputStream) (events : List ProcessEvent) : Bytes :=
  (chunks stream events).flatten

end ProcessEvent

variable {hasProcess : Bool} {events : List ProcessEvent} {output : ExecOutput}

/-! ## Captured text -/

/-- A command that ends with an output has closed, and each stream was decoded chunk by chunk. -/
theorem Supervisor.on_of_exited
    (h : ((start hasProcess).run events).ending? = some (.exited output)) (stream : OutputStream) :
    output.on stream = (chunks stream events).flatMap Utf8.decode := by
  obtain ⟨hverdict, -⟩ := run_cases hasProcess (.zero false) events
  rw [h, Option.map_some, Ending.result, verdict] at hverdict
  split at hverdict
  · cases hverdict
  · split at hverdict
    · cases hverdict
    · cases hverdict
      cases stream <;> rfl
  · cases hverdict

/-- What the launcher returns was captured in a run of the supervisor. -/
theorem Launch.exists_events {pace : Nat} {argv : List Text} {cwd : Text} {limit : Number}
    {w w' : World} (h : launcher pace argv cwd limit w = (.ok output, w')) :
    ∃ events, ((Supervisor.start true).run events).ending? = some (Ending.exited output) := by
  have hresult : ∀ ending : Ending, ending.result limit = .ok output → ending = .exited output := by
    intro ending hending
    cases ending with
    | exited o =>
      cases hending
      rfl
    | exceeded => cases hending
    | failed message => cases hending
  unfold launcher at h
  split at h
  · cases h
  · cases h
  · next command args _ =>
    rcases run_cases pace cwd limit w command args with
      ⟨message, hrun⟩ | ⟨s, m, termAt, killAt, -, -, -, hrun⟩
    · rw [hrun] at h
      cases h
    · rw [hrun] at h
      -- the run has ended, so what it would be taken to be otherwise does not matter
      exact ⟨_, (Option.getD_eq_iff.1 (hresult _ (Prod.mk.inj h).1)).resolve_right
        fun hnone => nomatch hnone.2⟩

/-- An export whose command fails reports all that was captured. -/
theorem Export.runCommand_of_exit {launch : Launcher} {settings : Settings} {target : Text}
    {w w' : World}
    (h : launch settings.command settings.cwd settings.timeoutMs w = (.ok output, w'))
    (hcode : output.exitCode ≠ 0) :
    runCommand launch settings target w
      = (.error (.guard (.exportUnavailable target
          (settings.command.headD [] ++ " exited with code " ++ Text.ofNat output.exitCode)
          (Text.trim (output.on .stdout ++ output.on .stderr)))), w') := by
  have hlaunched : Task.launched launch settings.command settings.cwd settings.timeoutMs w
      = (.ok output, w') := by
    rw [Task.launched, h]
  refine (Task.bind_of_ok (Task.outcome_eq hlaunched)).trans ?_
  simp only [if_neg hcode]
  rfl

/-- A run in which a stream brings two chunks and the command closes. -/
def twoChunks (stream : OutputStream) (a b : Bytes) : List ProcessEvent :=
  [.output stream a, .output stream b, .closed (some 0)]

theorem chunks_twoChunks (stream : OutputStream) (a b : Bytes) :
    chunks stream (twoChunks stream a b) = [a, b] := by
  cases stream <;> rfl

theorem exists_exited_twoChunks (hasProcess : Bool) (stream : OutputStream) (a b : Bytes) :
    ∃ output, ((start hasProcess).run (twoChunks stream a b)).ending? = some (.exited output) := by
  cases stream <;> exact ⟨_, rfl⟩

/-- What is captured of a stream is the text of all its bytes if and only if no border between two
of its chunks cuts a character.  If that holds of both streams, an export whose command fails
reports the text of all that was written, however it was cut.  Bytes give the same text in every
run in which they arrive if and only if no border in them would cut a character.  The launcher
captures text in no other way. -/
theorem captured_text (hasProcess : Bool) :
    (∀ events output, ((start hasProcess).run events).ending? = some (.exited output) →
      (∀ stream, output.on stream = Utf8.decode (bytesOn stream events)
        ↔ ¬Utf8.Severed (chunks stream events))
      ∧ ((∀ stream, ¬Utf8.Severed (chunks stream events)) → output.exitCode ≠ 0 →
        ∀ (launch : Launcher) (settings : Export.Settings) (target : Text) (w w' : World),
          launch settings.command settings.cwd settings.timeoutMs w = (.ok output, w') →
          Export.runCommand launch settings target w
            = (.error (.guard (.exportUnavailable target
                (settings.command.headD [] ++ " exited with code "
                  ++ Text.ofNat output.exitCode)
                (Text.trim (Utf8.decode (bytesOn .stdout events)
                  ++ Utf8.decode (bytesOn .stderr events))))), w')))
    ∧ (∀ bytes, Utf8.IsCuttable bytes ↔
        ∀ stream events output, ((start hasProcess).run events).ending? = some (.exited output) →
          bytesOn stream events = bytes → output.on stream = Utf8.decode bytes)
    ∧ ∀ pace argv cwd limit w output w',
        Launch.launcher pace argv cwd limit w = (.ok output, w') →
        ∃ events, ((start true).run events).ending? = some (.exited output) := by
  refine ⟨fun events output h => ?_, fun bytes => ⟨?_, fun h a b hsplit => ?_⟩,
    fun _ _ _ _ _ _ _ h => Launch.exists_events h⟩
  · have hexact : ∀ stream, output.on stream = Utf8.decode (bytesOn stream events)
        ↔ ¬Utf8.Severed (chunks stream events) := by
      intro stream
      rw [on_of_exited h, bytesOn]
      exact Utf8.flatMap_decode_eq_iff
    refine ⟨hexact, fun hwhole hcode launch settings target w w' hlaunch => ?_⟩
    rw [Export.runCommand_of_exit hlaunch hcode, (hexact .stdout).2 (hwhole .stdout),
      (hexact .stderr).2 (hwhole .stderr)]
  · rintro h stream events output hexited rfl
    rw [on_of_exited hexited]
    exact Utf8.cuttable_iff.1 h _ rfl
  · -- the border is one between two chunks of a run
    obtain ⟨output, hexited⟩ := exists_exited_twoChunks hasProcess .stdout a b
    have hbytes : bytesOn .stdout (twoChunks .stdout a b) = bytes := by
      rw [bytesOn, chunks_twoChunks, hsplit]
      simp
    have htext := h .stdout _ output hexited hbytes
    rw [on_of_exited hexited, ← hbytes, bytesOn, Utf8.flatMap_decode_eq_iff,
      chunks_twoChunks] at htext
    by_contra hcuts
    refine htext ⟨[a], [b], rfl, ?_⟩
    simpa using hcuts

/-- ASCII is captured as it was written, in a run that brings it in two chunks as in every other. -/
theorem captured_text_of_ascii :
    let events : List ProcessEvent :=
      [.output .stdout "ou", .output .stdout "t", .output .stderr "err", .closed (some 3)]
    let output : ExecOutput := ⟨3, "out", "err"⟩
    ((start true).run events).ending? = some (.exited output)
      ∧ ∀ events output, ((start true).run events).ending? = some (.exited output) →
        bytesOn .stdout events = "out" → output.on .stdout = "out" := by
  intro events output
  have hcuttable : Utf8.IsCuttable "out" := Utf8.isCuttable_of_ascii (by decide +kernel)
  obtain ⟨-, hevery, -⟩ := captured_text true
  exact ⟨by decide, fun events output hexited hbytes =>
    (hevery "out").1 hcuttable .stdout events output hexited hbytes⟩

/-- The two bytes of a letter are captured as that letter, or as two replacement characters if they
arrive one by one; and so they are reported of a command that fails. -/
theorem captured_by_chunks :
    let whole : List ProcessEvent := [.output .stdout [0xC3, 0xA9], .closed (some 1)]
    let cut : List ProcessEvent :=
      [.output .stdout [0xC3], .output .stdout [0xA9], .closed (some 1)]
    let settings : Export.Settings := ⟨"/", ["make"], "/graphs", "/out", Number.ofNat 600000⟩
    let reported (output : ExecOutput) : Option Text :=
      match (Export.runCommand (fun _ _ _ w => (.ok output, w)) settings "A"
          (.quiet .empty)).1 with
      | .error (.guard (.exportUnavailable _ _ text)) => some text
      | _ => none
    bytesOn .stdout whole = bytesOn .stdout cut
      ∧ ((start true).run whole).ending? = some (.exited ⟨1, "é", []⟩)
      ∧ ((start true).run cut).ending? = some (.exited ⟨1, [0xFFFD, 0xFFFD], []⟩)
      ∧ Utf8.decode (bytesOn .stdout cut) = "é"
      ∧ reported ⟨1, "é", []⟩ = some "é"
      ∧ reported ⟨1, [0xFFFD, 0xFFFD], []⟩ = some [0xFFFD, 0xFFFD] := by
  intro whole cut settings reported
  exact ⟨by decide, by decide, by decide, by decide, rfl, rfl⟩

end SurfaceGuard
