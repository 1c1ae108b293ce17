import SurfaceGuard.Host.Task
import SurfaceGuard.Proofs.Value.Display

/-!
# How tasks end

A task that is made of two parts ends as the first part if that is ended by something
thrown, and else as the second one (`Task.bind_cases`).  An operation on files either
makes its change as a whole or leaves what its failure allows, and it never changes the
process that it works for (`World.Stays`).
-/

namespace SurfaceGuard

/-- The second world is that of the same process at the same time of its clock. -/
structure World.Stays (w w' : World) : Prop where
  directory : w'.directory = w.directory
  clock : w'.clock = w.clock
  processId : w'.processId = w.processId

namespace World.Stays

theorem refl (w : World) : w.Stays w := ⟨rfl, rfl, rfl⟩

theorem trans {w u v : World} (h : w.Stays u) (h' : u.Stays v) : w.Stays v :=
  ⟨h'.directory.trans h.directory, h'.clock.trans h.clock, h'.processId.trans h.processId⟩

end World.Stays

/-- A world with some files, in which no other process runs. -/
def World.quiet (files : FileTree) : World :=
  { files, time := 0, epoch := 0, processes := [], descriptions := [], pipes := [], nextProcess := 2
    nextOpen := 0, written := [], directory := ⟨[], 0⟩, clock := .zero false, processId := 1
    environment := [], log := [] }

/-- The world with more entries in its log. -/
def World.logged (w : World) (entries : List Entry) : World := { w with log := w.log ++ entries }

namespace World

variable (w : World) (entries : List Entry)

@[simp] theorem logged_clock : (w.logged entries).clock = w.clock := rfl

@[simp]
theorem logged_nil : w.logged [] = w := by
  simp [logged]

@[simp]
theorem logged_logged (more : List Entry) :
    (w.logged entries).logged more = w.logged (entries ++ more) := by
  simp [logged]

end World

namespace Task

variable {α β : Type} {w w' : World}

/-! ## Parts of a task -/

theorem bind_of_ok {t : Task α} {next : α → Task β} {a : α} (h : t w = (.ok a, w')) :
    (t >>= next) w = next a w' := by
  change (andThen t next) w = _
  rw [andThen, h]

theorem bind_of_error {t : Task α} {next : α → Task β} {e : Thrown} (h : t w = (.error e, w')) :
    (t >>= next) w = (.error e, w') := by
  change (andThen t next) w = _
  rw [andThen, h]

/-- A task in two parts goes through both, or is ended in the first one. -/
theorem bind_cases {t : Task α} {next : α → Task β} {r : Except Thrown β}
    (h : (t >>= next) w = (r, w')) :
    (∃ a u, t w = (.ok a, u) ∧ next a u = (r, w')) ∨ ∃ e, t w = (.error e, w') ∧ r = .error e := by
  cases ht : t w with
  | mk end_ u =>
    cases end_ with
    | ok a =>
      rw [bind_of_ok ht] at h
      exact Or.inl ⟨a, u, rfl, h⟩
    | error e =>
      rw [bind_of_error ht, Prod.mk.injEq] at h
      exact Or.inr ⟨e, by rw [h.2], h.1.symm⟩

theorem mapError_eq_ok_iff {ε ε' : Type} {x : Except ε α} {f : ε → ε'} {a : α} :
    x.mapError f = .ok a ↔ x = .ok a := by
  cases x <;> simp [Except.mapError]

theorem mapError_eq_error_iff {ε ε' : Type} {x : Except ε α} {f : ε → ε'} {e : ε'} :
    x.mapError f = .error e ↔ ∃ e', x = .error e' ∧ f e' = e := by
  cases x <;> simp [Except.mapError]

theorem outcome_eq {t : Task α} {r : Except Thrown α} (h : t w = (r, w')) :
    outcome t w = (.ok r, w') := by
  rw [outcome, h]

theorem ofGuard_eq (x : Except GuardError α) (w : World) :
    ofGuard x w = (x.mapError .guard, w) := by
  cases x <;> rfl

theorem now_eq (w : World) : now w = (.ok w.clock, w) := rfl

/-- A group of entries is opened before a task and closed after it, however it ends. -/
theorem group_eq {title : Text} {t : Task α} {r : Except Thrown α}
    (h : t (w.logged [.openGroup title]) = (r, w')) :
    group title t w = (r, w'.logged [.closeGroup]) := by
  have hopened : record (.openGroup title) w = (.ok (), w.logged [.openGroup title]) := rfl
  rw [group, bind_of_ok hopened, bind_of_ok (outcome_eq h)]
  cases r <;> rfl

/-! ## Operations on files -/

/-- The bytes of a path are taken as they are, or nothing happens. -/
theorem pathFor_cases (argument path : Text) (w : World) :
    pathFor argument path w = (.ok (Utf8.encode path), w)
      ∨ ∃ e, pathFor argument path w = (.error e, w) := by
  rw [pathFor]
  split
  · exact Or.inr ⟨_, rfl⟩
  · exact Or.inl rfl

/-- An operation is made, or the host fails in it. -/
theorem attempt_cases {broken : Fault → Task Unit} {operation : Task Unit} {r : Except Thrown Unit}
    (h : attempt broken operation w = (r, w')) :
    ∃ faults, operation { w with faults := faults } = (r, w')
      ∨ ∃ fault, broken fault { w with faults := faults } = (r, w') := by
  rw [attempt] at h
  split at h
  · next hfaults =>
    refine ⟨[], Or.inl ?_⟩
    rw [← hfaults]
    exact h
  · next faults _ => exact ⟨faults, Or.inl h⟩
  · next fault faults _ => exact ⟨faults, Or.inr ⟨fault, h⟩⟩

theorem changeWith_cases {f : World → Option Thrown × FileTree} {r : Except Thrown Unit}
    (h : changeWith f w = (r, w')) :
    w.Stays w' ∧ (r = .ok () ∧ f w = (none, w'.files)
      ∨ ∃ e, r = .error e ∧ f w = (some e, w'.files)) := by
  rw [changeWith] at h
  split at h
  · next files hf =>
    cases h
    exact ⟨⟨rfl, rfl, rfl⟩, Or.inl ⟨rfl, hf⟩⟩
  · next e files hf =>
    cases h
    exact ⟨⟨rfl, rfl, rfl⟩, Or.inr ⟨e, rfl, hf⟩⟩

/-- A change is made as a whole, or nothing happens. -/
theorem change_cases {f : World → Except Errno FileTree} {reason : Errno → Thrown}
    {r : Except Thrown Unit} (h : change (fun w => (f w).mapError reason) w = (r, w')) :
    w.Stays w' ∧ (r = .ok () ∧ f w = .ok w'.files ∨ ∃ e, r = .error e ∧ w'.files = w.files) := by
  obtain ⟨hstays, hchange⟩ := changeWith_cases h
  refine ⟨hstays, ?_⟩
  cases hf : f w with
  | ok files =>
    simp only [hf, Except.mapError, Prod.mk.injEq] at hchange
    rcases hchange with ⟨hr, -, hfiles⟩ | ⟨e, -, hnone, -⟩
    · exact Or.inl ⟨hr, congrArg _ hfiles⟩
    · cases hnone
  | error errno =>
    simp only [hf, Except.mapError, Prod.mk.injEq] at hchange
    rcases hchange with ⟨-, hsome, -⟩ | ⟨e, hr, -, hfiles⟩
    · cases hsome
    · exact Or.inr ⟨e, hr, hfiles.symm⟩

theorem fail_cases {e : Thrown} {r : Except Thrown α} (h : fail e w = (r, w')) :
    w' = w ∧ r = .error e := by
  cases h
  exact ⟨rfl, rfl⟩

theorem stays_faults (w : World) (faults : List (Option Fault)) :
    w.Stays { w with faults := faults } := ⟨rfl, rfl, rfl⟩

/-- A task on a path fails at once, or goes on with the bytes of the path. -/
theorem pathFor_bind_cases {argument path : Text} {next : Bytes → Task β} {r : Except Thrown β}
    (h : (pathFor argument path >>= next) w = (r, w')) :
    next (Utf8.encode path) w = (r, w') ∨ w' = w ∧ ∃ e, r = .error e := by
  rcases pathFor_cases argument path w with hp | ⟨e, hp⟩
  · rw [bind_of_ok hp] at h
    exact Or.inl h
  · rw [bind_of_error hp, Prod.mk.injEq] at h
    exact Or.inr ⟨h.2.symm, e, h.1.symm⟩

/-- The directories are made, or some of them, or nothing is. -/
theorem makeDirectories_cases {path : Text} {r : Except Thrown Unit}
    (h : makeDirectories path w = (r, w')) :
    w.Stays w' ∧ ((r = .ok () ∧ ∃ time, w.files.makeDirectories w.directory (Utf8.encode path) time
        = (none, w'.files))
      ∨ ∃ e, r = .error e ∧ (w'.files = w.files ∨ ∃ time errno,
        w.files.makeDirectories w.directory (Utf8.encode path) time = (some errno, w'.files))) := by
  rcases pathFor_bind_cases h with hmake | ⟨rfl, e, hr⟩
  · obtain ⟨faults, hmake | ⟨fault, hbroken⟩⟩ := attempt_cases hmake
    · obtain ⟨hstays, hchange⟩ := changeWith_cases hmake
      refine ⟨(stays_faults w faults).trans hstays, ?_⟩
      obtain ⟨⟨e?, files⟩, hmade⟩ :
          ∃ made, w.files.makeDirectories w.directory (Utf8.encode path) w.stamp = made := ⟨_, rfl⟩
      simp only [hmade, Prod.mk.injEq] at hchange
      rcases hchange with ⟨hr, hnone, hfiles⟩ | ⟨e, hr, hsome, hfiles⟩
      · rw [Option.map_eq_none_iff.1 hnone, hfiles] at hmade
        exact Or.inl ⟨hr, _, hmade⟩
      · obtain ⟨errno, herrno, -⟩ := Option.map_eq_some_iff.1 hsome
        rw [herrno, hfiles] at hmade
        exact Or.inr ⟨e, hr, Or.inr ⟨_, errno, hmade⟩⟩
    · obtain ⟨rfl, hr⟩ := fail_cases hbroken
      exact ⟨stays_faults w faults, Or.inr ⟨_, hr, Or.inl rfl⟩⟩
  · exact ⟨.refl _, Or.inr ⟨e, hr, Or.inl rfl⟩⟩

/-- The content is written, or a beginning of it, or nothing is. -/
theorem writeBytes_cases {path : Text} {content : Bytes} {r : Except Thrown Unit}
    (h : writeBytes path content w = (r, w')) :
    w.Stays w' ∧ ((r = .ok () ∧ ∃ time,
        w.files.writeFile w.directory (Utf8.encode path) content time = .ok w'.files)
      ∨ ∃ e, r = .error e ∧ (w'.files = w.files ∨ ∃ time count,
        w.files.writeFile w.directory (Utf8.encode path) (content.take count) time
          = .ok w'.files)) := by
  rcases pathFor_bind_cases h with hwrite | ⟨rfl, e, hr⟩
  · obtain ⟨faults, hwrite | ⟨fault, hbroken⟩⟩ := attempt_cases hwrite
    · obtain ⟨hstays, hchange⟩ := change_cases hwrite
      refine ⟨(stays_faults w faults).trans hstays, ?_⟩
      rcases hchange with ⟨hr, hfiles⟩ | ⟨e, hr, hfiles⟩
      · exact Or.inl ⟨hr, _, hfiles⟩
      · exact Or.inr ⟨e, hr, Or.inl hfiles⟩
    · cases hwritten : fault.written with
      | none =>
        simp only [hwritten] at hbroken
        obtain ⟨rfl, hr⟩ := fail_cases hbroken
        exact ⟨stays_faults w faults, Or.inr ⟨_, hr, Or.inl rfl⟩⟩
      | some count =>
        simp only [hwritten] at hbroken
        rcases bind_cases hbroken with ⟨_, u, hput, hfail⟩ | ⟨e, hput, hr⟩
        · obtain ⟨rfl, hr⟩ := fail_cases hfail
          obtain ⟨hstays, hchange⟩ := change_cases hput
          refine ⟨(stays_faults w faults).trans hstays, Or.inr ⟨_, hr, ?_⟩⟩
          rcases hchange with ⟨-, hfiles⟩ | ⟨_, -, hfiles⟩
          · exact Or.inr ⟨_, count, hfiles⟩
          · exact Or.inl hfiles
        · obtain ⟨hstays, ⟨hok, -⟩ | ⟨_, -, hfiles⟩⟩ := change_cases hput
          · cases hok
          · exact ⟨(stays_faults w faults).trans hstays, Or.inr ⟨e, hr, Or.inl hfiles⟩⟩
  · exact ⟨.refl _, Or.inr ⟨e, hr, Or.inl rfl⟩⟩

/-- The file is renamed, or nothing happens. -/
theorem rename_cases {source target : Text} {r : Except Thrown Unit}
    (h : rename source target w = (r, w')) :
    w.Stays w' ∧ ((r = .ok () ∧ ∃ time, w.files.rename w.directory (Utf8.encode source)
        (Utf8.encode target) time = .ok w'.files)
      ∨ ∃ e, r = .error e ∧ w'.files = w.files) := by
  rcases pathFor_bind_cases h with hrename | ⟨rfl, e, hr⟩
  · rcases pathFor_bind_cases hrename with hrename | ⟨rfl, e, hr⟩
    · obtain ⟨faults, hrename | ⟨fault, hbroken⟩⟩ := attempt_cases hrename
      · obtain ⟨hstays, hchange⟩ := change_cases hrename
        refine ⟨(stays_faults w faults).trans hstays, ?_⟩
        rcases hchange with ⟨hr, hfiles⟩ | ⟨e, hr, hfiles⟩
        · exact Or.inl ⟨hr, _, hfiles⟩
        · exact Or.inr ⟨e, hr, hfiles⟩
      · obtain ⟨rfl, hr⟩ := fail_cases hbroken
        exact ⟨stays_faults w faults, Or.inr ⟨_, hr, rfl⟩⟩
    · exact ⟨.refl _, Or.inr ⟨e, hr, rfl⟩⟩
  · exact ⟨.refl _, Or.inr ⟨e, hr, rfl⟩⟩

/-- The file is removed, or there is none, or nothing happens. -/
theorem removeFile_cases {path : Text} {r : Except Thrown Unit} (h : removeFile path w = (r, w')) :
    w.Stays w' ∧ ((r = .ok () ∧ (w'.files = w.files
          ∧ w.files.find w.directory (Utf8.encode path) = .error .noEntry
        ∨ ∃ s time, w.files.find w.directory (Utf8.encode path) = .ok s
          ∧ s.node.isDirectory = false ∧ w.files.removeEntry s time = .ok w'.files))
      ∨ ∃ e, r = .error e ∧ w'.files = w.files) := by
  rcases pathFor_bind_cases h with hremove | ⟨rfl, e, hr⟩
  · obtain ⟨faults, hremove | ⟨fault, hbroken⟩⟩ := attempt_cases hremove
    · obtain ⟨hstays, hchange⟩ := changeWith_cases hremove
      refine ⟨(stays_faults w faults).trans hstays, ?_⟩
      simp only at hchange
      split at hchange
      · next hfind =>
        rcases hchange with ⟨hr, hfiles⟩ | ⟨e, -, hnone⟩
        · exact Or.inl ⟨hr, Or.inl ⟨(Prod.mk.inj hfiles).2.symm, hfind⟩⟩
        · cases (Prod.mk.inj hnone).1
      · rcases hchange with ⟨-, hsome⟩ | ⟨e, hr, hfiles⟩
        · cases (Prod.mk.inj hsome).1
        · exact Or.inr ⟨e, hr, (Prod.mk.inj hfiles).2.symm⟩
      · next s hfind =>
        split at hchange
        · rcases hchange with ⟨-, hsome⟩ | ⟨e, hr, hfiles⟩
          · cases (Prod.mk.inj hsome).1
          · exact Or.inr ⟨e, hr, (Prod.mk.inj hfiles).2.symm⟩
        next hfile =>
        split at hchange
        · next files hfiles =>
          rcases hchange with ⟨hr, heq⟩ | ⟨e, -, hnone⟩
          · rw [(Prod.mk.inj heq).2] at hfiles
            exact Or.inl ⟨hr, Or.inr ⟨s, _, hfind, Bool.eq_false_iff.2 hfile, hfiles⟩⟩
          · cases (Prod.mk.inj hnone).1
        · rcases hchange with ⟨-, hsome⟩ | ⟨e, hr, hfiles⟩
          · cases (Prod.mk.inj hsome).1
          · exact Or.inr ⟨e, hr, (Prod.mk.inj hfiles).2.symm⟩
    · obtain ⟨rfl, hr⟩ := fail_cases hbroken
      exact ⟨stays_faults w faults, Or.inr ⟨_, hr, rfl⟩⟩
  · exact ⟨.refl _, Or.inr ⟨e, hr, rfl⟩⟩

/-! ## Tasks that report what ends them -/

/-- Whatever ends the task has a description. -/
def Reports (t : Task α) : Prop := ∀ w e w', t w = (.error e, w') → ¬e.Textless

theorem Reports.bind {t : Task α} {next : α → Task β} (ht : Reports t)
    (hnext : ∀ a, Reports (next a)) : Reports (t >>= next) := by
  intro w e w' h
  rcases bind_cases h with ⟨a, u, -, hrest⟩ | ⟨e', hfirst, he⟩
  · exact hnext a u e w' hrest
  · cases he
    exact ht w e w' hfirst

/-- What ended a task is at hand in what follows it. -/
theorem Reports.outcome_bind {t : Task α} {next : Except Thrown α → Task β} (ht : Reports t)
    (hok : ∀ a, Reports (next (.ok a))) (herror : ∀ e, ¬e.Textless → Reports (next (.error e))) :
    Reports (outcome t >>= next) := by
  intro w e w' h
  obtain ⟨end_, u, hend⟩ : ∃ end_ u, t w = (end_, u) := ⟨_, _, rfl⟩
  rw [bind_of_ok (outcome_eq hend)] at h
  cases end_ with
  | ok a => exact hok a u e w' h
  | error e' => exact herror e' (ht w e' u hend) u e w' h

theorem reports_pure (a : α) : Reports (pure a : Task α) := fun _ _ _ h => nomatch h

theorem reports_look (f : World → α) : Reports (look f) := fun _ _ _ h => nomatch h

theorem reports_fail {e : Thrown} (h : ¬e.Textless) : Reports (fail e : Task α) := by
  intro w e' w' h'
  cases h'
  exact h

theorem reports_changeWith {f : World → Option Thrown × FileTree}
    (h : ∀ w e, (f w).1 = some e → ¬e.Textless) : Reports (changeWith f) := by
  intro w e w' hchange
  obtain ⟨-, ⟨hok, -⟩ | ⟨e', he, hf⟩⟩ := changeWith_cases hchange
  · cases hok
  · cases he
    exact h w e (congrArg Prod.fst hf)

theorem Reports.attempt {broken : Fault → Task Unit} {operation : Task Unit}
    (hoperation : Reports operation) (hbroken : ∀ fault, Reports (broken fault)) :
    Reports (attempt broken operation) := by
  intro w e w' h
  obtain ⟨faults, h | ⟨fault, h⟩⟩ := attempt_cases h
  · exact hoperation _ e w' h
  · exact hbroken fault _ e w' h

/-! ## Tasks that only read -/

/-- The task changes nothing, not even the log. -/
def Reads (t : Task α) : Prop := ∀ w, (t w).2 = w

theorem Reads.bind {t : Task α} {next : α → Task β} (ht : Reads t) (hnext : ∀ a, Reads (next a)) :
    Reads (t >>= next) := by
  intro w
  obtain ⟨r, w', h⟩ : ∃ r w', (t >>= next) w = (r, w') := ⟨_, _, rfl⟩
  rw [h]
  rcases bind_cases h with ⟨a, u, hfirst, hrest⟩ | ⟨e, hfirst, -⟩
  · have hu : u = w := by rw [← ht w, hfirst]
    rw [← hu, ← hnext a u, hrest]
  · rw [← ht w, hfirst]

theorem reads_pure (a : α) : Reads (pure a : Task α) := fun _ => rfl

theorem reads_look (f : World → α) : Reads (look f) := fun _ => rfl

theorem reads_fail (e : Thrown) : Reads (fail e : Task α) := fun _ => rfl

theorem reads_ofExcept (x : Except Thrown α) : Reads (ofExcept x) := by
  cases x <;> exact fun _ => rfl

theorem reads_ofGuard (x : Except GuardError α) : Reads (ofGuard x) := by
  cases x <;> exact fun _ => rfl

theorem reads_pathFor (argument path : Text) : Reads (pathFor argument path) := by
  intro w
  rcases pathFor_cases argument path w with h | ⟨e, h⟩ <;> rw [h]

theorem reads_readText (path : Text) : Reads (readText path) :=
  ((reads_pathFor "path" path).bind fun _ => (reads_look _).bind fun _ => reads_ofExcept _).bind
    fun _ => reads_pure _

/-- A task that only reads ends in the world that it read. -/
theorem Reads.eq {t : Task α} (ht : Reads t) (w : World) : t w = ((t w).1, w) :=
  Prod.ext rfl (ht w)

/-- What reading a file comes to: its text, or how the error for it reads. -/
def reading (w : World) (file : Text) : Except Text Text :=
  if file.contains 0 then
    .error
      ("TypeError [ERR_INVALID_ARG_VALUE]: " ++ Inspected.pathWithoutZeros "argument 'path'" file)
  else match w.files.readFile w.directory (Utf8.encode file) with
    | .ok content => .ok (Utf8.decode content)
    | .error .isDirectory => .error ("Error: " ++ (Errno.isDirectory.text ++ ", read"))
    | .error e => .error ("Error: " ++ (e.text ++ ", open '" ++ Text.wellFormed file ++ "'"))

/-- Reading a path without a zero comes to what the files have there. -/
theorem readText_eq {file : Text} (h : file.contains 0 = false) (w : World) :
    readText file w = (((w.files.readFile w.directory (Utf8.encode file)).mapError
      (readError file)).map Utf8.decode, w) := by
  have hpath : pathOf file w = (.ok (Utf8.encode file), w) := by
    rw [pathOf, pathFor, if_neg (Bool.eq_false_iff.1 h)]
    rfl
  have hbytes : readBytes file w
      = ofExcept ((w.files.readFile w.directory (Utf8.encode file)).mapError (readError file)) w :=
    bind_of_ok hpath
  rw [readText]
  cases hfile : w.files.readFile w.directory (Utf8.encode file) with
  | ok content =>
    rw [hfile] at hbytes
    exact bind_of_ok hbytes
  | error e =>
    rw [hfile] at hbytes
    exact bind_of_error hbytes

theorem pathExists_eq (file : Text) (w : World) : pathExists file w
    = (.ok (!file.contains 0 && w.files.hasPath w.directory (Utf8.encode file)), w) := rfl

/-- A path that leads somewhere has no zero in it. -/
theorem not_contains_zero {file : Text} (h : pathExists file w = (.ok true, w')) :
    file.contains 0 = false := by
  rw [pathExists_eq, Prod.mk.injEq, Except.ok.injEq, Bool.and_eq_true, Bool.not_eq_true'] at h
  exact h.1.1

/-- A file is read as a whole, or the reason is told. -/
theorem readText_cases (file : Text) (w : World) :
    (∃ text, reading w file = .ok text ∧ readText file w = (.ok text, w))
      ∨ ∃ message, reading w file = .error ("Error: " ++ message)
          ∧ readText file w = (.error (.error message), w)
        ∨ reading w file = .error ("TypeError [ERR_INVALID_ARG_VALUE]: " ++ message)
          ∧ readText file w = (.error (.badArgument message), w) := by
  rw [reading]
  cases hzero : file.contains 0 with
  | true =>
    refine Or.inr ⟨_, Or.inr ⟨rfl, bind_of_error (bind_of_error ?_)⟩⟩
    rw [pathOf, pathFor, if_pos hzero]
    rfl
  | false =>
    rw [if_neg Bool.false_ne_true, readText_eq hzero w]
    cases hfile : w.files.readFile w.directory (Utf8.encode file) with
    | ok content => exact Or.inl ⟨_, rfl, rfl⟩
    | error e =>
      have hopen : systemError e "open" file
          = .error (e.text ++ ", open '" ++ Text.wellFormed file ++ "'") := by
        simp only [systemError, List.append_assoc]
        rfl
      refine Or.inr ?_
      cases e with
      | isDirectory => exact ⟨_, Or.inl ⟨rfl, rfl⟩⟩
      | _ => exact ⟨_, Or.inl ⟨rfl, by rw [← hopen]; rfl⟩⟩

end Task

end SurfaceGuard
