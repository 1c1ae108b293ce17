import SurfaceGuard.Proofs.Baseline.Location
import SurfaceGuard.Proofs.Host.Operations
import Mathlib.Logic.Relation

/-!
# Several writers of one directory

Processes store snapshots in one directory, each process one after the other, all of them
at the same time.  A call makes the directory, writes its temporary file piece by piece,
and puts it in the place of the baseline; if something fails in between, the temporary
file is removed.  `Writers.Step` has one constructor for each of these steps, and a run is
any sequence of them.

The invariant ties each temporary file to the call that writes it: what is in it is the
beginning of that call's content.  So the only step that changes a baseline puts a whole
content in its place (`Writers.Step.returned`).
-/

namespace SurfaceGuard.Baseline

/-- A call that stores a snapshot whose target is a name. -/
structure Call where
  snapshot : Snapshot
  processId : Nat
  clock : Number
  plain : Path.separator ∉ snapshot.target

/-- How far a call is. -/
inductive Stage where
  /-- The directory is to be made. -/
  | entered
  /-- So many bytes are in the temporary file; none if it was not opened. -/
  | writing (written : Option Nat)
  /-- Something failed, and the temporary file is to be removed. -/
  | undoing (written : Option Nat)
  | returned
  | raised
  deriving DecidableEq, Repr

namespace Stage

/-- Is the call over? -/
def isOver : Stage → Bool
  | returned => true
  | raised => true
  | _ => false

/-- May the temporary file of the call be there? -/
def isOpen : Stage → Bool
  | writing written => written.isSome
  | undoing written => written.isSome
  | _ => false

end Stage

namespace Call

variable (c : Call)

/-- The content that the call stores. -/
def content : Bytes := encode c.snapshot

/-- The path of the baseline that the call replaces. -/
def file (dir : Text) : Bytes := Utf8.encode (path dir c.snapshot.target)

/-- The path of the temporary file of the call. -/
def temporary (dir : Text) : Bytes :=
  Utf8.encode (temporaryPath dir c.snapshot.target c.processId c.clock)

end Call

/-- The files, and how far the processes are. -/
structure Writers where
  files : FileTree
  /-- The last call of each process. -/
  calls : Nat → Option (Call × Stage)
  /-- The calls that have opened their temporary file. -/
  opened : List Call
  /-- The calls that have replaced their baseline, the last one first. -/
  done : List Call

/-- The content of the baseline of a target, if there is one. -/
def held (base : Place) (dir : Text) (files : FileTree) (target : Text) : Option Bytes :=
  files.content? (FileTree.destination base (Utf8.encode (path dir target)))

namespace Writers

/-- No process has made a call. -/
def start (files : FileTree) : Writers := ⟨files, fun _ => none, [], []⟩

/-- The last call of its process is this one, so far. -/
def At (st : Writers) (c : Call) (stage : Stage) : Prop := st.calls c.processId = some (c, stage)

/-- The state in which a call is so far, with these files. -/
def move (st : Writers) (c : Call) (stage : Stage) (files : FileTree) : Writers :=
  { st with files := files, calls := Function.update st.calls c.processId (some (c, stage)) }

/-- The steps of the processes. -/
inductive Step (base : Place) (dir : Text) : Writers → Writers → Prop
  /-- A process that is not busy makes a call. -/
  | call {st : Writers} (c : Call)
      (hidle : ∀ c' stage, st.calls c.processId = some (c', stage) → stage.isOver = true) :
      Step base dir st (st.move c .entered st.files)
  | makeDirectory {st : Writers} {c : Call} {time : Int} {files : FileTree} (h : st.At c .entered)
      (hmake : st.files.makeDirectories base (Utf8.encode dir) time = (none, files)) :
      Step base dir st (st.move c (.writing none) files)
  /-- The directory cannot be made; some above it may have been. -/
  | refuse {st : Writers} {c : Call} {time : Int} {errno : Errno} {files : FileTree}
      (h : st.At c .entered)
      (hmake : st.files.makeDirectories base (Utf8.encode dir) time = (some errno, files)) :
      Step base dir st (st.move c .raised files)
  /-- The host fails before the directory is made. -/
  | reject {st : Writers} {c : Call} (h : st.At c .entered) :
      Step base dir st (st.move c .raised st.files)
  /-- A longer part of the content is written. -/
  | write {st : Writers} {c : Call} {written : Option Nat} {count : Nat} {time : Int}
      {files : FileTree} (h : st.At c (.writing written))
      (hcount : written.getD 0 ≤ count ∧ count ≤ c.content.length)
      (hwrite : st.files.writeFile base (c.temporary dir) (c.content.take count) time = .ok files) :
      Step base dir st
        { st.move c (.writing (some count)) files with opened := c :: st.opened }
  | replace {st : Writers} {c : Call} {time : Int} {files : FileTree}
      (h : st.At c (.writing (some c.content.length)))
      (hrename : st.files.rename base (c.temporary dir) (c.file dir) time = .ok files) :
      Step base dir st { st.move c .returned files with done := c :: st.done }
  /-- Writing or renaming fails. -/
  | fail {st : Writers} {c : Call} {written : Option Nat} (h : st.At c (.writing written)) :
      Step base dir st (st.move c (.undoing written) st.files)
  | clear {st : Writers} {c : Call} {written : Option Nat} {time : Int} {s : Spot}
      {files : FileTree} (h : st.At c (.undoing written))
      (hfind : st.files.find base (c.temporary dir) = .ok s) (hfile : s.node.isDirectory = false)
      (hremove : st.files.removeEntry s time = .ok files) :
      Step base dir st (st.move c .raised files)
  /-- There is no file to be removed. -/
  | leave {st : Writers} {c : Call} {written : Option Nat} (h : st.At c (.undoing written))
      (hfind : ∀ s, st.files.find base (c.temporary dir) = .ok s → s.node.isDirectory = true) :
      Step base dir st (st.move c .raised st.files)

/-- The states that a run can come to. -/
def Reachable (base : Place) (dir : Text) (files : FileTree) : Writers → Prop :=
  Relation.ReflTransGen (Step base dir) (start files)

/-! ## Places of a call -/

variable (base : Place) (dir : Text)

/-- The location of an entry of the directory. -/
def entryAt (name : Text) : Location := directoryLocation base dir ++ [Utf8.encode name]

theorem entryAt_eq_iff {name other : Text} :
    entryAt base dir name = entryAt base dir other ↔ Utf8.encode name = Utf8.encode other := by
  simp [entryAt]

/-- The location of the baseline that a call replaces. -/
def fileAt (c : Call) : Location := entryAt base dir (fileName c.snapshot.target)

/-- The location of the temporary file of a call. -/
def temporaryAt (c : Call) : Location :=
  entryAt base dir (temporaryName c.snapshot.target c.processId c.clock)

theorem destination_file (c : Call) :
    FileTree.destination base (c.file dir) = fileAt base dir c := by
  rw [Call.file, path_eq_join, Path.destination_join base dir (isName_fileName c.plain), fileAt,
    entryAt]

theorem destination_temporary (c : Call) :
    FileTree.destination base (c.temporary dir) = temporaryAt base dir c := by
  rw [Call.temporary, temporaryPath_eq_join,
    Path.destination_join base dir (isName_temporaryName c.plain c.processId c.clock), temporaryAt,
    entryAt]

variable {base : Place} {dir : Text}

theorem held_eq {target : Text} (h : Path.separator ∉ target) {files : FileTree} :
    held base dir files target = files.content? (entryAt base dir (fileName target)) := by
  rw [held, path_eq_join, Path.destination_join base dir (isName_fileName h), entryAt]

theorem temporaryAt_ne_file (c : Call) (target : Text) :
    temporaryAt base dir c ≠ entryAt base dir (fileName target) := by
  rw [temporaryAt, Ne, entryAt_eq_iff]
  exact temporaryName_ne_fileName _ _ _ _

theorem processId_of_temporaryAt {c c' : Call}
    (h : temporaryAt base dir c = temporaryAt base dir c') :
    c.processId = c'.processId :=
  processId_of_temporaryName ((entryAt_eq_iff base dir).1 h)

/-! ## The invariant -/

/-- Each baseline is the content of the last call that replaced it, or else what it was at first. -/
def Stores (base : Place) (dir : Text) (first files : FileTree) (done : List Call) : Prop :=
  ∀ target, Path.separator ∉ target → held base dir files target
    = match done.find? fun c => Utf8.encode c.snapshot.target = Utf8.encode target with
      | some c => some c.content
      | none => held base dir first target

/-- What holds in every state of a run. -/
structure Invariant (base : Place) (dir : Text) (first : FileTree) (st : Writers) : Prop where
  /-- A process makes calls of its own. -/
  process : ∀ p c stage, st.calls p = some (c, stage) → c.processId = p
  /-- There are no devices at the places of temporary files. -/
  ordinary : ∀ (c : Call) (n : Node), st.files.face? (temporaryAt base dir c) = some n →
    n.isOrdinary = true
  /-- The way to a temporary file that was opened stays open. -/
  follows : ∀ c stage, st.At c stage → stage.isOpen = true →
    ∃ found, st.files.locate base (c.temporary dir) = .ok found
  /-- A call that is writing has the beginning of its content in its temporary file. -/
  written : ∀ c count, st.At c (.writing (some count)) →
    ∃ a, st.files.face? (temporaryAt base dir c) = some (.file a (c.content.take count))
  /-- A temporary file belongs to a call that is not over. -/
  owned : ∀ c ∈ st.opened, st.files.content? (temporaryAt base dir c) = none
    ∨ ∃ c' stage, st.At c' stage ∧ stage.isOpen = true
      ∧ temporaryAt base dir c' = temporaryAt base dir c
  stored : Stores base dir first st.files st.done

variable {first : FileTree} {st st' : Writers}

theorem at_update {c c' : Call} {stage stage' : Stage}
    (h : Function.update st.calls c.processId (some (c, stage)) c'.processId = some (c', stage')) :
    c' = c ∧ stage' = stage ∨ c'.processId ≠ c.processId ∧ st.At c' stage' := by
  by_cases hp : c'.processId = c.processId
  · rw [hp, Function.update_self, Option.some.injEq, Prod.mk.injEq] at h
    exact Or.inl ⟨h.1.symm, h.2.symm⟩
  · rw [Function.update_of_ne hp] at h
    exact Or.inr ⟨hp, h⟩

/-- The temporary file of another process stays. -/
theorem staysAt_temporary {files : FileTree} {c c' : Call}
    (h : st.files.ChangesOnly [temporaryAt base dir c, fileAt base dir c] files)
    (hloc : temporaryAt base dir c' ≠ temporaryAt base dir c) :
    st.files.StaysAt files (temporaryAt base dir c') := by
  refine h.others _ ?_
  have hfile : temporaryAt base dir c' ≠ fileAt base dir c := temporaryAt_ne_file _ _
  simp [hloc, hfile]

/-- The invariant is kept if one call goes on, touches its own places at most, and leaves them as
its new stage says. -/
theorem Invariant.advance (h : Invariant base dir first st) {c : Call} {stage : Stage}
    {files : FileTree} {opened done : List Call}
    (hbefore : ∀ c' stage', st.At c' stage' → c'.processId = c.processId →
      c' = c ∨ stage'.isOpen = false)
    (hchanges : st.files.ChangesOnly [temporaryAt base dir c, fileAt base dir c] files)
    (hordinary : ∀ n, files.face? (temporaryAt base dir c) = some n → n.isOrdinary = true)
    (hfollows : stage.isOpen = true → ∃ found, files.locate base (c.temporary dir) = .ok found)
    (hwritten : ∀ count, stage = .writing (some count) →
      ∃ a, files.face? (temporaryAt base dir c) = some (.file a (c.content.take count)))
    (hopened : ∀ c' ∈ opened, c' ∈ st.opened ∨ c' = c)
    (howned : ∀ c' ∈ opened, temporaryAt base dir c' = temporaryAt base dir c →
      stage.isOpen = true ∨ files.content? (temporaryAt base dir c) = none)
    (hstored : Stores base dir first files done) :
    Invariant base dir first
      { st.move c stage files with opened := opened, done := done } where
  process p c' stage' hp := by
    change Function.update st.calls c.processId (some (c, stage)) p = some (c', stage') at hp
    by_cases hpc : p = c.processId
    · rw [hpc, Function.update_self, Option.some.injEq, Prod.mk.injEq] at hp
      rw [← hp.1, hpc]
    · rw [Function.update_of_ne hpc] at hp
      exact h.process p c' stage' hp
  ordinary c' := by
    by_cases hloc : temporaryAt base dir c' = temporaryAt base dir c
    · rw [hloc]
      exact hordinary
    · exact (staysAt_temporary hchanges hloc).isOrdinary (h.ordinary c')
  follows c' stage' hat hopen := by
    rcases at_update hat with ⟨rfl, rfl⟩ | ⟨-, hat⟩
    · exact hfollows hopen
    · obtain ⟨found, hfound⟩ := h.follows c' stage' hat hopen
      exact FileTree.locate_of_keeps hchanges.keeps hfound
  written c' count hat := by
    rcases at_update hat with ⟨rfl, hstage⟩ | ⟨hp, hat⟩
    · exact hwritten count hstage.symm
    · obtain ⟨a, ha⟩ := h.written c' count hat
      have hloc : temporaryAt base dir c' ≠ temporaryAt base dir c :=
        fun heq => hp (processId_of_temporaryAt heq)
      exact ⟨a, (staysAt_temporary hchanges hloc).face? ha⟩
  owned c' hc' := by
    by_cases hloc : temporaryAt base dir c' = temporaryAt base dir c
    · rcases howned c' hc' hloc with hopen | hnone
      · exact Or.inr ⟨c, stage, Function.update_self .., hopen, hloc.symm⟩
      · exact Or.inl (by rw [hloc]; exact hnone)
    · have hold : c' ∈ st.opened := (hopened c' hc').resolve_right fun heq => hloc (heq ▸ rfl)
      rcases h.owned c' hold with hnone | ⟨c'', stage', hat, hopen, heq⟩
      · left
        rw [← hnone]
        exact (staysAt_temporary hchanges hloc).content?
      · -- the owner is not this call, so it is where it was
        have hp : c''.processId ≠ c.processId := by
          intro hp
          rcases hbefore c'' stage' hat hp with rfl | hclosed
          · exact hloc heq.symm
          · rw [hopen] at hclosed
            cases hclosed
        exact Or.inr ⟨c'', stage', (Function.update_of_ne hp ..).trans hat, hopen, heq⟩
  stored := hstored

/-! ## Every step keeps the invariant -/

theorem At.unique {c c' : Call} {stage stage' : Stage} (h : st.At c stage) (h' : st.At c' stage')
    (hp : c'.processId = c.processId) : c' = c ∧ stage' = stage := by
  rw [At, hp, h, Option.some.injEq, Prod.mk.injEq] at h'
  exact ⟨h'.1.symm, h'.2.symm⟩

theorem At.same {c : Call} {stage : Stage} (h : st.At c stage) :
    ∀ c' stage', st.At c' stage' → c'.processId = c.processId → c' = c ∨ stage'.isOpen = false :=
  fun _ _ h' hp => Or.inl (h.unique h' hp).1

theorem At.closed {c : Call} {stage : Stage} (h : st.At c stage) (hclosed : stage.isOpen = false) :
    ∀ c' stage', st.At c' stage' → c'.processId = c.processId → stage'.isOpen = false :=
  fun _ _ h' hp => (h.unique h' hp).2 ▸ hclosed

/-- The temporary file of a process that has none open is not there. -/
theorem Invariant.absent (h : Invariant base dir first st) {c : Call}
    (hclosed : ∀ c' stage', st.At c' stage' → c'.processId = c.processId → stage'.isOpen = false) :
    ∀ c' ∈ st.opened, temporaryAt base dir c' = temporaryAt base dir c →
      st.files.content? (temporaryAt base dir c) = none := by
  intro c' hc' hloc
  rcases h.owned c' hc' with hnone | ⟨c'', stage', hat, hopen, heq⟩
  · rw [← hloc, hnone]
  · rw [hclosed c'' stage' hat (processId_of_temporaryAt (heq.trans hloc))] at hopen
    cases hopen

/-- The baselines stay if only temporary files are touched. -/
theorem Invariant.stored_of_changesOnly (h : Invariant base dir first st) {c : Call}
    {files : FileTree} (hchanges : st.files.ChangesOnly [temporaryAt base dir c] files) :
    Stores base dir first files st.done := by
  intro target htarget
  rw [← h.stored target htarget, held_eq htarget, held_eq htarget]
  refine (hchanges.others _ ?_).content?
  rw [List.mem_singleton]
  exact fun heq => temporaryAt_ne_file c target heq.symm

/-- A step without a temporary file, before and after it. -/
theorem Invariant.closed (h : Invariant base dir first st) {c : Call} {stage : Stage}
    {files : FileTree} (hgrows : st.files.Grows files)
    (hbefore : ∀ c' stage', st.At c' stage' → c'.processId = c.processId → stage'.isOpen = false)
    (hstage : stage.isOpen = false) : Invariant base dir first (st.move c stage files) := by
  refine h.advance (fun c' stage' hat hp => Or.inr (hbefore c' stage' hat hp))
    (hgrows.changesOnly _) ?_ ?_ ?_ (fun _ => Or.inl) ?_
    (h.stored_of_changesOnly (c := c) (hgrows.changesOnly _))
  · exact (hgrows _).isOrdinary (h.ordinary c)
  · intro hopen
    rw [hstage] at hopen
    cases hopen
  · rintro count rfl
    cases hstage
  · intro c' hc' hloc
    right
    rw [(hgrows _).content?]
    exact h.absent hbefore c' hc' hloc

theorem Invariant.write (h : Invariant base dir first st) {c : Call} {written : Option Nat}
    {count : Nat} {time : Int} {files : FileTree} (hat : st.At c (.writing written))
    (hwrite : st.files.writeFile base (c.temporary dir) (c.content.take count) time = .ok files) :
    Invariant base dir first
      { st.move c (.writing (some count)) files with opened := c :: st.opened } := by
  obtain ⟨found, hfound⟩ := FileTree.exists_locate_of_writeFile hwrite
  obtain ⟨a, hput⟩ := FileTree.puts_writeFile hwrite (by
    rw [destination_temporary]
    exact h.ordinary c)
  rw [destination_temporary] at hput
  have hface : files.face? (temporaryAt base dir c) = some (.file a (c.content.take count)) := by
    rw [hput.2, if_pos rfl]
  refine h.advance hat.same (hput.changesOnly List.mem_cons_self) ?_ ?_ ?_ ?_ ?_
    (h.stored_of_changesOnly (hput.changesOnly (List.mem_singleton_self _)))
  · intro n hn
    rw [hface] at hn
    cases hn
    rfl
  · exact fun _ => FileTree.locate_of_keeps hput.keeps hfound
  · intro count' hcount
    cases hcount
    exact ⟨a, hface⟩
  · intro c' hc'
    exact (List.mem_cons.1 hc').symm
  · exact fun _ _ _ => Or.inl rfl

/-- The content that is put in the place of a baseline is stored, and no other one changes. -/
theorem Invariant.stored_of_puts (h : Invariant base dir first st) {c : Call} {u files : FileTree}
    {a : Attributes} (hgone : st.files.ChangesOnly [temporaryAt base dir c] u)
    (hput : u.Puts (fileAt base dir c) (some (.file a c.content)) files) :
    Stores base dir first files (c :: st.done) := by
  intro target htarget
  rw [List.find?_cons]
  by_cases htarget' : Utf8.encode c.snapshot.target = Utf8.encode target
  · have hloc : entryAt base dir (fileName target) = fileAt base dir c :=
      ((entryAt_eq_iff base dir).2 (encode_fileName_eq_iff.2 htarget')).symm
    simp only [htarget', decide_true]
    rw [held_eq htarget, hloc, hput.content?_self]
    rfl
  · have hloc : entryAt base dir (fileName target) ≠ fileAt base dir c := fun heq =>
      htarget' (encode_fileName_eq_iff.1 ((entryAt_eq_iff base dir).1 heq)).symm
    simp only [htarget', decide_false]
    rw [← h.stored_of_changesOnly hgone target htarget, held_eq htarget, held_eq htarget,
      FileTree.content?_eq, hput.2, if_neg hloc, ← FileTree.content?_eq]

theorem Invariant.replace (h : Invariant base dir first st) {c : Call} {time : Int}
    {files : FileTree} (hat : st.At c (.writing (some c.content.length)))
    (hrename : st.files.rename base (c.temporary dir) (c.file dir) time = .ok files) :
    Invariant base dir first { st.move c .returned files with done := c :: st.done } := by
  obtain ⟨a, ha⟩ := h.written c _ hat
  rw [List.take_length] at ha
  obtain ⟨u, hgone, hput⟩ :=
    FileTree.puts_rename hrename (by rw [destination_temporary]; exact ha) rfl
  rw [destination_temporary] at hgone
  rw [destination_file] at hput
  have hne : temporaryAt base dir c ≠ fileAt base dir c := temporaryAt_ne_file _ _
  have hnone : files.face? (temporaryAt base dir c) = none := by
    rw [hput.2, if_neg hne, hgone.2, if_pos rfl]
  refine h.advance hat.same ?_ ?_ ?_ ?_ (fun _ => Or.inl) ?_ ?_
  · exact (hgone.changesOnly List.mem_cons_self).trans (hput.changesOnly (by simp))
  · intro n hn
    rw [hnone] at hn
    cases hn
  · exact fun hopen => by cases hopen
  · exact fun count hcount => by cases hcount
  · exact fun _ _ _ => Or.inr (by rw [FileTree.content?_eq, hnone]; rfl)
  · exact h.stored_of_puts (hgone.changesOnly (List.mem_singleton_self _)) hput

theorem Invariant.fail (h : Invariant base dir first st) {c : Call} {written : Option Nat}
    (hat : st.At c (.writing written)) :
    Invariant base dir first (st.move c (.undoing written) st.files) := by
  have hgrows := FileTree.Grows.refl st.files
  refine h.advance hat.same (hgrows.changesOnly _) (h.ordinary c) ?_ ?_ (fun _ => Or.inl) ?_
    h.stored
  · exact fun hopen => h.follows c _ hat hopen
  · exact fun count hcount => by cases hcount
  · intro c' hc' hloc
    cases hwritten : written with
    | none =>
      rw [hwritten] at hat
      exact Or.inr (h.absent (hat.closed rfl) c' hc' hloc)
    | some count => exact Or.inl rfl

theorem Invariant.clear (h : Invariant base dir first st) {c : Call} {written : Option Nat}
    {time : Int} {s : Spot} {files : FileTree} (hat : st.At c (.undoing written))
    (hfind : st.files.find base (c.temporary dir) = .ok s) (hfile : s.node.isDirectory = false)
    (hremove : st.files.removeEntry s time = .ok files) :
    Invariant base dir first (st.move c .raised files) := by
  obtain ⟨hhas, hloc⟩ := FileTree.find_spot hfind
  have hput := FileTree.puts_removeEntry hremove hhas hfile
  rw [hloc, destination_temporary] at hput
  have hnone : files.face? (temporaryAt base dir c) = none := by rw [hput.2, if_pos rfl]
  refine h.advance hat.same (hput.changesOnly List.mem_cons_self) ?_ ?_ ?_ (fun _ => Or.inl) ?_
    (h.stored_of_changesOnly (hput.changesOnly (List.mem_singleton_self _)))
  · intro n hn
    rw [hnone] at hn
    cases hn
  · exact fun hopen => by cases hopen
  · exact fun count hcount => by cases hcount
  · exact fun _ _ _ => Or.inr (by rw [FileTree.content?_eq, hnone]; rfl)

theorem Invariant.leave (h : Invariant base dir first st) {c : Call} {written : Option Nat}
    (hat : st.At c (.undoing written))
    (hfind : ∀ s, st.files.find base (c.temporary dir) = .ok s → s.node.isDirectory = true) :
    Invariant base dir first (st.move c .raised st.files) := by
  have hgrows := FileTree.Grows.refl st.files
  refine h.advance hat.same (hgrows.changesOnly _) (h.ordinary c) ?_ ?_ (fun _ => Or.inl) ?_
    h.stored
  · exact fun hopen => by cases hopen
  · exact fun count hcount => by cases hcount
  · intro c' hc' hloc
    right
    cases hwritten : written with
    | none =>
      rw [hwritten] at hat
      exact h.absent (hat.closed rfl) c' hc' hloc
    | some count =>
      -- the way is open, so what is not found is not there
      rw [hwritten] at hat
      obtain ⟨found, hfound⟩ := h.follows c _ hat rfl
      have hpath : FileTree.asksDirectory (c.temporary dir) = false :=
        Path.asksDirectory_join dir (isName_temporaryName c.plain _ _)
      rw [FileTree.content?_eq, ← destination_temporary]
      rcases FileTree.find_of_locate hfound hpath with ⟨s, hs⟩ | ⟨-, hnone⟩
      · obtain ⟨hhas, hloc⟩ := FileTree.find_spot hs
        obtain ⟨b, hb⟩ := hhas.directoryAt (hfind s hs)
        rw [← hloc, hb]
        rfl
      · rw [hnone]
        rfl

/-- Every step keeps the invariant. -/
theorem Step.invariant (hstep : Step base dir st st') (h : Invariant base dir first st) :
    Invariant base dir first st' := by
  cases hstep with
  | call c hidle =>
    refine h.closed (FileTree.Grows.refl _) (fun c' stage' hat hp => ?_) rfl
    have hover := hidle c' stage' (hp ▸ hat)
    cases stage' <;> first | rfl | cases hover
  | makeDirectory hat hmake =>
    exact h.closed (FileTree.grows_makeDirectories hmake) (hat.closed rfl) rfl
  | refuse hat hmake => exact h.closed (FileTree.grows_makeDirectories hmake) (hat.closed rfl) rfl
  | reject hat => exact h.closed (FileTree.Grows.refl _) (hat.closed rfl) rfl
  | write hat _ hwrite => exact h.write hat hwrite
  | replace hat hrename => exact h.replace hat hrename
  | fail hat => exact h.fail hat
  | clear hat hfind hfile hremove => exact h.clear hat hfind hfile hremove
  | leave hat hfind => exact h.leave hat hfind

/-! ## Runs -/

/-- There is no device and no program where a call has its temporary file. -/
def NoDevices (base : Place) (dir : Text) (files : FileTree) : Prop :=
  ∀ (c : Call) (n : Node), files.node? (FileTree.destination base (c.temporary dir)) = some n →
    n.isOrdinary = true

theorem noDevices_iff : NoDevices base dir first ↔ ∀ (c : Call) (n : Node),
    first.face? (temporaryAt base dir c) = some n → n.isOrdinary = true := by
  constructor
  · intro h c n hn
    obtain ⟨m, hm, rfl⟩ := Option.map_eq_some_iff.1 hn
    rw [Node.isOrdinary_face]
    exact h c m (by rw [destination_temporary, hm])
  · intro h c n hn
    rw [destination_temporary] at hn
    rw [← Node.isOrdinary_face]
    exact h c n.face (by rw [FileTree.face?, hn]; rfl)

/-- At first no process is busy. -/
theorem idle_start (p : Nat) :
    ∀ c stage, (start first).calls p = some (c, stage) → stage.isOver = true := by
  intro c stage h
  cases h

theorem invariant_start (h : NoDevices base dir first) :
    Invariant base dir first (start first) where
  process _ _ _ hp := nomatch hp
  ordinary := noDevices_iff.1 h
  follows _ _ hat := nomatch hat
  written _ _ hat := nomatch hat
  owned _ hc := nomatch hc
  stored _ _ := rfl

/-- The invariant holds in every state of a run. -/
theorem Reachable.invariant (h : Reachable base dir first st) (hfirst : NoDevices base dir first) :
    Invariant base dir first st := by
  induction h with
  | refl => exact invariant_start hfirst
  | tail _ hstep ih => exact hstep.invariant ih

/-- A step that changes a baseline ends its call with success. -/
theorem Step.returned (hstep : Step base dir st st') (h : Invariant base dir first st)
    {target : Text} (htarget : Path.separator ∉ target)
    (hchanged : held base dir st'.files target ≠ held base dir st.files target) :
    ∃ c, st.At c (.writing (some c.content.length)) ∧ st'.At c .returned := by
  have hsame : st'.done = st.done → False := by
    intro hdone
    rw [(hstep.invariant h).stored target htarget, h.stored target htarget, hdone] at hchanged
    exact hchanged rfl
  cases hstep with
  | replace hat => exact ⟨_, hat, Function.update_self ..⟩
  | _ => exact absurd rfl hsame

end Writers

end SurfaceGuard.Baseline
