import SurfaceGuard.Proofs.Baseline.Access

/-!
# Slots of a directory

In a directory of baselines each target that is a name has a slot: its baseline, and the place of
its temporary file.  A save that succeeds changes the slot of its target as `Slot.store` says, and
no slot of a target with other bytes (`slot_of_save`).

A device or a program in the place of the temporary file takes no content, but is put in the place
of the baseline all the same.  So the first save into a blocked slot leaves no baseline behind,
and frees the slot.
-/

namespace SurfaceGuard

/-- Is a device or a program there? -/
def FileTree.isBlocked (t : FileTree) (loc : Location) : Bool :=
  (t.face? loc).any fun n => !n.isOrdinary

theorem FileTree.isBlocked_eq_false_iff {t : FileTree} {loc : Location} :
    t.isBlocked loc = false ↔ ∀ n, t.face? loc = some n → n.isOrdinary = true := by
  unfold isBlocked
  cases t.face? loc <;> simp

theorem FileTree.StaysAt.isBlocked {t t' : FileTree} {loc : Location} (h : t.StaysAt t' loc) :
    t'.isBlocked loc = t.isBlocked loc := by
  unfold FileTree.isBlocked
  rcases h with heq | ⟨hnone, a, ha⟩
  · rw [heq]
  · rw [hnone, ha]
    rfl

namespace Baseline

open Writers

variable {dir : Text} {w w' : World}

/-- What decides what becomes of a baseline. -/
structure Slot where
  /-- The content of the baseline, if there is one. -/
  content : Option Bytes
  /-- Is a device or a program in the place of the temporary file? -/
  isBlocked : Bool
  deriving DecidableEq

/-- The slot of a target. -/
def slot (dir : Text) (w : World) (target : Text) : Slot :=
  ⟨held w.directory dir w.files target,
    w.files.isBlocked (entryAt w.directory dir (temporaryName target w.processId w.clock))⟩

/-- The slot after a snapshot was stored in it. -/
def Slot.store (s : Snapshot) (x : Slot) : Slot :=
  ⟨if x.isBlocked then none else some (encode s), false⟩

theorem place_of_name {target : Text} (h : Path.separator ∉ target) (dir : Text) (w : World) :
    place dir target w = entryAt w.directory dir (fileName target) := by
  rw [place, path_eq_join, Path.destination_join _ _ (isName_fileName h), entryAt]

theorem temporaryPlace_of_name {s : Snapshot} (h : Path.separator ∉ s.target) (dir : Text)
    (w : World) : temporaryPlace s dir w
      = entryAt w.directory dir (temporaryName s.target w.processId w.clock) := by
  rw [temporaryPlace, temporaryPath_eq_join, Path.destination_join _ _ (isName_temporaryName h _ _),
    entryAt]

theorem slot_eq {target : Text} (h : Path.separator ∉ target) (dir : Text) (w : World) :
    slot dir w target = ⟨w.files.content? (entryAt w.directory dir (fileName target)),
      w.files.isBlocked (entryAt w.directory dir (temporaryName target w.processId w.clock))⟩ := by
  rw [slot, held_eq h]

/-- Names with the same bytes have one slot. -/
theorem slot_of_encode_eq {target other : Text} (ht : Path.separator ∉ target)
    (ho : Path.separator ∉ other) (h : Utf8.encode target = Utf8.encode other) :
    slot dir w target = slot dir w other := by
  rw [slot_eq ht, slot_eq ho, (entryAt_eq_iff _ _).2 (encode_fileName_eq_iff.2 h),
    (entryAt_eq_iff _ _).2 (encode_temporaryName_eq_iff.2 h)]

theorem entryAt_temporaryName_ne {base : Place} {target other : Text} {processId : Nat}
    {clock : Number} : entryAt base dir (temporaryName target processId clock)
      ≠ entryAt base dir (fileName other) :=
  fun heq => temporaryName_ne_fileName _ _ _ _ ((entryAt_eq_iff _ _).1 heq)

section Save

variable {s : Snapshot} {made : FileTree} {node : Node} {target : Text}

/-- The slot in which a snapshot was stored. -/
theorem Stored.slot_self (h : Stored s dir w made node w') (hs : Path.separator ∉ s.target) :
    slot dir w' s.target = (slot dir w s.target).store s := by
  have hface := h.face?
  have hnode := h.node
  rw [place_of_name hs, temporaryPlace_of_name hs] at hface
  rw [temporaryPlace_of_name hs] at hnode
  have hcontent : w'.files.content? (entryAt w.directory dir (fileName s.target))
      = node.content? := by
    rw [FileTree.content?_eq, hface, if_pos rfl]
    rfl
  have hgone : w'.files.isBlocked
      (entryAt w.directory dir (temporaryName s.target w.processId w.clock)) = false := by
    rw [FileTree.isBlocked, hface, if_neg entryAt_temporaryName_ne, if_pos rfl]
    rfl
  rw [slot_eq hs, slot_eq hs, h.stays.directory, h.stays.processId, h.stays.clock, hcontent,
    hgone, Slot.store, ← (h.grows _).isBlocked]
  -- What was renamed is a file with the content, or what blocked the slot.
  rcases hnode with ⟨hordinary, a, rfl⟩ | ⟨hspecial, hthere⟩
  · rw [FileTree.isBlocked_eq_false_iff.2 hordinary]
    rfl
  · have hblocked : made.isBlocked
        (entryAt w.directory dir (temporaryName s.target w.processId w.clock)) = true := by
      rw [FileTree.isBlocked, hthere, Option.any_some, hspecial]
      rfl
    rw [hblocked]
    rcases Node.special_of_not_ordinary hspecial with ⟨a, name, rfl⟩ | ⟨a, kind, rfl⟩ <;> rfl

/-- The slot of a target with other bytes stays. -/
theorem Stored.slot_of_ne (h : Stored s dir w made node w') (hs : Path.separator ∉ s.target)
    (ht : Path.separator ∉ target) (hother : Utf8.encode s.target ≠ Utf8.encode target) :
    slot dir w' target = slot dir w target := by
  have hface := h.face?
  rw [place_of_name hs, temporaryPlace_of_name hs] at hface
  have hfile : entryAt w.directory dir (fileName target)
      ≠ entryAt w.directory dir (fileName s.target) := fun heq =>
    hother (encode_fileName_eq_iff.1 ((entryAt_eq_iff _ _).1 heq)).symm
  have htemporary : entryAt w.directory dir (temporaryName target w.processId w.clock)
      ≠ entryAt w.directory dir (temporaryName s.target w.processId w.clock) := fun heq =>
    hother (encode_temporaryName_eq_iff.1 ((entryAt_eq_iff _ _).1 heq)).symm
  rw [slot_eq ht, slot_eq ht, h.stays.directory, h.stays.processId, h.stays.clock]
  rw [FileTree.content?_eq, hface, if_neg hfile, if_neg entryAt_temporaryName_ne.symm,
    ← FileTree.content?_eq, (h.grows _).content?]
  rw [FileTree.isBlocked, hface, if_neg entryAt_temporaryName_ne, if_neg htemporary,
    ← FileTree.isBlocked, (h.grows _).isBlocked]

/-- A save that succeeds changes the slot of its target and no other one. -/
theorem slot_of_save {file : Text} (h : save s dir w = (.ok file, w'))
    (hs : Path.separator ∉ s.target) (ht : Path.separator ∉ target) :
    slot dir w' target = if Utf8.encode s.target = Utf8.encode target
      then (slot dir w target).store s else slot dir w target := by
  obtain ⟨-, made, node, hstored⟩ := save_ok_cases h
  by_cases hsame : Utf8.encode s.target = Utf8.encode target
  · rw [if_pos hsame, ← slot_of_encode_eq hs ht hsame, ← slot_of_encode_eq hs ht hsame]
    exact hstored.slot_self hs
  · rw [if_neg hsame]
    exact hstored.slot_of_ne hs ht hsame

end Save

end Baseline

end SurfaceGuard
