import SurfaceGuard.Policy
import SurfaceGuard.Proofs.Text.Lines

/-!
# What a report tells

The report of a decision is lines of text, with identifiers on some of them that may be any text of
one line: one that looks like a heading, a count or a result, say.  It can be read nevertheless.  A
listing says in its heading how many lines follow, so that the rest of the report starts at a known
place (`listing_append_inj`), and each kind of line is what it is by its place.

So a report determines the target, the removed and the changed identifiers, the number of added
ones and the outcome, and it is determined by them (`report_eq_iff`).
-/

namespace SurfaceGuard

/-- The names that a report repeats are lines. -/
structure Diff.IsOneLined (d : Diff) : Prop where
  target : d.target.IsLine
  removed : ∀ id ∈ d.removed, id.IsLine
  changed : ∀ id ∈ d.changed, id.IsLine

theorem Text.ofNat_injective {m n : Nat} (h : ofNat m = ofNat n) : m = n := by
  rw [← toNat_ofNat m, h, toNat_ofNat]

namespace Policy

/-! ## Listings -/

/-- A heading with a count, and as many lines with a mark in front. -/
def listing (heading mark : Text) (ids : List Text) : List Text :=
  (heading ++ Text.ofNat ids.length) :: ids.map (mark ++ ·)

/-- A listing ends where its heading says, whatever is listed and whatever follows. -/
theorem listing_append_inj {heading mark : Text} {ids ids' rest rest' : List Text}
    (h : listing heading mark ids ++ rest = listing heading mark ids' ++ rest') :
    ids = ids' ∧ rest = rest' := by
  obtain ⟨hheading, hlines⟩ := List.cons.inj h
  have hlength : ids.length = ids'.length :=
    Text.ofNat_injective (List.append_cancel_left hheading)
  have hmapped : (ids.map (mark ++ ·)).length = (ids'.map (mark ++ ·)).length := by
    rw [List.length_map, List.length_map, hlength]
  obtain ⟨hids, hrest⟩ := List.append_inj hlines hmapped
  exact ⟨List.map_injective_iff.2 (List.append_right_injective mark) hids, hrest⟩

theorem isLine_of_mem_listing {heading mark : Text} {ids : List Text} (hheading : heading.IsLine)
    (hmark : mark.IsLine) (hids : ∀ id ∈ ids, id.IsLine) :
    ∀ line ∈ listing heading mark ids, line.IsLine := by
  refine List.forall_mem_cons.2 ⟨Text.isLine_append.2 ⟨hheading, Text.isLine_ofNat _⟩, ?_⟩
  intro line hline
  obtain ⟨id, hid, rfl⟩ := List.mem_map.1 hline
  exact Text.isLine_append.2 ⟨hmark, hids id hid⟩

/-! ## The lines of a report -/

variable {d d' : Diff} {o o' : Option Objection}

theorem reportLines_eq (d : Diff) (o : Option Objection) :
    reportLines d o = ("Target: " ++ d.target)
      :: (listing "  Removed: " "    - " d.removed
        ++ (listing "  Changed: " "    ~ " d.changed
          ++ ["  Added: " ++ Text.ofNat d.added.length, resultLine o])) := by
  simp only [reportLines, listing, List.cons_append, List.nil_append, List.append_assoc]

theorem isLine_resultLine (o : Option Objection) : (resultLine o).IsLine := by
  rcases o with _ | _ | _ | _ <;> decide

/-- No part of a report is cut if the names in it are lines. -/
theorem linesOf_report (hd : d.IsOneLined) (o : Option Objection) :
    Text.linesOf (Text.lines (reportLines d o)) = reportLines d o := by
  have hlines : ∀ line ∈ reportLines d o, line.IsLine := by
    rw [reportLines_eq, List.forall_mem_cons, List.forall_mem_append, List.forall_mem_append,
      List.forall_mem_cons, List.forall_mem_singleton]
    exact ⟨Text.isLine_append.2 ⟨by decide, hd.target⟩,
      isLine_of_mem_listing (by decide) (by decide) hd.removed,
      isLine_of_mem_listing (by decide) (by decide) hd.changed,
      Text.isLine_append.2 ⟨by decide, Text.isLine_ofNat _⟩, isLine_resultLine o⟩
  have hsome : reportLines d o ≠ [] := by
    rw [reportLines_eq]
    exact List.cons_ne_nil _ _
  rw [Text.linesOf_lines hsome, Text.flatMap_linesOf_of_isLine hlines]

theorem resultLine_injective (h : resultLine o = resultLine o') : o = o' := by
  revert o o'
  rintro (_ | _ | _ | _) (_ | _ | _ | _) h <;> first | rfl | exact absurd h (by decide)

theorem reportLines_inj (h : reportLines d o = reportLines d' o') :
    d.target = d'.target ∧ d.removed = d'.removed ∧ d.changed = d'.changed
      ∧ d.added.length = d'.added.length ∧ o = o' := by
  rw [reportLines_eq, reportLines_eq] at h
  obtain ⟨htarget, hlistings⟩ := List.cons.inj h
  obtain ⟨hremoved, hrest⟩ := listing_append_inj hlistings
  obtain ⟨hchanged, hend⟩ := listing_append_inj hrest
  obtain ⟨hadded, hresult⟩ := List.cons.inj hend
  exact ⟨List.append_cancel_left htarget, hremoved, hchanged,
    Text.ofNat_injective (List.append_cancel_left hadded),
    resultLine_injective (List.head_eq_of_cons_eq hresult)⟩

/-! ## Decisions -/

/-- The objection that an outcome stands for, if one knows whether anything breaks. -/
def objectionOf? (outcome : Outcome) (isBreaking : Bool) : Option Objection :=
  match outcome, isBreaking with
  | .pass, _ => none
  | .strictViolation, _ => some .anyChange
  | .breakingChange, true => some .breaking
  | .breakingChange, false => some .addition

/-- Additions are only objected to where nothing breaks, so no two objections to a diff lead to the
same outcome. -/
theorem objectionOf?_outcome (d : Diff) (mode : Mode) (failOnAdditions : Bool) :
    objectionOf? (evaluate d mode failOnAdditions).outcome (isBreaking d)
      = objection? d mode failOnAdditions := by
  unfold evaluate objection?
  cases mode with
  | strict => cases isBreaking d <;> cases isAdding d <;> rfl
  | semver => cases isBreaking d <;> cases failOnAdditions <;> cases isAdding d <;> rfl

/-- Two reports are the same text if and only if they are about the same target, list the same
removed and the same changed identifiers, count as many added ones, and come to the same verdict.
So nothing that an identifier looks like can make one report stand for another. -/
theorem report_eq_iff {d d' : Diff} (hd : d.IsOneLined) (hd' : d'.IsOneLined) (mode mode' : Mode)
    (failOnAdditions failOnAdditions' : Bool) :
    (evaluate d mode failOnAdditions).report = (evaluate d' mode' failOnAdditions').report ↔
      d.target = d'.target ∧ d.removed = d'.removed ∧ d.changed = d'.changed
        ∧ d.added.length = d'.added.length
        ∧ (evaluate d mode failOnAdditions).passed = (evaluate d' mode' failOnAdditions').passed
        ∧ (evaluate d mode failOnAdditions).outcome
          = (evaluate d' mode' failOnAdditions').outcome := by
  constructor
  · intro h
    have hlines := congrArg Text.linesOf h
    simp only [evaluate] at hlines
    rw [linesOf_report hd, linesOf_report hd'] at hlines
    obtain ⟨htarget, hremoved, hchanged, hadded, hobjection⟩ := reportLines_inj hlines
    refine ⟨htarget, hremoved, hchanged, hadded, ?_, ?_⟩
    · simp only [evaluate, hobjection]
    · simp only [evaluate, hobjection]
  · rintro ⟨htarget, hremoved, hchanged, hadded, -, houtcome⟩
    have hbreaking : isBreaking d = isBreaking d' := by rw [isBreaking, hremoved, hchanged]; rfl
    have hobjection : objection? d mode failOnAdditions
        = objection? d' mode' failOnAdditions' := by
      rw [← objectionOf?_outcome, houtcome, hbreaking, objectionOf?_outcome]
    simp only [evaluate, hobjection, reportLines, htarget, hremoved, hchanged, hadded]

/-- An identifier that looks like a line of a report is no such line, and which identifiers were
added cannot be read. -/
theorem report_eq_iff_of_imitation :
    let heading : Diff := ⟨"M", ["s:a"], ["  Changed: 1", "s:b"], []⟩
    let listed : Diff := ⟨"M", ["s:c"], ["  Changed: 1"], ["s:b"]⟩
    let other : Diff := ⟨"M", ["s:c"], ["  Changed: 1", "s:b"], []⟩
    (evaluate heading .semver false).report ≠ (evaluate listed .semver false).report
      ∧ (evaluate heading .semver false).report = (evaluate other .semver true).report := by
  intro heading listed other
  have hheading : heading.IsOneLined := ⟨by decide, by decide, by decide⟩
  have hlisted : listed.IsOneLined := ⟨by decide, by decide, by decide⟩
  have hother : other.IsOneLined := ⟨by decide, by decide, by decide⟩
  constructor
  · rw [Ne, report_eq_iff hheading hlisted]
    decide
  · rw [report_eq_iff hheading hother]
    decide

end Policy

end SurfaceGuard
