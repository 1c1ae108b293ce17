import SurfaceGuard.Proofs.Diff.Patch
import SurfaceGuard.Proofs.Text.Lines
import SurfaceGuard.Proofs.Text.Words

/-!
# Signatures

A declared symbol has its words as its signature, whatever its declaration is cut into
(`signature_is_word_list`).  Any other symbol has its kind and its title side by side, as they were
exported; white space in them stays in the signature, and from there it comes into the snapshot and
the lines of a report.  `isTidy_signature_iff` and `isSingleLine_signature_iff` say exactly when a
signature is free of it, and `stored_signatures_tidy_iff` carries this to snapshots and changes.
-/

namespace SurfaceGuard

/-! ## Lines in a wider sense -/

namespace Text

/-- The units that end a line: line feed, carriage return, and the two separators beyond ASCII. -/
def isLineBreak (u : CodeUnit) : Bool := u == 0x0A || u == 0x0D || u == 0x2028 || u == 0x2029

/-- A text without a line break of any kind. -/
def IsSingleLine (t : Text) : Prop := ∀ u ∈ t, isLineBreak u = false

instance (t : Text) : Decidable t.IsSingleLine := List.decidableBAll _ t

theorem isSingleLine_append {s t : Text} :
    IsSingleLine (s ++ t) ↔ s.IsSingleLine ∧ t.IsSingleLine := List.forall_mem_append

theorem IsSingleLine.isLine {t : Text} (h : t.IsSingleLine) : t.IsLine :=
  fun hmem => absurd (h _ hmem) (by decide)

/-- A line break is white space and no blank. -/
theorem IsTidy.isSingleLine {t : Text} (h : t.IsTidy) : t.IsSingleLine := by
  intro u hu
  by_contra hbreak
  rw [Bool.not_eq_false] at hbreak
  have hcases : u = 0x0A ∨ u = 0x0D ∨ u = 0x2028 ∨ u = 0x2029 := by
    simpa [isLineBreak, or_assoc] using hbreak
  have hblank : u = blank := by
    refine h.blanks u hu ?_
    rcases hcases with rfl | rfl | rfl | rfl <;> decide
  rw [hblank] at hcases
  exact absurd hcases (by decide)

end Text

namespace Symbol

open Text

/-! ## Declared symbols -/

/-- The symbol has a declaration with a piece or more. -/
def IsDeclared (s : Symbol) : Prop := ∃ fs, s.fragments = some fs ∧ fs ≠ []

theorem signature_of_fragments {s : Symbol} {fs : List Fragment} (h : s.fragments = some fs)
    (hne : fs ≠ []) : s.signature = fold (declaration fs) := by
  obtain ⟨f, fs, rfl⟩ := List.exists_cons_of_ne_nil hne
  rw [signature, h]

/-- The signature of a declared symbol is its word list.  The words are the maximal runs of the
whole declaration, single blanks are between them, and symbols have the same signature if and only
if the words of their declarations are the same. -/
theorem signature_is_word_list (s : Symbol) (fs : List Fragment) (h : s.fragments = some fs)
    (hne : fs ≠ []) :
    (∀ ws, IsRuns (declaration fs) ws ↔ ws = words (declaration fs))
      ∧ s.signature = join [blank] (words (declaration fs))
      ∧ s.signature.IsTidy ∧ fold s.signature = s.signature
      ∧ ∀ (s' : Symbol) (fs' : List Fragment), s'.fragments = some fs' → fs' ≠ [] →
        (s.signature = s'.signature ↔ words (declaration fs) = words (declaration fs')) := by
  have hsignature := signature_of_fragments h hne
  have htidy : s.signature.IsTidy := hsignature ▸ isTidy_fold _
  refine ⟨fun ws => isRuns_iff, hsignature.trans (fold_eq_join_words _), htidy,
    fold_of_isTidy htidy, fun s' fs' h' hne' => ?_⟩
  rw [hsignature, signature_of_fragments h' hne', fold_eq_fold_iff]

/-- White space at the border of two pieces, within a piece, and as a piece of its own. -/
theorem signature_is_word_list_of_pieces :
    let symbol (fragments : List Fragment) : Symbol :=
      ⟨"s:f", "f", "swift.func", none, some "public", some fragments⟩
    let fs : List Fragment := [⟨"keyword", " func"⟩, ⟨"text", "\t"⟩, ⟨"identifier", "f("⟩,
      ⟨"text", "\n    x: "⟩, ⟨"typeIdentifier", "Int"⟩, ⟨"text", ")  "⟩]
    let fs' : List Fragment := [⟨"text", "fun"⟩, ⟨"text", "c f( x:"⟩, ⟨"text", " Int)"⟩]
    (symbol fs).fragments = some fs ∧ fs ≠ [] ∧ (symbol fs').fragments = some fs' ∧ fs' ≠ []
      ∧ (symbol fs).signature = "func f( x: Int)" ∧ (symbol fs).signature.IsTidy
      ∧ (symbol fs).signature = (symbol fs').signature := by
  intro symbol fs fs'
  have hne : fs ≠ [] := List.cons_ne_nil _ _
  have hne' : fs' ≠ [] := List.cons_ne_nil _ _
  obtain ⟨-, hjoin, htidy, -, hsame⟩ := signature_is_word_list (symbol fs) fs rfl hne
  exact ⟨rfl, hne, rfl, hne', hjoin.trans (by decide), htidy,
    (hsame (symbol fs') fs' rfl hne').2 (by decide)⟩

/-! ## Other symbols -/

theorem signature_of_not_isDeclared {s : Symbol} (h : ¬s.IsDeclared) :
    s.signature = s.kind ++ blank :: s.title := by
  have hsignature : s.signature = s.kind ++ " " ++ s.title := by
    rw [signature]
    split
    · next f fs hfs => exact absurd ⟨_, hfs, List.cons_ne_nil f fs⟩ h
    · rfl
  rw [hsignature, List.append_assoc]
  rfl

/-- A signature is tidy exactly if the symbol is declared or has a kind and a title that are. -/
theorem isTidy_signature_iff {s : Symbol} : s.signature.IsTidy ↔
    s.IsDeclared ∨ (s.kind ≠ [] ∧ s.kind.IsTidy) ∧ s.title ≠ [] ∧ s.title.IsTidy := by
  by_cases h : s.IsDeclared
  · obtain ⟨fs, hfs, hne⟩ := h
    rw [signature_of_fragments hfs hne]
    exact iff_of_true (isTidy_fold _) (Or.inl ⟨fs, hfs, hne⟩)
  · rw [signature_of_not_isDeclared h, isTidy_append_blank_iff, or_iff_right h]

/-- A signature is a single line exactly if the symbol is declared or has a kind and a title that
are. -/
theorem isSingleLine_signature_iff {s : Symbol} : s.signature.IsSingleLine ↔
    s.IsDeclared ∨ s.kind.IsSingleLine ∧ s.title.IsSingleLine := by
  by_cases h : s.IsDeclared
  · exact iff_of_true (isTidy_signature_iff.2 (Or.inl h)).isSingleLine (Or.inl h)
  · rw [signature_of_not_isDeclared h, List.append_cons, isSingleLine_append, isSingleLine_append,
      or_iff_right h]
    have hblank : IsSingleLine [blank] := by decide
    rw [and_iff_left hblank]

end Symbol

/-! ## What is stored and reported -/

namespace SignatureChange

open Text

/-- The three parts of a change as it is shown. -/
def parts (c : SignatureChange) : List Text :=
  ["@@ " ++ c.identifier, "- " ++ c.before, "+ " ++ c.after]

theorem text_eq_lines (c : SignatureChange) : c.text = lines c.parts := rfl

theorem parts_isSingleLine_iff {c : SignatureChange} : (∀ part ∈ c.parts, part.IsSingleLine) ↔
    c.identifier.IsSingleLine ∧ c.before.IsSingleLine ∧ c.after.IsSingleLine := by
  have hat : IsSingleLine "@@ " := by decide
  have hminus : IsSingleLine "- " := by decide
  have hplus : IsSingleLine "+ " := by decide
  rw [parts, List.forall_mem_cons, List.forall_mem_cons, List.forall_mem_singleton,
    isSingleLine_append, isSingleLine_append, isSingleLine_append, and_iff_right hat,
    and_iff_right hminus, and_iff_right hplus]

/-- Parts that are single lines are the lines of the text. -/
theorem linesOf_text {c : SignatureChange} (h : ∀ part ∈ c.parts, part.IsSingleLine) :
    linesOf c.text = c.parts := by
  have hne : c.parts ≠ [] := List.cons_ne_nil _ _
  rw [text_eq_lines, linesOf_lines hne,
    flatMap_linesOf_of_isLine fun part hpart => (h part hpart).isLine]

end SignatureChange

namespace Graph

open Text

/-- The last visible symbol with the given identifier. -/
def last? (graph : Graph) (id : Text) : Option Symbol := (graph.occurrences id).getLast?

theorem get?_table_eq_some_iff {graph : Graph} {id signature : Text} :
    graph.table.get? id = some signature ↔
      ∃ s, graph.last? id = some s ∧ s.signature = signature := by
  rw [get?_table]
  exact Option.map_eq_some_iff

theorem snapshot?_zero (graph : Graph) (target : Text) : graph.snapshot? target (.zero false)
    = some ⟨target, "1970-01-01T00:00:00.000Z", graph.table⟩ := by
  rw [snapshot?, Timestamp.text?_zero]
  rfl

/-- What is stored is tidy exactly where it comes from a declaration, or from a kind and a title
that are tidy.  So the parts in which a change is shown are single lines exactly if the identifier
is one and both signatures come from a declaration, or from a kind and a title that are single
lines; and then they are the lines that are read. -/
theorem stored_signatures_tidy_iff (old new : Graph) (target target' : Text) (now now' : Number)
    (hnow : Timestamp.IsValid now) (hnow' : Timestamp.IsValid now') :
    ∃ s s', old.snapshot? target now = some s ∧ new.snapshot? target' now' = some s'
      ∧ (∀ id signature, s.symbols.get? id = some signature →
        ∃ symbol, old.last? id = some symbol ∧ symbol.signature = signature
          ∧ (signature.IsTidy ↔ symbol.IsDeclared
            ∨ (symbol.kind ≠ [] ∧ symbol.kind.IsTidy) ∧ symbol.title ≠ [] ∧ symbol.title.IsTidy))
      ∧ ∀ c ∈ (Diff.between s s').changes s s',
        ∃ before after, old.last? c.identifier = some before ∧ before.signature = c.before
          ∧ new.last? c.identifier = some after ∧ after.signature = c.after
          ∧ ((∀ part ∈ c.parts, part.IsSingleLine) ↔ c.identifier.IsSingleLine
            ∧ (before.IsDeclared ∨ before.kind.IsSingleLine ∧ before.title.IsSingleLine)
            ∧ (after.IsDeclared ∨ after.kind.IsSingleLine ∧ after.title.IsSingleLine))
          ∧ c.text = lines c.parts
          ∧ ((∀ part ∈ c.parts, part.IsSingleLine) → linesOf c.text = c.parts) := by
  obtain ⟨s, hs, htable⟩ := exists_snapshot? hnow old target
  obtain ⟨s', hs', htable'⟩ := exists_snapshot? hnow' new target'
  refine ⟨s, s', hs, hs', fun id signature hget => ?_, fun c hc => ?_⟩
  · rw [htable] at hget
    obtain ⟨symbol, hlast, rfl⟩ := get?_table_eq_some_iff.1 hget
    exact ⟨symbol, hlast, rfl, Symbol.isTidy_signature_iff⟩
  · obtain ⟨hbefore, hafter, -⟩ := Diff.change_between s s' hc
    rw [htable] at hbefore
    rw [htable'] at hafter
    obtain ⟨before, hlast, hb⟩ := get?_table_eq_some_iff.1 hbefore
    obtain ⟨after, hlast', ha⟩ := get?_table_eq_some_iff.1 hafter
    refine ⟨before, after, hlast, hb, hlast', ha, ?_, SignatureChange.text_eq_lines c,
      SignatureChange.linesOf_text⟩
    rw [SignatureChange.parts_isSingleLine_iff, ← hb, ← ha, Symbol.isSingleLine_signature_iff,
      Symbol.isSingleLine_signature_iff]

/-- A symbol without a declaration that is given one with a line break. -/
theorem stored_signatures_tidy_iff_of_declaration :
    let old : Graph := ⟨[⟨"s:f", "f", "func", none, some "public", none⟩]⟩
    let new : Graph :=
      ⟨[⟨"s:f", "f", "func", none, some "public", some [⟨"text", "func f(\n x: Int)"⟩]⟩]⟩
    Timestamp.IsValid (.zero false)
      ∧ ∃ s s', old.snapshot? "Mod" (.zero false) = some s
        ∧ new.snapshot? "Mod" (.zero false) = some s'
        ∧ (Diff.between s s').changes s s' = [⟨"s:f", "func f", "func f( x: Int)"⟩]
        ∧ ∀ c ∈ (Diff.between s s').changes s s', linesOf c.text = c.parts := by
  intro old new
  have hzero := Timestamp.isValid_zero
  obtain ⟨s, s', hs, hs', -, hlines⟩ :=
    stored_signatures_tidy_iff old new "Mod" "Mod" (.zero false) (.zero false) hzero hzero
  have hchanges : (Diff.between s s').changes s s' = [⟨"s:f", "func f", "func f( x: Int)"⟩] := by
    rw [snapshot?_zero, Option.some.injEq] at hs hs'
    rw [← hs, ← hs']
    decide +kernel
  refine ⟨hzero, s, s', hs, hs', hchanges, fun c hc => ?_⟩
  obtain ⟨_, _, -, -, -, -, -, -, hread⟩ := hlines c hc
  refine hread ?_
  rw [hchanges, List.mem_singleton] at hc
  rw [hc]
  decide

/-- A title with a line feed, which JSON writes as an escape: it is stored as it is, and a change to
it is shown in more lines than its parts. -/
theorem stored_signature_untidy :
    let text (title : Text) : Text :=
      "\x7b\"symbols\":[\x7b\"identifier\":\x7b\"precise\":\"s:f\"\x7d,\"names\":\x7b\"title\":\""
        ++ title ++ "\"\x7d,\"kind\":\x7b\"identifier\":\"func\"\x7d"
        ++ ",\"accessLevel\":\"public\"\x7d]\x7d"
    ∃ old new s s', parse (text "a") "old" = .ok old ∧ parse (text "a\\nb") "new" = .ok new
      ∧ old.snapshot? "Mod" (.zero false) = some s ∧ new.snapshot? "Mod" (.zero false) = some s'
      ∧ (¬∀ id signature, s'.symbols.get? id = some signature → signature.IsTidy)
      ∧ ¬∀ c ∈ (Diff.between s s').changes s s', c.identifier.IsSingleLine →
        ∀ part ∈ c.parts, part.IsSingleLine := by
  intro text
  let old : Graph := ⟨[⟨"s:f", "a", "func", none, some "public", none⟩]⟩
  let new : Graph := ⟨[⟨"s:f", "a\nb", "func", none, some "public", none⟩]⟩
  have hparses : parse (text "a") "old" = .ok old ∧ parse (text "a\\nb") "new" = .ok new := by
    decide +kernel
  obtain ⟨hold, hnew⟩ := hparses
  refine ⟨old, new, _, _, hold, hnew, snapshot?_zero old "Mod", snapshot?_zero new "Mod",
    fun htidy => ?_, fun hlines => ?_⟩
  · have hget : new.table.get? "s:f" = some ("func a\nb" : Text) := by decide
    exact absurd (htidy _ _ hget) (by decide)
  · have hchange := hlines ⟨"s:f", "func a", "func a\nb"⟩ (by decide +kernel) (by decide)
    exact absurd hchange (by decide)

end Graph

end SurfaceGuard
