import SurfaceGuard.Proofs.Text.Encoding
import SurfaceGuard.Proofs.Text.Numeral

/-!
# The lines of a text

A reader of a report cuts it at its line feeds, whatever the parts are that it was put together
from.  A part may have line feeds of its own, as names and messages do; cutting then gives the lines
of all parts, in order (`linesOf_lines`).  What is read at a fixed place, such as the last line or
the line below a table, is a part of its own again as long as that part is one line
(`lastLine_of_linesOf`, `belowTable?_of_linesOf`).
-/

namespace SurfaceGuard.Text

/-! ## Cutting -/

/-- The pieces between the line feeds of a text. -/
def linesOf (t : Text) : List Text := splitOn 0x0A t

/-- A text without a line feed. -/
def IsLine (t : Text) : Prop := (0x0A : CodeUnit) ∉ t

instance (t : Text) : Decidable t.IsLine := inferInstanceAs (Decidable (_ ∉ t))

theorem isLine_append {s t : Text} : IsLine (s ++ t) ↔ s.IsLine ∧ t.IsLine := by
  unfold IsLine
  rw [List.mem_append, not_or]

theorem isLine_ofNat (n : Nat) : IsLine (ofNat n) :=
  fun h => absurd (ofNat_digits n _ h) (by decide)

theorem linesOf_of_isLine {t : Text} (h : t.IsLine) : linesOf t = [t] := by
  rw [linesOf, splitOn_eq, List.splitOn_eq_singleton h]

theorem linesOf_append_newline (s t : Text) :
    linesOf (s ++ newline ++ t) = linesOf s ++ linesOf t := by
  rw [linesOf, linesOf, linesOf, splitOn_eq, splitOn_eq, splitOn_eq, newline, List.append_assoc,
    List.singleton_append, List.splitOn_append_cons_self]

/-- Cutting parts that were joined gives the lines of the parts. -/
theorem linesOf_lines {parts : List Text} (h : parts ≠ []) :
    linesOf (lines parts) = parts.flatMap linesOf := by
  induction parts with
  | nil => exact absurd rfl h
  | cons part parts ih =>
    cases parts with
    | nil => simp [lines, join]
    | cons next rest =>
      have hlines : lines (part :: next :: rest) = part ++ newline ++ lines (next :: rest) := by
        simp [lines, join]
      rw [hlines, linesOf_append_newline, ih (List.cons_ne_nil _ _)]
      rfl

theorem flatMap_linesOf_of_isLine {parts : List Text} (h : ∀ part ∈ parts, part.IsLine) :
    parts.flatMap linesOf = parts := by
  induction parts with
  | nil => rfl
  | cons part parts ih =>
    obtain ⟨hpart, hparts⟩ := List.forall_mem_cons.1 h
    rw [List.flatMap_cons, linesOf_of_isLine hpart, ih hparts, List.singleton_append]

theorem linesOf_lines_concat {parts : List Text} {line : Text} (hone : line.IsLine) :
    linesOf (lines (parts ++ [line])) = parts.flatMap linesOf ++ [line] := by
  rw [linesOf_lines (List.append_ne_nil_of_right_ne_nil _ (List.cons_ne_nil _ _)),
    List.flatMap_append, List.flatMap_singleton, linesOf_of_isLine hone]

/-! ## Reading at a place -/

/-- The last line of a text.  A line feed at the end of the text ends a line and starts no other. -/
def lastLine (t : Text) : Text :=
  match (linesOf t).reverse with
  | [] :: line :: _ => line
  | line :: _ => line
  | [] => []

theorem lastLine_of_linesOf {t line : Text} {before : List Text} (hline : line ≠ [])
    (h : linesOf t = before ++ [line]) : lastLine t = line := by
  rw [lastLine, h, List.reverse_append, List.reverse_singleton, List.singleton_append]
  cases line with
  | nil => exact absurd rfl hline
  | cons u line => rfl

theorem lastLine_of_linesOf_newline {t line : Text} {before : List Text}
    (h : linesOf t = before ++ [line, []]) : lastLine t = line := by
  rw [lastLine, h, List.reverse_append]
  rfl

/-- The last part of a text is its last line if it is one line. -/
theorem lastLine_lines {parts : List Text} {line : Text} (hone : line.IsLine) (hline : line ≠ []) :
    lastLine (lines (parts ++ [line])) = line :=
  lastLine_of_linesOf hline (linesOf_lines_concat hone)

/-- So it is with a line feed at the end. -/
theorem lastLine_lines_newline {parts : List Text} {line : Text} (hone : line.IsLine) :
    lastLine (lines (parts ++ [line]) ++ newline) = line := by
  have hend := linesOf_append_newline (lines (parts ++ [line])) []
  rw [List.append_nil, linesOf_lines_concat hone, List.append_assoc] at hend
  exact lastLine_of_linesOf_newline hend

/-- Is the line a row of a table? -/
def isRow (line : Text) : Bool := line.head? == some 0x7C

/-- The first line below the first table of a text that has something in it. -/
def belowTable? (t : Text) : Option Text :=
  (((linesOf t).dropWhile fun line => !isRow line).dropWhile isRow).find? fun line => !line.isEmpty

theorem belowTable?_of_linesOf {t line : Text} {before rows rest : List Text}
    (h : linesOf t = before ++ (rows ++ [] :: line :: rest))
    (hbefore : ∀ s ∈ before, isRow s = false) (hrows : ∀ s ∈ rows, isRow s = true)
    (hsome : rows ≠ []) (hline : line ≠ []) : belowTable? t = some line := by
  have hskip : (linesOf t).dropWhile (fun s => !isRow s) = rows ++ [] :: line :: rest := by
    rw [h, List.dropWhile_append_of_pos (fun s hs => by rw [hbefore s hs]; rfl)]
    cases rows with
    | nil => exact absurd rfl hsome
    | cons row rows =>
      refine List.dropWhile_cons_of_neg ?_
      rw [hrows row List.mem_cons_self]
      exact Bool.false_ne_true
  have htable : (rows ++ [] :: line :: rest).dropWhile isRow = [] :: line :: rest :=
    List.dropWhile_append_of_pos hrows
  rw [belowTable?, hskip, htable]
  cases line with
  | nil => exact absurd rfl hline
  | cons u line => rfl

end SurfaceGuard.Text
