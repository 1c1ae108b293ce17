import SurfaceGuard.Text.Basic

/-!
# White space and its folding

Declarations are compared after folding: every run of white space becomes one blank,
and blanks at either end go.  The byte order mark counts as white space; the control
`U+0085` does not.

* `collapse` and `trim` are the two passes, `fold` their composition.
* `words` is the independent reading of a text as its maximal runs of other units;
  a folded text is its words joined by single blanks.
-/

namespace SurfaceGuard.Text

/-- The units that count as white space. -/
def isSpace (u : CodeUnit) : Bool :=
  (0x09 ≤ u && u ≤ 0x0D) || u == 0x20 || u == 0xA0 || u == 0x1680
    || (0x2000 ≤ u && u ≤ 0x200A) || u == 0x2028 || u == 0x2029 || u == 0x202F
    || u == 0x205F || u == 0x3000 || u == 0xFEFF

/-- The blank that stands for a run of white space. -/
def blank : CodeUnit := 0x20

/-! ## Trimming and folding -/

/-- The text from its first unit that is no white space. -/
def trimStart (t : Text) : Text := t.dropWhile isSpace

/-- The text up to its last unit that is no white space. -/
def trimEnd (t : Text) : Text := (t.reverse.dropWhile isSpace).reverse

/-- The text without white space at either end. -/
def trim (t : Text) : Text := trimEnd (trimStart t)

/-- Every run of white space replaced by one blank; the flag tells that a run is open. -/
def collapseFrom : Bool → Text → Text
  | _, [] => []
  | inRun, u :: rest =>
    if isSpace u then
      if inRun then collapseFrom true rest else blank :: collapseFrom true rest
    else u :: collapseFrom false rest

/-- Every run of white space replaced by one blank. -/
def collapse (t : Text) : Text := collapseFrom false t

/-- Every run of white space replaced by one blank, and none left at either end. -/
def fold (t : Text) : Text := trim (collapse t)

/-! ## Words -/

/-- The maximal runs of units that are no white space; the accumulator is the open run. -/
def wordsFrom : Text → Text → List Text
  | [], [] => []
  | run, [] => [run]
  | run, u :: rest =>
    if isSpace u then
      if run.isEmpty then wordsFrom [] rest else run :: wordsFrom [] rest
    else wordsFrom (run ++ [u]) rest

/-- The maximal runs of units that are no white space, in order. -/
def words (t : Text) : List Text := wordsFrom [] t

end SurfaceGuard.Text
