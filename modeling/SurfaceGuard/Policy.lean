import SurfaceGuard.Diff

/-!
# The policy on changes

Whether a diff is acceptable.  In strict mode no difference is; in semantic-versioning
mode removals and changes are not, and additions only if they are ruled out as well.
Every decision comes with a report, also one that passes.
-/

namespace SurfaceGuard

/-- How strictly differences are judged. -/
inductive Mode where
  /-- Only removals and changes break. -/
  | semver
  /-- Every difference breaks. -/
  | strict
  deriving DecidableEq, Repr

/-- The name of a mode. -/
def Mode.name : Mode → Text
  | semver => "semver"
  | strict => "strict"

/-- The modes by their names. -/
def Mode.words : List (Text × Mode) := [(semver.name, semver), (strict.name, strict)]

/-- The mode with the given name. -/
def Mode.ofName? (name : Text) : Option Mode := words.lookup name

/-- A mode is found by its name, and by no other text. -/
theorem Mode.ofName?_eq_some_iff {name : Text} {m : Mode} :
    ofName? name = some m ↔ name = m.name := by
  have hnames : semver.name ≠ strict.name := by decide
  rw [ofName?, words, List.lookup_cons, List.lookup_cons, List.lookup_nil]
  cases hsemver : name == semver.name with
  | true =>
    rw [beq_iff_eq] at hsemver
    subst hsemver
    cases m <;> simp [hnames]
  | false =>
    rw [beq_eq_false_iff_ne] at hsemver
    cases hstrict : name == strict.name with
    | true =>
      rw [beq_iff_eq] at hstrict
      subst hstrict
      cases m <;> simp [hnames.symm]
    | false =>
      rw [beq_eq_false_iff_ne] at hstrict
      cases m <;> simp [hsemver, hstrict]

/-- What a decision comes to. -/
inductive Outcome where
  | pass
  | breakingChange
  | strictViolation
  deriving DecidableEq, Repr

/-- The name of an outcome. -/
def Outcome.name : Outcome → Text
  | pass => "pass"
  | breakingChange => "breaking-change"
  | strictViolation => "strict-violation"

/-- The outcomes by their names. -/
def Outcome.words : List (Text × Outcome) :=
  [(pass.name, pass), (breakingChange.name, breakingChange),
    (strictViolation.name, strictViolation)]

/-- Why a diff is not acceptable. -/
inductive Objection where
  /-- A difference, where none is allowed. -/
  | anyChange
  /-- A removal or a change. -/
  | breaking
  /-- An addition, where additions are ruled out. -/
  | addition
  deriving DecidableEq, Repr

namespace Objection

/-- The outcome that an objection leads to. -/
def outcome : Objection → Outcome
  | anyChange => .strictViolation
  | breaking => .breakingChange
  | addition => .breakingChange

/-- The wording of an objection. -/
def reason : Objection → Text
  | anyChange => "strict mode: any API change is disallowed"
  | breaking => "semver mode: breaking API change"
  | addition => "semver mode: additions are not allowed"

end Objection

/-- A judged diff. -/
structure Decision where
  target : Text
  mode : Mode
  failOnAdditions : Bool
  passed : Bool
  outcome : Outcome
  diff : Diff
  report : Text
  deriving DecidableEq, Repr

namespace Policy

/-- Does the diff remove or change a symbol? -/
def isBreaking (d : Diff) : Bool := !d.removed.isEmpty || !d.changed.isEmpty

/-- Does the diff add a symbol? -/
def isAdding (d : Diff) : Bool := !d.added.isEmpty

/-- The objection to a diff, if there is one. -/
def objection? (d : Diff) (mode : Mode) (failOnAdditions : Bool) : Option Objection :=
  match mode with
  | .strict => if isBreaking d || isAdding d then some .anyChange else none
  | .semver =>
    if isBreaking d then some .breaking
    else if failOnAdditions && isAdding d then some .addition
    else none

/-- The last line of a report. -/
def resultLine : Option Objection → Text
  | some o => "  Result: FAIL (" ++ o.reason ++ ")"
  | none => "  Result: OK"

/-- The lines of a report: removed and changed identifiers are listed, added ones counted. -/
def reportLines (d : Diff) (objection? : Option Objection) : List Text :=
  ["Target: " ++ d.target, "  Removed: " ++ Text.ofNat d.removed.length]
    ++ d.removed.map (fun id => ("    - " ++ id : Text))
    ++ ["  Changed: " ++ Text.ofNat d.changed.length]
    ++ d.changed.map (fun id => ("    ~ " ++ id : Text))
    ++ ["  Added: " ++ Text.ofNat d.added.length, resultLine objection?]

/-- The decision on a diff. -/
def evaluate (d : Diff) (mode : Mode) (failOnAdditions : Bool) : Decision :=
  let objection? := objection? d mode failOnAdditions
  { target := d.target
    mode := mode
    failOnAdditions := failOnAdditions
    passed := objection?.isNone
    outcome := (objection?.map Objection.outcome).getD .pass
    diff := d
    report := Text.lines (reportLines d objection?) }

end Policy

end SurfaceGuard
