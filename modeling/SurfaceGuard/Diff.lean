import SurfaceGuard.Snapshot

/-!
# Differences between snapshots

A diff classifies the identifiers of two snapshots of one target: removed ones are only
in the old snapshot, added ones only in the new one, and changed ones have different
signatures in the two.  Each list is in ascending order by code unit.  Only the tables
are compared.
-/

namespace SurfaceGuard

/-- The identifiers that differ between two snapshots. -/
structure Diff where
  target : Text
  added : List Text
  removed : List Text
  changed : List Text
  deriving DecidableEq, Repr

/-- An identifier with its old and its new signature. -/
structure SignatureChange where
  identifier : Text
  before : Text
  after : Text
  deriving DecidableEq, Repr

namespace Diff

/-- The identifiers of the first table that the second one lacks. -/
def onlyIn (a b : SymbolTable) : List Text :=
  a.ids.filter fun id => !b.contains id

/-- The identifiers of both tables whose signatures differ. -/
def differing (a b : SymbolTable) : List Text :=
  (a.toList.filter fun e => (b.get? e.1).any (· != e.2)).map Prod.fst

/-- The differences between an old and a new snapshot, for the target of the new one. -/
def between (old new : Snapshot) : Diff where
  target := new.target
  added := Text.sort (onlyIn new.symbols old.symbols)
  removed := Text.sort (onlyIn old.symbols new.symbols)
  changed := Text.sort (differing old.symbols new.symbols)

/-- Does no identifier differ? -/
def isEmpty (d : Diff) : Bool := d.added.isEmpty && d.removed.isEmpty && d.changed.isEmpty

/-- The changed identifiers with their signatures in the two snapshots. -/
def changes (d : Diff) (old new : Snapshot) : List SignatureChange :=
  d.changed.map fun id => ⟨id, (old.symbols.get? id).getD [], (new.symbols.get? id).getD []⟩

end Diff

/-- A change as three lines: the identifier, the old and the new signature. -/
def SignatureChange.text (c : SignatureChange) : Text :=
  Text.lines ["@@ " ++ c.identifier, "- " ++ c.before, "+ " ++ c.after]

end SurfaceGuard
