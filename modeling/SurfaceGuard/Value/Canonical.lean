import SurfaceGuard.Json.Writer
import SurfaceGuard.Text.Utf8
import SurfaceGuard.Value.Basic

/-!
# The canonical text of a value

One byte sequence per logical value.  `canonical` turns a value into the JSON value that
stands for it: members in ascending order of their names and zero without a sign, so that
the order of insertion, the ancestry of objects and the sign of zero leave no trace.  The
canonical text is the text of that JSON value.

A value that has no JSON form is refused; the refusal names the first place that has
none, where lists are visited from the front and objects by ascending names.
-/

namespace SurfaceGuard

/-- One step into a value. -/
inductive Step where
  | member (name : Text)
  | item (index : Nat)
  deriving DecidableEq, Repr

/-- The place of a value that has no JSON form, from the outside in, and the name of its type. -/
structure Unsupported where
  place : List Step
  typeName : Text
  deriving DecidableEq, Repr

namespace Unsupported

/-- The refusal seen from one step further out. -/
def within (step : Step) (u : Unsupported) : Unsupported := ⟨step :: u.place, u.typeName⟩

/-- The text of a step. -/
def stepText : Step → Text
  | .member name => 0x2E :: name
  | .item index => 0x5B :: Text.ofNat index ++ [0x5D]

/-- The place as it is shown, from the root on. -/
def placeText (u : Unsupported) : Text := 0x24 :: u.place.flatMap stepText

end Unsupported

namespace Value

/-! ## The canonical JSON value -/

/-- A number for canonical JSON: finite, and zero without a sign. -/
def canonicalNumber (n : Number) : Except Unsupported Json :=
  match n with
  | .finite negative k => .ok (.number (.finite (negative && k.val != 0) k))
  | _ => .error ⟨[], n.toText⟩

/-- The first refusal by order of the list, or else all members. -/
def allMembers : List (Text × Except Unsupported Json) → Except Unsupported (List (Text × Json))
  | [] => .ok []
  | (name, .ok value) :: rest => (allMembers rest).map ((name, value) :: ·)
  | (name, .error u) :: _ => .error (u.within (.member name))

mutual

/-- The JSON value that stands for a value, or the first place that has none. -/
def canonical : Value → Except Unsupported Json
  | null => .ok .null
  | boolean b => .ok (.boolean b)
  | number n => canonicalNumber n
  | string s => .ok (.string s)
  | list items => (canonicalItems 0 items).map .array
  | object _ members => (allMembers (Members.sort (canonicalMembers members))).map .object
  | foreign f => .error ⟨[], f.typeName⟩

/-- The items of a list from the given index on. -/
def canonicalItems : Nat → List Value → Except Unsupported (List Json)
  | _, [] => .ok []
  | index, item :: items =>
    match canonical item with
    | .ok json => (canonicalItems (index + 1) items).map (json :: ·)
    | .error u => .error (u.within (.item index))

/-- Each member of an object by itself. -/
def canonicalMembers : List (Text × Value) → List (Text × Except Unsupported Json)
  | [] => []
  | (name, value) :: members => (name, canonical value) :: canonicalMembers members

end

/-! ## The canonical text -/

/-- The canonical text of a value. -/
def canonicalText (v : Value) : Except Unsupported Text := v.canonical.map Json.write

/-- The canonical bytes of a value. -/
def canonicalBytes (v : Value) : Except Unsupported Bytes := v.canonicalText.map Utf8.encode

end Value

end SurfaceGuard
