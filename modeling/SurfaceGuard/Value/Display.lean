import SurfaceGuard.Number.Decimal
import SurfaceGuard.Value.Basic

/-!
# Values as messages

The text that stands for a value in a message.  Nearly every value has one; an object
without ancestry has none, nor has an object whose own `toString` hides the inherited one
and cannot be called, and a symbol has none as an item of a list.
-/

namespace SurfaceGuard

/-- Why a value has no text. -/
inductive NoText where
  | objectToPrimitive
  | symbolToString
  deriving DecidableEq, Repr

/-- The message for a value without a text. -/
def NoText.message : NoText → Text
  | objectToPrimitive => "Cannot convert object to primitive value"
  | symbolToString => "Cannot convert a Symbol value to a string"

/-- The text of a value that is neither a JSON scalar nor a list nor a plain object. -/
def Foreign.display : Foreign → Text
  | undefined => "undefined"
  | bigint n => Text.ofInt n
  | function => "() => \x7b\x7d"
  | symbol => "Symbol(s)"
  | hole => "undefined"
  | map => "[object Map]"
  | set => "[object Set]"
  | date => "Thu Jan 01 1970 00:00:00 GMT+0000 (Coordinated Universal Time)"
  | regexp => "/x/"
  | buffer => "x"
  | bytes => "1"
  | error => "Error: x"
  | boxedString => "x"
  | boxedNumber => "1"
  | .instance _ => "[object Object]"
  | orphan => "[object Object]"

namespace Value

/-- Can the value be called? -/
def isCallable : Value → Bool
  | foreign .function => true
  | _ => false

/-- Does an object have a method of its own under a name? -/
def hasMethod (members : List (Text × Value)) (name : Text) : Bool :=
  (Members.get? name members).any isCallable

/-- The text of an object: what its method `toString` returns, its own or the inherited one, or else
what a method `valueOf` of its own returns.  There is one function among the values, and it returns
nothing: an object whose own methods return a text, or throw, is not a value here. -/
def displayObject (ancestry : Ancestry) (members : List (Text × Value)) : Except NoText Text :=
  if hasMethod members "toString" then .ok Foreign.undefined.display
  else if ancestry = .plain && (Members.get? "toString" members).isNone then .ok "[object Object]"
  else if hasMethod members "valueOf" then .ok Foreign.undefined.display
  else .error .objectToPrimitive

mutual

/-- The text that stands for a value. -/
def display : Value → Except NoText Text
  | null => .ok "null"
  | boolean true => .ok "true"
  | boolean false => .ok "false"
  | number n => .ok n.toText
  | string s => .ok s
  | list items => (displayItems items).map (Text.join ",")
  | object ancestry members => displayObject ancestry members
  | foreign f => .ok f.display

/-- The texts of the items of a list, where absent values leave an empty text. -/
def displayItems : List Value → Except NoText (List Text)
  | [] => .ok []
  | item :: items =>
    match displayItem item with
    | .error e => .error e
    | .ok t => (displayItems items).map (t :: ·)

/-- The text of a value as an item of a list. -/
def displayItem : Value → Except NoText Text
  | null => .ok []
  | foreign .undefined => .ok []
  | foreign .hole => .ok []
  | foreign .symbol => .error .symbolToString
  | item => display item

end

end Value

end SurfaceGuard
