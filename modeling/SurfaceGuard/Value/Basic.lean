import SurfaceGuard.Json.Basic

/-!
# Values of a program

What a program may ask to be encoded, and what it may throw: the JSON values, and values
that have no JSON form.  Each of these has a type name, which error messages show, and a
text, which stands in for it where it is thrown.
-/

namespace SurfaceGuard

/-- Where an object inherits its properties from. -/
inductive Ancestry where
  /-- The common ancestor of plain objects. -/
  | plain
  /-- Nothing. -/
  | none
  deriving DecidableEq, Repr

/-- A value that is neither a JSON scalar nor a list nor a plain object. -/
inductive Foreign where
  | undefined
  | bigint (n : Int)
  | function
  | symbol
  /-- A place in a list that holds nothing. -/
  | hole
  | map
  | set
  | date
  | regexp
  | buffer
  | bytes
  | error
  | boxedString
  | boxedNumber
  /-- An instance of a class with the given name. -/
  | instance (className : Text)
  /-- An object whose class is unknown. -/
  | orphan
  deriving DecidableEq, Repr

/-- Any value. -/
inductive Value where
  | null
  | boolean (b : Bool)
  | number (n : Number)
  | string (s : Text)
  | list (items : List Value)
  | object (ancestry : Ancestry) (members : List (Text × Value))
  | foreign (f : Foreign)
  deriving Repr, Inhabited

/-- The type name of a value without a JSON form. -/
def Foreign.typeName : Foreign → Text
  | undefined => "undefined"
  | bigint _ => "bigint"
  | function => "function"
  | symbol => "symbol"
  | hole => "hole"
  | map => "Map"
  | set => "Set"
  | date => "Date"
  | regexp => "RegExp"
  | buffer => "Buffer"
  | bytes => "Uint8Array"
  | error => "Error"
  | boxedString => "String"
  | boxedNumber => "Number"
  | .instance className => if className.isEmpty then "object" else className
  | orphan => "object"

mutual

/-- A JSON value as a value. -/
def Value.ofJson : Json → Value
  | .null => .null
  | .boolean b => .boolean b
  | .number n => .number n
  | .string s => .string s
  | .array items => .list (ofJsonItems items)
  | .object members => .object .plain (ofJsonMembers members)

/-- The items of an array as values. -/
def Value.ofJsonItems : List Json → List Value
  | [] => []
  | item :: items => Value.ofJson item :: ofJsonItems items

/-- The members of an object as values. -/
def Value.ofJsonMembers : List (Text × Json) → List (Text × Value)
  | [] => []
  | (name, value) :: members => (name, Value.ofJson value) :: ofJsonMembers members

end

namespace Value

/-- The plain object with the given members. -/
def record (members : List (Text × Value)) : Value := .object .plain members

/-- The list of the given texts. -/
def texts (items : List Text) : Value := .list (items.map .string)

end Value

end SurfaceGuard
