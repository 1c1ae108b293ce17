import SurfaceGuard.Json.Basic
import SurfaceGuard.Number.Decimal
import SurfaceGuard.Text.Quoted

/-!
# Writing JSON

The text of a JSON value without blanks, its members in the order they have.
-/

namespace SurfaceGuard.Json

open Quoted

mutual

/-- The text of a value. -/
def write : Json → Text
  | null => "null"
  | boolean true => "true"
  | boolean false => "false"
  | number n => n.toText
  | string s => escape s
  | array items => 0x5B :: writeItems items
  | object members => 0x7B :: writeMembers members

/-- The items after the opening bracket, and the closing one. -/
def writeItems : List Json → Text
  | [] => [0x5D]
  | [item] => write item ++ [0x5D]
  | item :: items => write item ++ 0x2C :: writeItems items

/-- The members after the opening brace, and the closing one. -/
def writeMembers : List (Text × Json) → Text
  | [] => [0x7D]
  | [(name, value)] => escape name ++ 0x3A :: write value ++ [0x7D]
  | (name, value) :: members =>
    escape name ++ 0x3A :: write value ++ 0x2C :: writeMembers members

end

end SurfaceGuard.Json
