import SurfaceGuard.Shell.State
import SurfaceGuard.Text.Numeral

/-!
# Tests

The command `test` judges files, texts and numbers.  With few arguments their number decides
what they mean; otherwise they are an expression in which words are taken for operators
wherever that is possible.
-/

namespace SurfaceGuard.Shell.Test

open Sh

/-- What a word may be. -/
inductive Kind where
  | unary
  | binary
  | not
  | and
  | or
  | openParen
  | closeParen
  deriving DecidableEq, Repr

/-- The words that are operators. -/
def operators : List (Bytes × Kind) :=
  (["-r", "-w", "-x", "-e", "-f", "-d", "-c", "-b", "-p", "-u", "-g", "-k", "-s", "-t", "-z", "-n",
      "-h", "-O", "-G", "-L", "-S"].map fun s => (ascii s, Kind.unary))
    ++ (["=", "!=", "<", ">", "-eq", "-ne", "-ge", "-gt", "-le", "-lt", "-nt", "-ot", "-ef"].map
      fun s => (ascii s, Kind.binary))
    ++ [(ascii "!", .not), (ascii "-a", .and), (ascii "-o", .or), (ascii "(", .openParen),
      (ascii ")", .closeParen)]

/-- What a word is as an operator. -/
def kind? (w : Bytes) : Option Kind := operators.lookup w

/-- Is the word a relation between two others? -/
def isBinary (w? : Option Bytes) : Bool := (w?.bind kind?) == some .binary

/-- What the first of some words is where an operand or an operator may stand; a word is an operand
if that makes a relation of what follows. -/
def kindHere? : List Bytes → Option Kind
  | [] => none
  | w :: rest =>
    match kind? w with
    | some .unary =>
      match rest with
      | [] => none
      | [_] => some .unary
      | next :: _ => if isBinary (some next) then none else some .unary
    | some .openParen => if rest.isEmpty then none else some .openParen
    | k => k

/-- Fails because of a word. -/
def fault {α : Type} (word message : Bytes) : Sh α :=
  fail (if word.isEmpty then message else word ++ ascii ": " ++ message)

/-- The number that a word writes. -/
def numberOf (w : Bytes) : Sh Int := do
  match Numeral.whole? true w with
  | some n => return n
  | none => badNumber w

/-- What is known about the node at a path. -/
def info? (path : Bytes) : Sh (Option Info) := do
  match ← ask (.inspect path) with
  | .ok info => return some info
  | .error _ => return none

/-- The value of a test of one operand. -/
def unary (operator a : Bytes) : Sh Bool := do
  let letter := operator.getLastD 0
  if letter == 0x7A then return a.isEmpty
  else if letter == 0x6E then return !a.isEmpty
  else if letter == 0x74 then
    let _ ← numberOf a
    return false
  else if letter == 0x72 then ask (.mayUse a .read)
  else if letter == 0x77 then ask (.mayUse a .write)
  else if letter == 0x78 then ask (.mayUse a .search)
  else
    match ← info? a with
    | none => return false
    | some info =>
      if letter == 0x65 then return true
      else if letter == 0x66 then return info.kind = .file
      else if letter == 0x64 then return info.kind = .directory
      else if letter == 0x63 then return info.kind = .device
      else if letter == 0x70 then return info.kind = .pipe
      else if letter == 0x53 then return info.kind = .socket
      else if letter == 0x73 then return 0 < info.size
      else if letter == 0x75 then return info.mode / 0o4000 % 2 = 1
      else if letter == 0x67 then return info.mode / 0o2000 % 2 = 1
      else if letter == 0x6B then return info.mode / 0o1000 % 2 = 1
      else return letter == 0x4F || letter == 0x47

/-- The value of a relation between numbers. -/
def compare (operator : Bytes) (a b : Int) : Bool :=
  if operator = ascii "-eq" then a == b
  else if operator = ascii "-ne" then a != b
  else if operator = ascii "-ge" then a ≥ b
  else if operator = ascii "-gt" then a > b
  else if operator = ascii "-le" then a ≤ b
  else a < b

/-- The value of a relation. -/
def binary (operator a b : Bytes) : Sh Bool := do
  if operator = ascii "=" then return a == b
  else if operator = ascii "!=" then return a != b
  else if operator = ascii "<" then return a != b && Ascii.le a b
  else if operator = ascii ">" then return a != b && Ascii.le b a
  else if [ascii "-nt", ascii "-ot", ascii "-ef"].contains operator then
    match ← info? a, ← info? b with
    | some x, some y =>
      return if operator = ascii "-nt" then y.modified < x.modified
        else if operator = ascii "-ot" then x.modified < y.modified
        else x.serial == y.serial && x.kind == y.kind
    | _, _ => return false
  else
    let x ← numberOf a
    let y ← numberOf b
    return compare operator x y

/-- How far an expression was judged: its value, and the words from the last one that was used on. -/
abbrev Judged := Bool × List Bytes

/-- The parts of an expression, each for the words from its first one on. -/
structure Parts where
  disjunction : List Bytes → Sh Judged
  conjunction : List Bytes → Sh Judged
  negation : List Bytes → Sh Judged

/-- An operand, a test or an expression in parentheses. -/
def primary (parts : Parts) (ws : List Bytes) : Sh Judged := do
  match kindHere? ws, ws with
  | _, [] => return (false, [])
  | some .openParen, _ :: rest =>
    if kindHere? rest == some .closeParen then return (false, rest)
    else
      let (value, after) ← parts.disjunction rest
      if kindHere? (after.drop 1) == some .closeParen then return (value, after.drop 1)
      else fault [] "closing paren expected"
  | some .unary, operator :: rest =>
    match rest with
    | [] => fault operator "argument expected"
    | a :: _ => return (← unary operator a, rest)
  | _, a :: rest =>
    match rest with
    | operator :: after =>
      if kindHere? rest == some .binary then
        match after with
        | [] => fault operator "argument expected"
        | b :: _ => return (← binary operator a b, after)
      else return (!a.isEmpty, ws)
    | [] => return (!a.isEmpty, ws)

/-- A negation, or what may be negated. -/
def negation (parts : Parts) (ws : List Bytes) : Sh Judged := do
  if kindHere? ws == some .not then
    let rest := ws.drop 1
    let (value, after) ← if rest.isEmpty then pure (false, ws) else parts.negation rest
    return (!value, after)
  else primary parts ws

/-- Parts all of which have to hold. -/
def conjunction (parts : Parts) (ws : List Bytes) : Sh Judged := do
  let (value, after) ← parts.negation ws
  if kindHere? (after.drop 1) == some .and then
    let (more, after) ← parts.conjunction (after.drop 2)
    return (value && more, after)
  else return (value, after)

/-- Parts one of which has to hold. -/
def disjunction (parts : Parts) (ws : List Bytes) : Sh Judged := do
  let (value, after) ← parts.conjunction ws
  if kindHere? (after.drop 1) == some .or then
    let (more, after) ← parts.disjunction (after.drop 2)
    return (value || more, after)
  else return (value, after)

/-- The parts of expressions that are nested up to a depth. -/
def ofDepth : Nat → Parts
  | 0 =>
    { disjunction := fun ws => return (false, ws)
      conjunction := fun ws => return (false, ws)
      negation := fun ws => return (false, ws) }
  | depth + 1 =>
    { disjunction := fun ws => disjunction (ofDepth depth) ws
      conjunction := fun ws => conjunction (ofDepth depth) ws
      negation := fun ws => negation (ofDepth depth) ws }

/-- The value of an expression that makes use of all words. -/
def expression (ws : List Bytes) : Sh Bool := do
  let (value, after) ← (ofDepth (4 * ws.length + 4)).disjunction ws
  match after with
  | w :: _ :: _ => fault w "unexpected operator"
  | _ => return value

/-- The value of words. -/
def judge : Nat → Bool → List Bytes → Sh Bool
  | 0, _, _ => return false
  | fuel + 1, isNegated, ws => do
    let result (value : Bool) : Bool := value != isNegated
    match ws with
    | [] => return result false
    | first :: rest =>
      let isRelation := ws.length = 3 && isBinary rest.head?
      if isRelation then return result (← relation ws)
      else if ws.length = 3 || ws.length = 4 then
        if first == ascii "(" && rest.getLast? == some (ascii ")") then
          return result (← expression rest.dropLast)
        else if first == ascii "!" then judge fuel (!isNegated) rest
        else return result (← expression ws)
      else return result (← expression ws)
where
  /-- The value of a relation between the first and the last of three words. -/
  relation (ws : List Bytes) : Sh Bool := do
    match ws with
    | [a, operator, b] => binary operator a b
    | _ => return false

/-- `test`, or with a bracket at its end `[`. -/
def command (name : Bytes) (args : List Bytes) : Sh Nat := do
  let isBracket := name == ascii "["
  if isBracket && args.getLast? != some (ascii "]") then fail "missing ]"
  else
    let value ← judge (args.length + 1) false (if isBracket then args.dropLast else args)
    return if value then 0 else 1

end SurfaceGuard.Shell.Test
