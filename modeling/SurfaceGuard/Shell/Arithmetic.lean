import SurfaceGuard.Text.Numeral

/-!
# Arithmetic in shell scripts

Expressions over numbers of 64 bits with the operators of C.  A name stands for the number
that its variable writes, and an assignment changes the variable.  The operands that the
operators `&&`, `||` and `?:` do not need are read but not evaluated: their variables need
not write numbers, and their assignments are not made.
-/

namespace SurfaceGuard.Shell.Arithmetic

/-- A token of an expression. -/
inductive Token where
  | number (n : Int)
  | name (bytes : Bytes)
  | operator (bytes : Bytes)
  /-- A byte that starts no token. -/
  | bad
  | finish
  deriving DecidableEq, Repr

/-- The operators, longer ones first. -/
def operators : List Bytes :=
  (["<<=", ">>=", "||", "&&", "==", "!=", "<=", ">=", "<<", ">>", "+=", "-=", "*=", "/=", "%=",
    "&=", "|=", "^=", "+", "-", "*", "/", "%", "<", ">", "=", "!", "~", "(", ")", "&", "|", "^",
    "?", ":"] : List String).map ascii

/-- The first token of a byte string, and what follows it. -/
def token (t : Bytes) : Token × Bytes :=
  let t := t.dropWhile fun b => b == 0x20 || b == 0x09 || b == 0x0A
  match t with
  | [] => (.finish, [])
  | b :: _ =>
    if Ascii.isDigit b then
      let n := Numeral.read false t
      (.number n.clamped, n.rest)
    else if Ascii.isNameStart b then
      let name := t.takeWhile Ascii.isNameByte
      (.name name, t.drop name.length)
    else match operators.find? (·.isPrefixOf t) with
      | some op => (.operator op, t.drop op.length)
      | none => (.bad, t)

/-- Why an expression has no value. -/
inductive Fault where
  | divisionByZero
  | expectingPrimary
  | expectingColon
  | expectingParen
  | expectingEnd
  | illegalNumber (text : Bytes)
  deriving DecidableEq, Repr

/-- The wording of a fault of an expression. -/
def Fault.message (source : Bytes) (f : Fault) : Bytes :=
  let about (what : Bytes) : Bytes :=
    ascii "arithmetic expression: " ++ what ++ ascii ": \"" ++ source ++ ascii "\""
  match f with
  | divisionByZero => about "division by zero"
  | expectingPrimary => about "expecting primary"
  | expectingColon => about "expecting ':'"
  | expectingParen => about "expecting ')'"
  | expectingEnd => about "expecting EOF"
  | illegalNumber text => ascii "Illegal number: " ++ text

/-- How far an expression was evaluated: the token at hand, what follows it, and the assignments
that were made, the last first. -/
structure Progress where
  token : Token
  rest : Bytes
  assigned : List (Bytes × Int)

/-- A part of the evaluation of an expression. -/
abbrev Eval := StateT Progress (Except Fault)

/-- Goes on to the next token. -/
def advance : Eval Unit := modify fun p =>
  let (t, rest) := Arithmetic.token p.rest
  { p with token := t, rest := rest }

/-- The values of the variables before the expression. -/
abbrev Lookup := Bytes → Option Bytes

/-- The number that a variable writes; nothing writes zero. -/
def valueOf (look : Lookup) (name : Bytes) : Eval Int := do
  match (← get).assigned.lookup name with
  | some n => return n
  | none =>
    let text := (look name).getD []
    match Numeral.whole? false text with
    | some n => return n
    | none => throw (.illegalNumber text)

/-- A number brought into 64 bits. -/
def wrap (n : Int) : Int := n.bmod (Nat.pow 2 64)

/-- One or zero. -/
def truth (b : Bool) : Int := if b then 1 else 0

/-- The value of a binary operator. -/
def apply (op : Bytes) (a b : Int) : Except Fault Int :=
  if op = ascii "+" then .ok (wrap (a + b))
  else if op = ascii "-" then .ok (wrap (a - b))
  else if op = ascii "*" then .ok (wrap (a * b))
  else if op = ascii "/" then if b = 0 then .error .divisionByZero else .ok (wrap (a.tdiv b))
  else if op = ascii "%" then if b = 0 then .error .divisionByZero else .ok (a.tmod b)
  else if op = ascii "<<" then .ok (wrap (a * Nat.pow 2 (b % 64).toNat))
  else if op = ascii ">>" then .ok (a / Nat.pow 2 (b % 64).toNat)
  else if op = ascii "<" then .ok (truth (a < b))
  else if op = ascii ">" then .ok (truth (a > b))
  else if op = ascii "<=" then .ok (truth (a ≤ b))
  else if op = ascii ">=" then .ok (truth (a ≥ b))
  else if op = ascii "==" then .ok (truth (a == b))
  else if op = ascii "!=" then .ok (truth (a != b))
  else if op = ascii "&" then .ok (a.toInt64 &&& b.toInt64).toInt
  else if op = ascii "|" then .ok (a.toInt64 ||| b.toInt64).toInt
  else if op = ascii "^" then .ok (a.toInt64 ^^^ b.toInt64).toInt
  else .error .expectingPrimary

/-- The binary operators with their ranks; those of the least rank bind their operands first. -/
def ranks : List (Bytes × Nat) :=
  [("*", 0), ("/", 0), ("%", 0), ("+", 1), ("-", 1), ("<<", 2), (">>", 2), ("<", 3), ("<=", 3),
    (">", 3), (">=", 3), ("==", 4), ("!=", 4), ("&", 5), ("^", 6), ("|", 7)]

/-- A rank above that of all binary operators. -/
def topRank : Nat := 8

/-- The operators that assign, with those that they apply first. -/
def assigning : List (Bytes × Option Bytes) :=
  [("=", none), ("+=", some "+"), ("-=", some "-"), ("*=", some "*"), ("/=", some "/"),
    ("%=", some "%"), ("<<=", some "<<"), (">>=", some ">>"), ("&=", some "&"), ("|=", some "|"),
    ("^=", some "^")]

/-- The rank of a token, if it is a binary operator. -/
def rank? : Token → Option (Bytes × Nat)
  | .operator op => (ranks.lookup op).map fun r => (op, r)
  | _ => none

/-- Is the token the operator? -/
def isOperator (t : Token) (op : Bytes) : Bool := t == .operator op

/-- The evaluators of the parts that an operand may contain.  Each is told whether its value is
needed, and leaves the token after its part at hand. -/
structure Inner where
  assignment : Bool → Eval Int
  conditional : Bool → Eval Int
  either : Bool → Eval Int
  both : Bool → Eval Int
  binary : Int → Bytes → Nat → Bool → Eval Int
  primary : Bool → Eval Int

/-- A number, a name, an expression in parentheses, or an operand with a sign in front. -/
def primary (look : Lookup) (inner : Inner) (isNeeded : Bool) : Eval Int := do
  match (← get).token with
  | .number n =>
    advance
    return n
  | .name name =>
    let n ← if isNeeded then valueOf look name else pure 0
    advance
    return n
  | .operator [0x28] =>
    advance
    let n ← inner.assignment isNeeded
    if !isOperator (← get).token ")" then throw .expectingParen
    advance
    return n
  | .operator [0x2B] =>
    advance
    inner.primary isNeeded
  | .operator [0x2D] =>
    advance
    return wrap (-(← inner.primary isNeeded))
  | .operator [0x21] =>
    advance
    return truth ((← inner.primary isNeeded) == 0)
  | .operator [0x7E] =>
    advance
    return -(← inner.primary isNeeded) - 1
  | _ => throw .expectingPrimary

/-- The binary operators from one on, which has a left operand already, while their ranks are below
a limit. -/
def binary (inner : Inner) (left : Int) (op : Bytes) (limit : Nat) (isNeeded : Bool) : Eval Int := do
  advance
  let right ← inner.primary isNeeded
  let rank := (ranks.lookup op).getD 0
  let right ← match rank? (← get).token with
    | some (op', rank') =>
      if rank' < rank then inner.binary right op' rank isNeeded else pure right
    | none => pure right
  let value ← if isNeeded then apply op left right else pure right
  match rank? (← get).token with
  | some (op', rank') => if rank' < limit then inner.binary value op' limit isNeeded else return value
  | none => return value

/-- Operands with binary operators between them. -/
def operands (inner : Inner) (isNeeded : Bool) : Eval Int := do
  let left ← inner.primary isNeeded
  match rank? (← get).token with
  | some (op, _) => inner.binary left op topRank isNeeded
  | none => return left

/-- Operands of which all have to be true. -/
def both (inner : Inner) (isNeeded : Bool) : Eval Int := do
  let left ← operands inner isNeeded
  if isOperator (← get).token "&&" then
    advance
    let right ← inner.both (isNeeded && left != 0)
    return truth (left != 0 && right != 0)
  else return left

/-- Operands of which one has to be true. -/
def either (inner : Inner) (isNeeded : Bool) : Eval Int := do
  let left ← inner.both isNeeded
  if isOperator (← get).token "||" then
    advance
    let right ← inner.either (isNeeded && left == 0)
    return truth (left != 0 || right != 0)
  else return left

/-- A choice between two values. -/
def conditional (inner : Inner) (isNeeded : Bool) : Eval Int := do
  let test ← inner.either isNeeded
  if isOperator (← get).token "?" then
    advance
    let yes ← inner.assignment (isNeeded && test != 0)
    if !isOperator (← get).token ":" then throw .expectingColon
    advance
    let no ← inner.conditional (isNeeded && test == 0)
    return if test != 0 then yes else no
  else return test

/-- An assignment to a variable, or any other expression. -/
def assignment (look : Lookup) (inner : Inner) (isNeeded : Bool) : Eval Int := do
  let p ← get
  let (after, rest) := Arithmetic.token p.rest
  match p.token, after with
  | .name name, .operator op =>
    match assigning.lookup op with
    | none => inner.conditional isNeeded
    | some operate? =>
      set { p with token := after, rest := rest }
      advance
      let value ← inner.assignment isNeeded
      if !isNeeded then return value
      else
        let value ← match operate? with
          | none => pure value
          | some op => apply op (← valueOf look name) value
        modify fun p => { p with assigned := (name, value) :: p.assigned }
        return value
  | _, _ => inner.conditional isNeeded

/-- The evaluators for expressions that are nested up to a depth. -/
def ofDepth (look : Lookup) : Nat → Inner
  | 0 =>
    { assignment := fun _ => throw .expectingPrimary
      conditional := fun _ => throw .expectingPrimary
      either := fun _ => throw .expectingPrimary
      both := fun _ => throw .expectingPrimary
      binary := fun _ _ _ _ => throw .expectingPrimary
      primary := fun _ => throw .expectingPrimary }
  | depth + 1 =>
    { assignment := fun isNeeded => assignment look (ofDepth look depth) isNeeded
      conditional := fun isNeeded => conditional (ofDepth look depth) isNeeded
      either := fun isNeeded => either (ofDepth look depth) isNeeded
      both := fun isNeeded => both (ofDepth look depth) isNeeded
      binary := fun left op limit isNeeded =>
        binary (ofDepth look depth) left op limit isNeeded
      primary := fun isNeeded => primary look (ofDepth look depth) isNeeded }

/-- The value of an expression, and the assignments that it makes, in order. -/
def evaluate (look : Lookup) (source : Bytes) : Except Fault (Int × List (Bytes × Int)) :=
  let (t, rest) := token source
  let whole : Eval Int := do
    let value ← (ofDepth look (8 * source.length + 8)).assignment true
    if (← get).token == .finish then return value else throw .expectingEnd
  match whole ⟨t, rest, []⟩ with
  | .ok (value, p) => .ok (value, p.assigned.reverse)
  | .error fault => .error fault

end SurfaceGuard.Shell.Arithmetic
