import SurfaceGuard.Machine.Behaviour
import SurfaceGuard.Programs.Quoting

/-!
# Options of programs

The arguments of a program are options and operands.  Letters after one dash may share an
argument, and a name after two dashes may be cut off where it still stands for one option
only.  Nothing after two dashes alone is an option.
-/

namespace SurfaceGuard.Programs

/-- Does an option have a value? -/
inductive Valued where
  | none
  | optional
  | required
  deriving DecidableEq, Repr

/-- An option: its letter, its long name if it has one, and whether it has a value. -/
structure ProgramOption where
  letter : UInt8
  name? : Option Bytes
  valued : Valued
  deriving DecidableEq, Repr

/-- The options that were given, with their values, and the operands. -/
structure Given where
  options : List (UInt8 × Bytes)
  operands : List Bytes
  deriving DecidableEq, Repr

namespace Given

/-- Was an option given? -/
def has (g : Given) (letter : UInt8) : Bool := g.options.any (·.1 == letter)

/-- The last value of an option that was given. -/
def value? (g : Given) (letter : UInt8) : Option Bytes := g.options.reverse.lookup letter

end Given

namespace Options

/-- Another option that was given. -/
def addOption (letter : UInt8) (value : Bytes) : Except Bytes Given → Except Bytes Given
  | .ok g => .ok { g with options := (letter, value) :: g.options }
  | e => e

/-- Another operand. -/
def addOperand (a : Bytes) : Except Bytes Given → Except Bytes Given
  | .ok g => .ok { g with operands := a :: g.operands }
  | e => e

/-- A text in quotes. -/
def quoted (t : Bytes) : Bytes := 0x27 :: t ++ [0x27]

/-- The options that a long name may stand for. -/
def candidates (table : List ProgramOption) (name : Bytes) : List ProgramOption :=
  let exact := table.filter (·.name? == some name)
  if exact.isEmpty then table.filter fun o => o.name?.any name.isPrefixOf else exact

/-- The options and operands among arguments, or what is wrong with them.  Options end at the first
operand where they have to come first. -/
def parse (table : List ProgramOption) (comeFirst : Bool) : Nat → List Bytes → Except Bytes Given
  | 0, rest => .ok ⟨[], rest⟩
  | _, [] => .ok ⟨[], []⟩
  | fuel + 1, a :: rest =>
    match a with
    | [0x2D, 0x2D] => .ok ⟨[], rest⟩
    | 0x2D :: 0x2D :: long =>
      let name := long.takeWhile (· != 0x3D)
      let value? := if name.length < long.length then some (long.drop (name.length + 1)) else none
      match candidates table name with
      | [] => .error (ascii "unrecognized option " ++ quoted a)
      | [o] =>
        let shown := quoted (ascii "--" ++ o.name?.getD [])
        match o.valued, value?, rest with
        | .none, some _, _ => .error (ascii "option " ++ shown ++ ascii " doesn't allow an argument")
        | .required, none, [] => .error (ascii "option " ++ shown ++ ascii " requires an argument")
        | .required, none, value :: rest =>
          addOption o.letter value (parse table comeFirst fuel rest)
        | _, _, _ => addOption o.letter (value?.getD []) (parse table comeFirst fuel rest)
      | many =>
        .error (ascii "option " ++ quoted a ++ ascii " is ambiguous; possibilities:"
          ++ many.flatMap fun o => 0x20 :: quoted (ascii "--" ++ o.name?.getD []))
    | 0x2D :: letter :: more =>
      match table.find? (·.letter == letter) with
      | none => .error (ascii "invalid option -- " ++ quoted [letter])
      | some o =>
        match o.valued, more, rest with
        | .none, [], _ => addOption letter [] (parse table comeFirst fuel rest)
        | .none, _, _ => addOption letter [] (parse table comeFirst fuel ((0x2D :: more) :: rest))
        | .required, [], [] => .error (ascii "option requires an argument -- " ++ quoted [letter])
        | .required, [], value :: rest =>
          addOption letter value (parse table comeFirst fuel rest)
        | _, _, _ => addOption letter more (parse table comeFirst fuel rest)
    | _ => if comeFirst then .ok ⟨[], a :: rest⟩ else addOperand a (parse table comeFirst fuel rest)

/-- The options and operands among arguments, or what is wrong with them. -/
def ofArguments (table : List ProgramOption) (comeFirst : Bool) (arguments : List Bytes) :
    Except Bytes Given :=
  parse table comeFirst (arguments.foldr (fun a n => a.length + 1 + n) 0 + 1) arguments

end Options

/-! ## Messages -/

/-- Writes a message of a program. -/
def complain (program message : Bytes) : Act Unit := do
  let _ ← Act.write 2 (program ++ ascii ": " ++ message ++ Ascii.newline)

/-- Writes where to learn how to use a program. -/
def suggestHelp (program : Bytes) : Act Unit := do
  let _ ← Act.write 2 (ascii "Try '" ++ program ++ ascii " --help' for more information.\n")

/-- Ends a program that was used in a wrong way. -/
def misuse (program message : Bytes) (status : Nat) : Act Nat := do
  complain program message
  suggestHelp program
  return status

/-- Ends a program with its output; one that cannot write it fails. -/
def finish (program output : Bytes) (status : Nat) (failure : Nat) : Act Nat := do
  if output.isEmpty then return status
  else
    match ← Act.write 1 output with
    | .ok () => return status
    | .error e =>
      complain program (ascii "write error: " ++ e.reason)
      return failure

end SurfaceGuard.Programs
