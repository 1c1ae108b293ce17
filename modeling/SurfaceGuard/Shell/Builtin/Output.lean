import SurfaceGuard.Programs.Format
import SurfaceGuard.Shell.State

/-!
# Options and output of built-in commands

How the built-in commands read their options, and the commands that write their arguments.
-/

namespace SurfaceGuard.Shell.Builtin

open Sh
open Programs

/-! ## Options -/

/-- Options of a built-in command: the letters, and those of them that have values. -/
structure Letters where
  plain : Bytes
  valued : Bytes := []

/-- The letters of one argument that are options, each with its value, and the arguments that are left;
the letters themselves follow the dash. -/
def optionLetters (ls : Letters) : Nat → Bytes → List Bytes → Sh (List (UInt8 × Bytes) × List Bytes)
  | 0, _, rest => return ([], rest)
  | _, [], rest => return ([], rest)
  | fuel + 1, c :: letters, rest => do
    if ls.valued.contains c then
      match letters, rest with
      | [], [] => fail (ascii "No arg for -" ++ c :: ascii " option")
      | [], value :: rest => return ([(c, value)], rest)
      | value, rest => return ([(c, value)], rest)
    else if ls.plain.contains c then
      let (more, rest) ← optionLetters ls fuel letters rest
      return ((c, []) :: more, rest)
    else fail (ascii "Illegal option -" ++ [c])

/-- The options in front of arguments, and the arguments after them. -/
def options (ls : Letters) : Nat → List Bytes → Sh (List (UInt8 × Bytes) × List Bytes)
  | 0, rest => return ([], rest)
  | _, [] => return ([], [])
  | fuel + 1, a :: rest => do
    match a with
    | [0x2D] => return ([], a :: rest)
    | [0x2D, 0x2D] => return ([], rest)
    | 0x2D :: letters =>
      let (front, rest) ← optionLetters ls (letters.length + 1) letters rest
      let (more, rest) ← options ls fuel rest
      return (front ++ more, rest)
    | _ => return ([], a :: rest)

/-- The options in front of arguments, and the arguments after them. -/
def optionsOf (ls : Letters) (args : List Bytes) : Sh (List (UInt8 × Bytes) × List Bytes) :=
  options ls (args.length + 1) args

/-- The arguments of a command that has no options. -/
def operandsOf (args : List Bytes) : Sh (List Bytes) := do return (← optionsOf { plain := [] } args).2

/-! ## Output -/

/-- The text of arguments with escapes and blanks between them, and whether it was not ended early. -/
def echoText : List Bytes → Bytes × Bool
  | [] => ([], true)
  | a :: rest =>
    match Format.argument .builtin (a.length + 1) a with
    | (text, some _) => (text, false)
    | (text, none) =>
      if rest.isEmpty then (text, true)
      else
        let (more, isWhole) := echoText rest
        (text ++ 0x20 :: more, isWhole)

/-- `echo`. -/
def echo (args : List Bytes) : Sh Nat := do
  let isBare := args.head? == some (ascii "-n")
  let (text, isWhole) := echoText (if isBare then args.drop 1 else args)
  print (text ++ if isWhole && !isBare then Ascii.newline else [])
  return 0

/-- `printf`. -/
def printf (args : List Bytes) : Sh Nat := do
  match ← operandsOf args with
  | [] => fail "usage: printf format [arg ...]"
  | format :: rest =>
    let p := Format.print .builtin format rest
    each warn p.complaints
    print p.bytes
    return p.status

end SurfaceGuard.Shell.Builtin
