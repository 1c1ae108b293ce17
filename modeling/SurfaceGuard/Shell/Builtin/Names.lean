import SurfaceGuard.Shell.Builtin.Output
import SurfaceGuard.Shell.Lookup

/-!
# What names stand for

The commands that show and change aliases, and those that tell what a name would stand for
as a command.
-/

namespace SurfaceGuard.Shell.Builtin

open Sh

/-! ## Aliases -/

/-- Shows an alias. -/
def showAlias (a : Bytes × Bytes) : Sh Unit := print (a.1 ++ 0x3D :: quoteWord a.2 ++ Ascii.newline)

/-- Complains about a name that is no alias. -/
def refuseAlias (command name : Bytes) : Sh Unit := do
  let _ ← writeTo 2 (command ++ ascii ": " ++ name ++ ascii " not found\n")

/-- The shell with an alias. -/
def withAlias (name value : Bytes) (s : Shell) : Shell :=
  { s with aliases :=
      if (s.aliases.lookup name).isSome then
        s.aliases.map fun a => if a.1 = name then (name, value) else a
      else s.aliases ++ [(name, value)] }

/-- Sets or shows the alias of a word; says whether there is one. -/
def aliasWord (w : Bytes) : Sh Bool := do
  match (w.drop 1).dropWhile (· != 0x3D) with
  | _ :: value =>
    modify (withAlias (w.take (w.length - value.length - 1)) value)
    return true
  | [] =>
    match (← look Shell.aliases).lookup w with
    | some value =>
      showAlias (w, value)
      return true
    | none =>
      refuseAlias "alias" w
      return false

/-- `alias`. -/
def alias_ (args : List Bytes) : Sh Nat := do
  if args.isEmpty then
    each showAlias (inTable 39 (← look Shell.aliases))
    return 0
  else
    let found ← mapList aliasWord args
    return if found.all id then 0 else 1

/-- Removes an alias; says whether there was one. -/
def removeAlias (name : Bytes) : Sh Bool := do
  if ((← look Shell.aliases).lookup name).isSome then
    modify fun s => { s with aliases := s.aliases.filter (·.1 ≠ name) }
    return true
  else
    refuseAlias "unalias" name
    return false

/-- `unalias`. -/
def unalias (args : List Bytes) : Sh Nat := do
  let (given, names) ← optionsOf { plain := "a" } args
  if !given.isEmpty then
    modify fun s => { s with aliases := [] }
    return 0
  else
    let found ← mapList removeAlias names
    return if found.all id then 0 else 1

/-! ## Commands -/

/-- The path of the directory with a number, among those that are looked through. -/
def programPath (scope : Lookup.Scope) (index : Nat) (name : Bytes) : Sh Bytes := do
  return Lookup.pathIn (((Lookup.directories (← get) scope)[index]?).getD []) name

/-- Tells what a name stands for; says whether it stands for anything. -/
def describe (scope : Lookup.Scope) (isLong : Bool) (name : Bytes) : Sh Nat := do
  let tell (long short : Bytes) : Sh Nat := do
    print ((if isLong then name ++ long else short) ++ Ascii.newline)
    return 0
  let missing : Sh Nat := do
    if isLong then print (name ++ ascii ": not found\n")
    return 127
  let s ← get
  if (Keyword.ofSpelling? name).isSome then tell " is a shell keyword" name
  else
    match s.aliases.lookup name with
    | some value =>
      if isLong then tell (ascii " is an alias for " ++ value) []
      else
        print "alias "
        showAlias (name, value)
        return 0
    | none =>
      let isTracked := scope.path?.isNone && (s.remembered.lookup name).isSome
      match ← Lookup.find scope name with
      | .function _ => tell " is a shell function" name
      | .builtin =>
        let kind : Bytes := if specialCommands.contains name then "special " else ""
        tell (ascii " is a " ++ kind ++ ascii "shell builtin") name
      | .program index =>
        let path ← programPath scope index name
        tell (ascii " is" ++ (if isTracked then ascii " a tracked alias for " else ascii " ") ++ path) path
      | .path =>
        match ← ask (.inspect name) with
        | .ok _ => tell (ascii " is " ++ name) name
        | .error _ => missing
      | .missing _ => missing

/-- The last of the results that are not zero, taken together. -/
def joinedStatus (results : List Nat) : Nat := results.foldl (· ||| ·) 0

/-- `type`. -/
def type_ (args : List Bytes) : Sh Nat := do
  return joinedStatus (← mapList (describe {} true) args)

/-- `command`, which here only tells what a name stands for. -/
def command (args : List Bytes) : Sh Nat := do
  let (given, words) ← optionsOf { plain := "pvV" } args
  let path? := if given.any (·.1 == 0x70) then some Lookup.defaultPath else none
  match given.filter (·.1 != 0x70), words with
  | asked, name :: _ =>
    if asked.isEmpty then return 0
    else describe { path? } (asked.any (·.1 == 0x56)) name
  | _, [] => return 0

/-- Shows where a command was found. -/
def showRemembered (e : Bytes × Remembered) : Sh Unit := do
  let path ← programPath {} e.2.index e.1
  print (path ++ (if e.2.isStale then ascii "*" else []) ++ Ascii.newline)

/-- Looks for a command once more; says whether it is there. -/
def hashWord (name : Bytes) : Sh Nat := do
  modify fun s => { s with remembered := s.remembered.filter (·.1 ≠ name) }
  match ← Lookup.find {} name with
  | .missing e =>
    warn (name ++ ascii ": " ++ Lookup.reason e)
    return 1
  | _ => return 0

/-- `hash`. -/
def hash (args : List Bytes) : Sh Nat := do
  let (given, names) ← optionsOf { plain := "r" } args
  if !given.isEmpty then
    modify fun s => { s with remembered := [] }
    return 0
  else if names.isEmpty then
    each showRemembered (inTable 31 (← look Shell.remembered))
    return 0
  else
    return joinedStatus (← mapList hashWord names)

end SurfaceGuard.Shell.Builtin
