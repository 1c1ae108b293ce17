import SurfaceGuard.Programs.Mode
import SurfaceGuard.Programs.Options

/-!
# Making directories

`mkdir` makes the directories that its operands name, and on demand those above them.
-/

namespace SurfaceGuard.Programs.Directories

/-- The options of `mkdir`. -/
def table : List ProgramOption :=
  [⟨0x70, some "parents", .none⟩, ⟨0x6D, some "mode", .required⟩, ⟨0x76, some "verbose", .none⟩,
    ⟨0x5A, none, .none⟩, ⟨0x5A, some "context", .optional⟩, ⟨0, some "help", .none⟩,
    ⟨0, some "version", .none⟩]

/-- How directories are made. -/
structure Making where
  program : Bytes
  withParents : Bool
  isVerbose : Bool
  mask : Nat
  mode? : Option Nat

/-- The proper beginnings of a path that name directories above its end, the topmost first, without
those that name the directory that they are in. -/
def ancestors (path : Bytes) : List Bytes :=
  let cuts := (List.range path.length).filter fun n =>
    path[n]? == some 0x2F && n ≠ 0 && path[n - 1]? != some 0x2F
      && ((path.drop n).dropWhile (· == 0x2F)).length ≠ 0
  (cuts.map path.take).filter fun front =>
    front == ascii ".." || (front.reverse.takeWhile (· != 0x2F)) != ascii "."

/-- Says that a directory was made. -/
def announce (m : Making) (path : Bytes) : Act Bytes := do
  return if m.isVerbose then
    m.program ++ ascii ": created directory " ++ Quoting.forShell path ++ Ascii.newline else []

/-- The mode of the directories above: their owner may always work in them. -/
def ancestorMode (m : Making) : Nat := (0o777 - (0o777 &&& m.mask)) ||| 0o300

/-- Is a path that of a directory above? -/
def isUpward (path : Bytes) : Bool := path.reverse.takeWhile (· != 0x2F) == ascii ".."

/-- Makes the directories above; what was said about them, and where and why that failed. -/
def makeAncestors (m : Making) : List Bytes → Act (Bytes × Option (Bytes × Errno))
  | [] => return ([], none)
  | path :: rest => do
    let made ← if isUpward path then pure (.error .alreadyThere)
      else Act.ask (.makeDirectory path 0o777)
    let said ← match made with
      | .ok () =>
        let _ ← Act.ask (.changeMode path (ancestorMode m))
        announce m path
      | .error _ => pure []
    match ← Act.ask (.inspect (path ++ ascii "/.")), made with
    | .ok _, _ =>
      let (more, fault?) ← makeAncestors m rest
      return (said ++ more, fault?)
    | .error .noEntry, .error e => return (said, some (path, e))
    | .error e, _ => return (said, some (path, e))

/-- Makes the directory of an operand; what was said, and whether that worked. -/
def makeOne (m : Making) (path : Bytes) : Act (Bytes × Bool) := do
  let refuse (path : Bytes) (e : Errno) : Act Unit :=
    complain m.program (ascii "cannot create directory " ++ Quoting.plain path ++ ascii ": " ++ e.reason)
  let (said, fault?) ← if m.withParents then makeAncestors m (ancestors path) else pure ([], none)
  match fault? with
  | some (above, e) =>
    refuse above e
    return (said, false)
  | none =>
    match ← Act.ask (.makeDirectory path (m.mode?.getD 0o777)) with
    | .ok () =>
      match m.mode? with
      | some mode =>
        let _ ← Act.ask (.changeMode path mode)
      | none => pure ()
      return (said ++ (← announce m path), true)
    | .error e =>
      let isThere ← if m.withParents && e ≠ .noEntry then
          match ← Act.ask (.inspect path) with
          | .ok info => pure (info.kind = .directory : Bool)
          | .error _ => pure false
        else pure false
      if isThere then return (said, true)
      else
        refuse path e
        return (said, false)

/-- Makes the directories of operands; what was said, and whether all of that worked. -/
def makeAll (m : Making) : List Bytes → Act (Bytes × Bool)
  | [] => return ([], true)
  | path :: rest => do
    let (said, isMade) ← makeOne m path
    let (more, areMade) ← makeAll m rest
    return (said ++ more, isMade && areMade)

/-- `mkdir`. -/
def mkdir (program : Bytes) (arguments : List Bytes) : Act Nat := do
  match Options.ofArguments table false arguments with
  | .error message => misuse program message 1
  | .ok given =>
    if given.operands.isEmpty then misuse program "missing operand" 1
    else
      let mask ← Act.ask (.setMask 0)
      let _ ← Act.ask (.setMask mask)
      let wanted? := given.value? 0x6D
      match wanted?.map (Mode.ofText? mask 0o777) with
      | some none =>
        complain program (ascii "invalid mode " ++ Quoting.plain (wanted?.getD []))
        return 1
      | mode =>
        let (said, areMade) ←
          makeAll ⟨program, given.has 0x70, given.has 0x76, mask, mode.bind id⟩ given.operands
        finish program said (if areMade then 0 else 1) 1

end SurfaceGuard.Programs.Directories
