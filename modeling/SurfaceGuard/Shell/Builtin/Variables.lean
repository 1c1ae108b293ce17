import SurfaceGuard.Shell.Builtin.Output
import SurfaceGuard.Shell.Signals

/-!
# Variables and arguments

The commands that change variables, options and arguments, and those that read them from
elsewhere.
-/

namespace SurfaceGuard.Shell.Builtin

open Sh

/-! ## Variables -/

/-- The names of variables in ascending order. -/
def sortedVariables (s : Shell) : List (Bytes × Variable) :=
  s.bindings.mergeSort fun a b => Ascii.le a.1 b.1

/-- A variable as a command that sets it. -/
def variableText (front : Bytes) (name : Bytes) (v : Variable) : Bytes :=
  let value := match v.value? with
    | some value => 0x3D :: quoteWord value
    | none => []
  (if front.isEmpty then [] else front ++ [0x20]) ++ name ++ value ++ Ascii.newline

/-- Shows the variables that satisfy a condition. -/
def showVariables (front : Bytes) (isShown : Variable → Bool) : Sh Unit := do
  let bindings ← look sortedVariables
  each (fun v => whenever (isShown v.2) (print (variableText front v.1 v.2))) bindings

/-- `export` and `readonly`. -/
def mark (isExported : Bool) (name : Bytes) (args : List Bytes) : Sh Nat := do
  let (given, words) ← optionsOf { plain := "p" } args
  if !given.isEmpty || words.isEmpty then
    showVariables name fun v => if isExported then v.isExported else v.isReadOnly
  else
    each (fun w => do
      match splitAssignment w with
      | (n, some value) => setVariableWith n (some value) isExported (!isExported)
      | (n, none) => markVariable n isExported (!isExported)) words
  return 0

/-- `local`. -/
def makeLocals (args : List Bytes) : Sh Nat := do
  if (← look Shell.depth) = 0 then fail "not in a function"
  else
    each (makeLocal · false) args
    return 0

/-- The shell without a function. -/
def dropFunction (name : Bytes) : Sh Unit := modify fun s =>
  { s with functions := s.functions.filter (·.1 ≠ name) }

/-- `unset`. -/
def unset (args : List Bytes) : Sh Nat := do
  let (given, words) ← optionsOf { plain := "vf" } args
  let isFunction := given.getLast?.any (·.1 == 0x66)
  each (fun w => if isFunction then dropFunction w else unsetVariable w) words
  return 0

/-! ## Options and arguments -/

/-- The shell with new arguments. -/
def withArguments (args : List Bytes) (s : Shell) : Shell :=
  { s with arguments := args, optionIndex := 1, optionOffset := none }

/-- Sets an option, or the opposite. -/
def setOption (isOn : Bool) (f : Flag) : Sh Unit := do
  modify (setFlag f isOn)
  if isOn && f = .viLine then modify (setFlag .emacsLine false)
  if isOn && f = .emacsLine then modify (setFlag .viLine false)

/-- Shows the options: for people, or as commands. -/
def showOptions (forPeople : Bool) : Sh Unit := do
  if forPeople then print "Current option settings\n"
  each (fun f => do
    let isOn ← hasFlag f.1
    let name := f.2.1
    if forPeople then
      print (name ++ List.replicate (16 - name.length) 0x20
        ++ (if isOn then ascii "on\n" else ascii "off\n"))
    else
      print (ascii "set " ++ (if isOn then ascii "-o " else ascii "+o ") ++ name ++ Ascii.newline))
    Flag.table

/-- Sets the options of one argument, whose letters follow its sign; the arguments that are left.  A
letter for which there is another use is passed on. -/
def optionWord (isOn : Bool) (other : UInt8 → Bool) :
    Bytes → List Bytes → Sh (Bytes × List Bytes)
  | [], rest => return ([], rest)
  | c :: letters, rest => do
    if other c then
      let (more, rest) ← optionWord isOn other letters rest
      return (c :: more, rest)
    else if c == 0x6F then
      match rest with
      | [] =>
        showOptions isOn
        optionWord isOn other letters []
      | name :: rest =>
        match Flag.ofName? name with
        | some f => setOption isOn f
        | none => fail (ascii "Illegal option -o " ++ name)
        optionWord isOn other letters rest
    else
      match Flag.ofLetter? c with
      | some f => setOption isOn f
      | none => fail (ascii "Illegal option -" ++ [c])
      optionWord isOn other letters rest

/-- Refuses to watch over jobs, as there is no terminal. -/
def refuseMonitor : Sh Unit := do
  if (← hasFlag .monitor) && (← look Shell.level) = 0 then
    warn "can't access tty; job control turned off"
    modify (setFlag .monitor false)

/-- Sets the options in front of arguments; the arguments after them, if they are to be set. -/
def setOptions : Nat → List Bytes → Sh (Option (List Bytes))
  | 0, _ => return none
  | _, [] => return none
  | fuel + 1, a :: rest => do
    match a with
    | [0x2D] =>
      modify (setFlag .traceCommands false)
      modify (setFlag .traceInput false)
      return if rest.isEmpty then none else some rest
    | [0x2D, 0x2D] => return some rest
    | 0x2D :: letters =>
      let (_, rest) ← optionWord true (fun _ => false) letters rest
      setOptions fuel rest
    | 0x2B :: letters =>
      let (_, rest) ← optionWord false (fun _ => false) letters rest
      setOptions fuel rest
    | _ => return some (a :: rest)

/-- `set`. -/
def set (args : List Bytes) : Sh Nat := do
  if args.isEmpty then showVariables [] (·.value?.isSome)
  else
    let args? ← setOptions (args.length + 1) args
    refuseMonitor
    match args? with
    | some args => modify (withArguments args)
    | none => pure ()
  return 0

/-- `shift`. -/
def shift (args : List Bytes) : Sh Nat := do
  let n ← match args with
    | [] => pure 1
    | a :: _ => natOf a
  let arguments ← look Shell.arguments
  if arguments.length < n then fail "can't shift that many"
  else
    modify (withArguments (arguments.drop n))
    return 0

/-! ## Options of scripts -/

/-- Gives a variable a value without doing what depends on it. -/
def setQuietly (name value : Bytes) : Sh Unit := do
  checkWritable name
  let old := (← look (·.binding? name)).getD { value? := none }
  modify (putVariable name { old with value? := some value })

/-- What looking for the next option comes to. -/
structure NextOption where
  /-- The value of the variable for the option. -/
  letter : UInt8
  /-- The value of the option; none if the variable for it is to stay. -/
  value? : Option (Option Bytes)
  message? : Option Bytes
  /-- How many words were looked at, and how far within the last one. -/
  index : Nat
  offset : Option Nat
  isDone : Bool

/-- The next option among words. -/
def nextOption (letters : Bytes) (words : List Bytes) (index : Nat) (offset? : Option Nat) : NextOption :=
  let inside : Option (Bytes × Nat) := do
    let offset ← offset?
    let w ← if index ≤ 1 then none else words[index - 2]?
    if w.length < offset || (w.drop offset).isEmpty then none else some (w.drop offset, index)
  let found : Except Nat (Bytes × Nat) := match inside with
    | some r => .ok r
    | none =>
      match words[index - 1]? with
      | some (0x2D :: c :: more) =>
        if c == 0x2D && more.isEmpty then .error (index + 1) else .ok (c :: more, index + 1)
      | _ => .error index
  match found with
  | .error index => ⟨0x3F, none, none, index, none, true⟩
  | .ok (t, index) =>
    let c := t.headD 0
    let rest := t.drop 1
    let isSilent := letters.head? == some 0x3A
    let offsetOf : Option Nat := (words[index - 2]?).map fun w => w.length - rest.length
    match position letters c with
    | none =>
      ⟨0x3F, some (if isSilent then some [c] else none),
        if isSilent then none else some (ascii "Illegal option -" ++ c :: Ascii.newline),
        index, offsetOf, false⟩
    | some takesValue =>
      if !takesValue then ⟨c, some (some []), none, index, offsetOf, false⟩
      else if !rest.isEmpty then ⟨c, some (some rest), none, index, none, false⟩
      else match words[index - 1]? with
        | some value => ⟨c, some (some value), none, index + 1, none, false⟩
        | none =>
          if isSilent then ⟨0x3A, some (some [c]), none, index, none, false⟩
          else ⟨0x3F, some none, some (ascii "No arg for -" ++ c :: ascii " option\n"), index, none, false⟩
where
  /-- Is a letter among those that are looked for, and does it take a value? -/
  position : Bytes → UInt8 → Option Bool
    | [], _ => none
    | q :: rest, c =>
      if q == c then some (rest.head? == some 0x3A)
      else position (if rest.head? == some 0x3A then rest.drop 1 else rest) c
  termination_by t => t.length
  decreasing_by
    rw [List.length_cons]
    split
    · rw [List.length_drop]
      omega
    · exact Nat.lt_succ_self rest.length

/-- `getopts`. -/
def getopts (args : List Bytes) : Sh Nat := do
  match args with
  | letters :: name :: more =>
    let s ← get
    let words := if more.isEmpty then s.arguments else more
    let isBeyond := words.length + 1 < s.optionIndex
    let (index, offset?) := if isBeyond then (1, none) else (s.optionIndex, s.optionOffset)
    let r := nextOption letters words index offset?
    match r.value? with
    | some (some value) => setVariable "OPTARG" value
    | some none => unsetVariable "OPTARG"
    | none => pure ()
    match r.message? with
    | some message =>
      let _ ← writeTo 2 message
    | none => pure ()
    setQuietly "OPTIND" (Ascii.ofNat r.index)
    modify fun s => { s with optionIndex := r.index, optionOffset := r.offset }
    setVariable name [r.letter]
    return if r.isDone then 1 else 0
  | _ => fail "Usage: getopts optstring var [arg...]"

/-! ## Reading a line -/

/-- A line that was read: its pieces, those that may be split and those that were escaped, and
whether its end was reached. -/
structure InputLine where
  segments : List Segment
  isWhole : Bool

/-- A piece that may be split. -/
def splitPiece (t : Bytes) : List Segment :=
  if t.isEmpty then [] else [⟨t.reverse.map (.byte · false), .atSeparators⟩]

/-- Reads a line byte by byte; the piece at hand is kept with its last byte first. -/
def readLine (isRaw : Bool) : Nat → Bytes → Bool → Sh InputLine
  | 0, piece, _ => return ⟨splitPiece piece, false⟩
  | fuel + 1, piece, isEscaped => do
    match ← ask (.read 0 1) with
    | .error .interrupted =>
      noticeSignals
      if (← look Shell.pending).isEmpty then readLine isRaw fuel piece isEscaped
      else return ⟨splitPiece piece, false⟩
    | .error _ => return ⟨splitPiece piece, false⟩
    | .ok [] => return ⟨splitPiece piece, false⟩
    | .ok (b :: _) =>
      if b == 0 then readLine isRaw fuel piece isEscaped
      else if isEscaped then
        let rest ← readLine isRaw fuel [] false
        let escaped : List Segment := if b == 0x0A then [] else [⟨[.byte b true], .none⟩]
        return ⟨splitPiece piece ++ escaped ++ rest.segments, rest.isWhole⟩
      else if b == 0x5C && !isRaw then readLine isRaw fuel piece true
      else if b == 0x0A then return ⟨splitPiece piece, true⟩
      else readLine isRaw fuel (b :: piece) false

/-- Gives variables the fields of a line; those without a field become empty. -/
def assignFields : List Bytes → List Bytes → Sh Unit
  | [], _ => return
  | name :: names, [] => do
    setVariable name []
    assignFields names []
  | name :: names, field :: fields => do
    setVariable name field
    assignFields names fields

/-- `read`. -/
def read (args : List Bytes) : Sh Nat := do
  let (given, names) ← optionsOf { plain := "r", valued := "p" } args
  if names.isEmpty then fail "arg count"
  else
    let line ← readLine (given.any (·.1 == 0x72)) (Nat.pow 2 40) [] false
    let separators := (← get).separators
    let fields := Fields.split separators (some names.length) line.segments
    assignFields names (fields.map Fields.bytes)
    return if line.isWhole then 0 else 1

end SurfaceGuard.Shell.Builtin
