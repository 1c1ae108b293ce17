import SurfaceGuard.Shell.Fields
import SurfaceGuard.Shell.State
import SurfaceGuard.Text.Numeral

/-!
# Variables

Setting a variable fails if it is protected.  Some variables mean something to the shell
itself: where commands are looked for, and which argument is looked at for options next.
A command may change variables for its own duration; their former values are kept on a stack.
-/

namespace SurfaceGuard

namespace Shell

/-- The variable with a name. -/
def binding? (s : Shell) (name : Bytes) : Option Variable := s.bindings.lookup name

/-- The value of a variable. -/
def valueOf? (s : Shell) (name : Bytes) : Option Bytes := (s.binding? name).bind Variable.value?

/-- The value of a variable; none is empty. -/
def valueOf (s : Shell) (name : Bytes) : Bytes := (s.valueOf? name).getD []

/-- The shell with a variable put in the place of the one with its name. -/
def putVariable (name : Bytes) (v : Variable) (s : Shell) : Shell :=
  { s with bindings := put s.bindings }
where
  /-- Variables with one of them changed or added. -/
  put : List (Bytes × Variable) → List (Bytes × Variable)
    | [] => [(name, v)]
    | e :: rest => if e.1 = name then (name, v) :: rest else e :: put rest

/-- The shell without a variable. -/
def dropVariable (name : Bytes) (s : Shell) : Shell :=
  { s with bindings := s.bindings.filter (·.1 ≠ name) }

/-- The bytes that separate fields. -/
def separators (s : Shell) : Bytes := (s.valueOf? "IFS").getD Fields.blanks

/-- The number by which names are sorted into a table. -/
def tableNumber (name : Bytes) : Nat :=
  name.foldl (fun n b => n + b.toNat) ((name.headD 0).toNat * 16)

/-- Entries in the order of a table with so many rows. -/
def inTable {α : Type} (rows : Nat) (entries : List (Bytes × α)) : List (Bytes × α) :=
  entries.mergeSort fun a b => tableNumber a.1 % 32768 % rows ≤ tableNumber b.1 % 32768 % rows

/-- The variables that programs are given, as they are given them. -/
def environment (s : Shell) : List Bytes :=
  (inTable 39 s.bindings).filterMap fun e =>
    if e.2.isExported then e.2.value?.map fun value => e.1 ++ 0x3D :: value else none

/-- A text in quotes that make it one word. -/
def quoteWord (t : Bytes) : Bytes := go (t.length + 1) t
where
  /-- The quoted pieces of a text: quotes in double quotes, all else in single ones. -/
  go : Nat → Bytes → Bytes
    | 0, _ => []
    | fuel + 1, t =>
      let plain := t.takeWhile (· != 0x27)
      let rest := t.drop plain.length
      let quotes := rest.takeWhile (· == 0x27)
      let rest := rest.drop quotes.length
      let front := 0x27 :: plain ++ [0x27]
      if quotes.isEmpty then front
      else front ++ 0x22 :: quotes ++ [0x22] ++ if rest.isEmpty then [] else go fuel rest

/-- A word of the form `name=value` as its name and its value. -/
def splitAssignment (w : Bytes) : Bytes × Option Bytes :=
  match w.dropWhile (· != 0x3D) with
  | [] => (w, none)
  | _ :: value => (w.takeWhile (· != 0x3D), some value)

end Shell

namespace Shell.Sh

/-- The number that a text writes, which is neither negative nor too great. -/
def natOf (t : Bytes) : Sh Nat := do
  match Numeral.whole? true t with
  | some n => if 0 ≤ n && n < Nat.pow 2 31 then return n.toNat else badNumber t
  | none => badNumber t

/-- Does what depends on the value of a variable. -/
def noticeVariable (name value : Bytes) : Sh Unit := do
  if name = ascii "PATH" then modify fun s => { s with remembered := [] }
  else if name = ascii "OPTIND" then
    let n ← natOf value
    modify fun s => { s with optionIndex := max n 1, optionOffset := none }

/-- Fails if a variable is protected. -/
def checkWritable (name : Bytes) : Sh Unit := do
  match ← look (·.binding? name) with
  | some v => whenever v.isReadOnly (fail (name ++ ascii ": is read only"))
  | none => return

/-- Fails if a text is no name of a variable. -/
def checkName (name : Bytes) : Sh Unit :=
  whenever (!Ascii.isName name) (fail (name ++ ascii ": bad variable name"))

/-- Gives a variable a value, and perhaps marks it. -/
def setVariableWith (name : Bytes) (value? : Option Bytes) (isExported isReadOnly : Bool) :
    Sh Unit := do
  checkName name
  checkWritable name
  let old := (← look (·.binding? name)).getD { value? := none }
  let exportsAll ← hasFlag .exportAll
  match value? with
  | some value => noticeVariable name value
  | none => pure ()
  modify (putVariable name
    { value?
      isExported := old.isExported || isExported || exportsAll
      isReadOnly := old.isReadOnly || isReadOnly })

/-- Gives a variable a value. -/
def setVariable (name value : Bytes) : Sh Unit := setVariableWith name (some value) false false

/-- Takes its value from a variable. -/
def unsetVariable (name : Bytes) : Sh Unit := do
  checkName name
  checkWritable name
  if (← look (·.binding? name)).isSome then noticeVariable name []
  modify (dropVariable name)

/-- Marks a variable, which need not have a value. -/
def markVariable (name : Bytes) (isExported isReadOnly : Bool) : Sh Unit := do
  match ← look (·.binding? name) with
  | some v =>
    modify (putVariable name { v with
      isExported := v.isExported || isExported, isReadOnly := v.isReadOnly || isReadOnly })
  | none => setVariableWith name none isExported isReadOnly

/-! ## Changes that are taken back -/

/-- Starts to keep former values. -/
def beginSaving : Sh Unit := modify fun s => { s with saved := [] :: s.saved }

/-- Keeps the former value of a variable. -/
def save (name : Bytes) : Sh Unit := modify fun s =>
  match s.saved with
  | [] => s
  | top :: rest => { s with saved := (⟨name, s.binding? name⟩ :: top) :: rest }

/-- The shell with variables changed back, the last change first. -/
def restored (s : Shell) (changes : List SavedVariable) : Shell :=
  changes.foldl (fun s c =>
    match c.former? with
    | some v => putVariable c.name v s
    | none => dropVariable c.name s) s

/-- Gives the variables their former values back that were kept since saving was started. -/
def endSaving : Sh Unit := modify fun s =>
  match s.saved with
  | [] => s
  | top :: rest => { restored s top with saved := rest }

/-- Gives variables their former values back until so many commands are left that change some. -/
def endSavingTo (depth : Nat) : Nat → Sh Unit
  | 0 => return
  | fuel + 1 => do
    if depth < (← look Shell.saved).length then
      endSaving
      endSavingTo depth fuel

/-- Makes a variable that gets its former value back. -/
def makeLocal (word : Bytes) (isExported : Bool) : Sh Unit := do
  let (name, value?) := splitAssignment word
  checkName name
  save name
  match value? with
  | some value => setVariableWith name (some value) isExported false
  | none =>
    match ← look (·.binding? name) with
    | some _ => return
    | none => modify (putVariable name { value? := none, isExported })

end Shell.Sh

end SurfaceGuard
