import SurfaceGuard.Config
import SurfaceGuard.Text.LowerCase
import SurfaceGuard.Text.Utf8

/-!
# Inputs of a workflow step

A workflow step is configured by variables, one for each input.  White space around the
text of an input does not count, and an empty text leaves the choice to the configuration
file.
-/

namespace SurfaceGuard.Workflow

/-! ## Variables -/

/-- The variables of a workflow step: names with their values. -/
abbrev Variables := List (Text × Text)

/-- The text up to the first zero, as the system keeps it. -/
def kept (t : Text) : Text := Text.wellFormed (t.takeWhile (· != 0))

/-- The variables after one was set; a name with an equals sign in it cannot be set. -/
def setVariable (name value : Text) (vs : Variables) : Variables :=
  let name := kept name
  if name.isEmpty || name.contains 0x3D then vs else Members.insert name (kept value) vs

/-- The characters beside the small letters whose capital forms are letters of ASCII. -/
def capitals : List (CodeUnit × Text) :=
  [(0x00DF, "SS"), (0x0131, "I"), (0x017F, "S"), (0xFB00, "FF"), (0xFB01, "FI"), (0xFB02, "FL"),
    (0xFB03, "FFI"), (0xFB04, "FFL"), (0xFB05, "ST"), (0xFB06, "ST")]

/-- The capital form of a unit, as far as it is made of letters of ASCII; any other unit stays. -/
def capital (u : CodeUnit) : Text :=
  if 0x61 ≤ u && u ≤ 0x7A then [u - 0x20] else (capitals.lookup u).getD [u]

/-- The name of the variable for an input. -/
def variableName (input : Text) : Text :=
  "INPUT_" ++ (input.map fun u => if u == 0x20 then 0x5F else u).flatMap capital

/-- The variables as programs are given them. -/
def Variables.entries (vs : Variables) : List Bytes :=
  vs.map fun v => Utf8.encode (v.1 ++ 0x3D :: v.2)

/-! ## Inputs -/

/-- What a workflow step asks for. -/
structure Inputs where
  configPath : Text
  update : Bool
  mode : Option Mode
  failOnAdditions : Option Bool
  deriving DecidableEq, Repr

/-- The text of an input; an input that is not given is empty. -/
def input (given : Variables) (name : Text) : Text :=
  Text.trim ((Members.get? (variableName name) given).getD [])

/-- The failure for an input that has none of the expected values. -/
def refuse {α : Type} (name expected raw : Text) : Except GuardError α :=
  .error (.configInvalid ("input " ++ name) ["expected " ++ expected ++ ", got \"" ++ raw ++ "\""])

/-- An input that is true or false, in any case of letters; none if it is empty. -/
def flagInput (given : Variables) (name : Text) : Except GuardError (Option Bool) :=
  let raw := Text.lower (Text.trim (input given name))
  if raw = [] then .ok none
  else if raw = "true" then .ok (some true)
  else if raw = "false" then .ok (some false)
  else refuse name "true or false" raw

/-- The input for the mode; none if it is empty. -/
def modeInput (given : Variables) : Except GuardError (Option Mode) :=
  let raw := Text.trim (input given "mode")
  if raw = [] then .ok none
  else match Mode.ofName? raw with
    | some m => .ok (some m)
    | none => refuse "mode" "semver or strict" raw

/-- What the inputs ask for. -/
def Inputs.read (given : Variables) : Except GuardError Inputs := do
  let update ← flagInput given "update"
  let mode ← modeInput given
  let failOnAdditions ← flagInput given "fail-on-additions"
  let configPath := input given "config"
  return { configPath := if configPath = [] then Config.defaultPath else configPath
           update := update.getD false
           mode, failOnAdditions }

end SurfaceGuard.Workflow
