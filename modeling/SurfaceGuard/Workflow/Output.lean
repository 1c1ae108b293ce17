import SurfaceGuard.Host.Task
import SurfaceGuard.Workflow.Inputs

/-!
# Outputs of a workflow step

A step hands its outputs to the runner in one of two ways.  If a variable names a file for them,
each output is added to the end of that file, as a block of lines; if there is no such file, the
step is ended.  Without the variable each output is a command on the output stream.

The value in a block ends at a delimiter.  That has a random part, and an output that has the
delimiter in it is refused, so what the runner reads back is the value as it was.
-/

namespace SurfaceGuard.Workflow

/-- A named result of the step. -/
structure Output where
  name : Text
  value : Text
  deriving DecidableEq, Repr

/-- The name of the variable for the path of the file for outputs. -/
def outputName : Text := "GITHUB_OUTPUT"

/-- The path of the file for outputs, empty if there is none. -/
def outputPath (given : Variables) : Text := (Members.get? outputName given).getD []

/-! ## Delimiters -/

/-- The two hexadecimal digits of a byte. -/
def hexByte (b : UInt8) : Text := [Text.digit (b.toNat / 16), Text.digit (b.toNat % 16)]

/-- Random bytes with the bits set that say in which way an identifier was made. -/
def marked (bytes : Bytes) : Bytes :=
  (bytes.modify 6 fun b => b &&& 0x0F ||| 0x40).modify 8 fun b => b &&& 0x3F ||| 0x80

/-- The identifier of 16 random bytes: their hexadecimal digits in five groups. -/
def identifier (bytes : Bytes) : Text :=
  let digits := (marked bytes).flatMap hexByte
  Text.join "-" [digits.take 8, (digits.drop 8).take 4, (digits.drop 12).take 4,
    (digits.drop 16).take 4, digits.drop 20]

/-- The delimiter of a block, from random bytes. -/
def delimiter (bytes : Bytes) : Text := "ghadelimiter_" ++ identifier bytes

/-! ## Handing over -/

/-- The lines of an output in the file for outputs. -/
def Output.block (o : Output) (delimiter : Text) : Text :=
  o.name ++ "<<" ++ delimiter ++ Text.newline ++ o.value ++ Text.newline ++ delimiter
    ++ Text.newline

/-- The message for an output with the delimiter in its name or its value. -/
def unexpectedDelimiter (part delimiter : Text) : Text :=
  "Unexpected input: " ++ part ++ " should not contain the delimiter \"" ++ delimiter ++ "\""

/-- The message for a file for outputs that is not there. -/
def missingFile (path : Text) : Text := "Missing file at path: " ++ path

/-- Adds an output to the end of the file for outputs. -/
def appendBlock (path : Text) (o : Output) : Task Unit := do
  let delimiter := delimiter (← Task.randomBytes 16)
  if Text.includes delimiter o.name then
    Task.fail (.error (unexpectedDelimiter "name" delimiter))
  else if Text.includes delimiter o.value then
    Task.fail (.error (unexpectedDelimiter "value" delimiter))
  else if ← Task.pathExists path then Task.appendBytes path (Utf8.encode (o.block delimiter))
  else Task.fail (.error (missingFile path))

/-- Hands an output over. -/
def setOutput (given : Variables) (o : Output) : Task Unit :=
  match outputPath given with
  | [] => Task.record (.output o.name o.value)
  | path => appendBlock path o

/-- Hands outputs over in order. -/
def setOutputs (given : Variables) : List Output → Task Unit
  | [] => Task.done ()
  | o :: rest => do
    setOutput given o
    setOutputs given rest

end SurfaceGuard.Workflow
