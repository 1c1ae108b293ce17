import SurfaceGuard.Machine.Schedule
import SurfaceGuard.Programs.Cat
import SurfaceGuard.Programs.Directories
import SurfaceGuard.Programs.Small
import SurfaceGuard.Shell.Program

/-!
# The installation

The programs of a machine, and the files that are there before anything else is: the
programs in their directories, the devices, and a directory for everybody's files.  Only
the latter can be written to.
-/

namespace SurfaceGuard.Programs.Installation

/-! ## Programs -/

/-- The programs by their names. -/
def programs : List (Bytes × ((program : Bytes) → (arguments environment : List Bytes) → Behaviour)) :=
  [("sh", Shell.Program.behaviour), ("dash", Shell.Program.behaviour),
    ("true", fun _ _ _ => .exit 0), ("false", fun _ _ _ => .exit 1),
    ("sleep", fun p args _ => (Sleep.sleep p args).toBehaviour),
    ("printf", fun p args _ => (printf p args).toBehaviour),
    ("cat", fun p args _ => (Cat.cat p args).toBehaviour),
    ("mkdir", fun p args _ => (Directories.mkdir p args).toBehaviour),
    ("env", fun p args environment => (Env.env p args environment).toBehaviour)]

/-- Starts a program. -/
def load : Machine.Loader := fun name arguments environment =>
  match programs.lookup name with
  | some start => start (arguments.headD []) (arguments.drop 1) environment
  | none => .exit 127

/-- The directories in which programs are looked for. -/
def searchPath : Bytes := Shell.Lookup.defaultPath

/-! ## Files -/

/-- The mode of what nobody may change. -/
def fixedMode : Nat := 0o555

/-- The mode of what everybody may change. -/
def openMode : Nat := 0o777

/-- The programs as files. -/
def programFiles : List (Bytes × Node) :=
  programs.zipIdx.map fun e => (e.1.1, .program ⟨e.2 + 40, fixedMode, 0⟩ e.1.1)

/-- A directory that nobody may change. -/
def fixed (serial : Nat) (entries : List (Bytes × Node)) : Node :=
  .directory ⟨serial, fixedMode, 0⟩ entries

/-- A device that everybody may use. -/
def device (serial : Nat) (kind : Device) : Node := .device ⟨serial, 0o666, 0⟩ kind

/-- The devices by their names. -/
def devices : List (Bytes × Node) :=
  [("null", device 20 .null), ("zero", device 21 .zero), ("full", device 22 .full),
    ("tty", device 23 .terminal), ("stdin", device 24 (.descriptor 0)),
    ("stdout", device 25 (.descriptor 1)), ("stderr", device 26 (.descriptor 2)),
    ("fd", fixed 27 ((List.range 10).map fun n => (Ascii.ofNat n, device (30 + n) (.descriptor n))))]

/-- The files of the machine. -/
def files : FileTree where
  root := fixed 1
    [("bin", fixed 2 programFiles), ("dev", fixed 3 devices), ("etc", fixed 4 []),
      ("home", fixed 5 []), ("opt", fixed 6 []), ("root", .directory ⟨7, 0, 0⟩ []),
      ("sbin", fixed 8 []), ("tmp", .directory ⟨9, openMode, 0⟩ []),
      ("usr", fixed 10
        [("bin", fixed 2 programFiles), ("sbin", fixed 8 []),
          ("local", fixed 11 [("bin", fixed 12 []), ("sbin", fixed 13 [])])]),
      ("var", fixed 14 [("tmp", .directory ⟨15, openMode, 0⟩ [])])]
  next := 100

end SurfaceGuard.Programs.Installation
