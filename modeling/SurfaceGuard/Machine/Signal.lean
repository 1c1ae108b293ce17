import SurfaceGuard.Text.Ascii

/-!
# Signals

A signal is a number with a name, by which programs are told about it, and a description,
by which a process that it has ended is reported.
-/

namespace SurfaceGuard

/-- A signal, known by its number. -/
structure Signal where
  number : Nat
  deriving DecidableEq, Repr

/-- What a process does with a signal that it does not expect. -/
inductive DefaultAction where
  | terminate
  | ignore
  | stop
  | resume
  deriving DecidableEq, Repr

namespace Signal

/-- The line to the terminal was cut. -/
def hangup : Signal := ⟨1⟩

/-- The user asks for an interruption. -/
def interrupt : Signal := ⟨2⟩

/-- The user asks to quit. -/
def quit : Signal := ⟨3⟩

/-- The end that cannot be refused. -/
def kill : Signal := ⟨9⟩

/-- Nobody reads what is written. -/
def brokenPipe : Signal := ⟨13⟩

/-- The request to terminate. -/
def terminate : Signal := ⟨15⟩

/-- A child has ended. -/
def child : Signal := ⟨17⟩

/-- A stopped process is to go on. -/
def resume : Signal := ⟨18⟩

/-- The stop that cannot be refused. -/
def stop : Signal := ⟨19⟩

/-- How many signals there are. -/
def count : Nat := 64

/-- The names of the first signals, with their descriptions. -/
def table : List (Nat × Bytes × Bytes) :=
  [(1, "HUP", "Hangup"), (2, "INT", "Interrupt"), (3, "QUIT", "Quit"),
    (4, "ILL", "Illegal instruction"), (5, "TRAP", "Trace/breakpoint trap"), (6, "ABRT", "Aborted"),
    (7, "BUS", "Bus error"), (8, "FPE", "Floating point exception"), (9, "KILL", "Killed"),
    (10, "USR1", "User defined signal 1"), (11, "SEGV", "Segmentation fault"),
    (12, "USR2", "User defined signal 2"), (13, "PIPE", "Broken pipe"), (14, "ALRM", "Alarm clock"),
    (15, "TERM", "Terminated"), (16, "16", "Stack fault"), (17, "CHLD", "Child exited"),
    (18, "CONT", "Continued"), (19, "STOP", "Stopped (signal)"), (20, "TSTP", "Stopped"),
    (21, "TTIN", "Stopped (tty input)"), (22, "TTOU", "Stopped (tty output)"),
    (23, "URG", "Urgent I/O condition"), (24, "XCPU", "CPU time limit exceeded"),
    (25, "XFSZ", "File size limit exceeded"), (26, "VTALRM", "Virtual timer expired"),
    (27, "PROF", "Profiling timer expired"), (28, "WINCH", "Window changed"),
    (29, "IO", "I/O possible"), (30, "PWR", "Power failure"), (31, "SYS", "Bad system call")]

/-- The first of the signals that mean nothing to the system. -/
def firstFree : Nat := 34

/-- The name of a signal.  Those that mean nothing are counted from both of their ends. -/
def name (s : Signal) : Bytes :=
  match table.lookup s.number with
  | some (name, _) => name
  | none =>
    if s.number < firstFree then Ascii.ofNat s.number
    else if s.number = firstFree then "RTMIN"
    else if s.number < 50 then ascii "RTMIN+" ++ Ascii.ofNat (s.number - firstFree)
    else if s.number < count then ascii "RTMAX-" ++ Ascii.ofNat (count - s.number)
    else "RTMAX"

/-- The description of a signal. -/
def description (s : Signal) : Bytes :=
  match table.lookup s.number with
  | some (_, description) => description
  | none =>
    if s.number < firstFree then ascii "Unknown signal " ++ Ascii.ofNat s.number
    else ascii "Real-time signal " ++ Ascii.ofNat (s.number - firstFree)

/-- The signals in the order of their numbers. -/
def all : List Signal := (List.range count).map fun n => ⟨n + 1⟩

/-- The signal with a name, in any case of letters. -/
def ofName? (name : Bytes) : Option Signal :=
  let name := name.map Ascii.upper
  all.find? (·.name == name)

/-- What a process does with the signal if it does not expect it. -/
def defaultAction (s : Signal) : DefaultAction :=
  if [17, 23, 28].contains s.number then .ignore
  else if s.number = 18 then .resume
  else if [19, 20, 21, 22].contains s.number then .stop
  else .terminate

/-- Can the signal be neither ignored nor caught? -/
def isFirm (s : Signal) : Bool := s = kill || s = stop

end Signal

end SurfaceGuard
