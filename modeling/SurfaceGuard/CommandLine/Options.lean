import SurfaceGuard.Config

/-!
# Command-line options

The options of the command line and the way arguments are read.  An option with a value
takes the next argument whatever it looks like; `--name=value` and the short forms
`-cvalue`, `-qc value` work too, and of a repeated option the last one counts.  Arguments
are read from left to right: a missing or unacceptable value and the request for the
version stop the reading where they are met, an unknown option or the request for help
only after all the others were read.

What the arguments leave behind is a record of values by name.  The options are read from it as a
configuration is from its file, so a record of another shape would be refused; no arguments lead to
one.
-/

namespace SurfaceGuard

/-- What the command line asks for. -/
structure CliOptions where
  config : Text := Config.defaultPath
  update : Bool := false
  mode : Option Mode := none
  failOnAdditions : Option Bool := none
  reportDir : Option Text := none
  verbose : Bool := false
  quiet : Bool := false
  deriving DecidableEq, Repr

open Shape in
/-- The shape of the record that arguments leave behind. -/
def CliOptions.shape : Shape CliOptions := object fun o =>
  CliOptions.mk
    <$> field "config" (withDefault Config.defaultPath text) o
    <*> field "update" (withDefault false flag) o
    <*> field "mode" (optional (word Mode.words)) o
    <*> field "failOnAdditions" (optional flag) o
    <*> field "reportDir" (optional text) o
    <*> field "verbose" (withDefault false flag) o
    <*> field "quiet" (withDefault false flag) o

namespace CommandLine

/-- The values of options by the names under which they are kept. -/
abbrev Values := List (Text × Json)

/-- The values before any argument is read. -/
def defaults : Values :=
  [("config", .string Config.defaultPath), ("update", .boolean false), ("verbose", .boolean false),
    ("quiet", .boolean false)]

/-- The options of the command line. -/
inductive Flag where
  | version
  | config
  | update
  | mode
  | failOnAdditions
  | noFailOnAdditions
  | reportDir
  | verbose
  | quiet
  deriving DecidableEq, Repr

/-- Why reading stops without options. -/
inductive Stop where
  | help
  | version
  | unknownOption (argument : Text)
  | missingValue (flag : Flag)
  | unknownMode (value : Text)
  deriving DecidableEq, Repr

namespace Flag

/-- All options, in the order in which they are looked up. -/
def all : List Flag :=
  [version, config, update, mode, failOnAdditions, noFailOnAdditions, reportDir, verbose, quiet]

/-- The long form of an option. -/
def long : Flag → Text
  | version => "--version"
  | config => "--config"
  | update => "--update"
  | mode => "--mode"
  | failOnAdditions => "--fail-on-additions"
  | noFailOnAdditions => "--no-fail-on-additions"
  | reportDir => "--report-dir"
  | verbose => "--verbose"
  | quiet => "--quiet"

/-- The short form of an option. -/
def short? : Flag → Option Text
  | version => some "-v"
  | config => some "-c"
  | quiet => some "-q"
  | _ => none

/-- The name of the value of an option; none for an option without a value. -/
def valueName? : Flag → Option Text
  | config => some "<path>"
  | mode => some "<mode>"
  | reportDir => some "<dir>"
  | _ => none

/-- Does the option have a value? -/
def takesValue (f : Flag) : Bool := f.valueName?.isSome

/-- The forms of an option as messages show them. -/
def usage (f : Flag) : Text :=
  (match f.short? with
    | some short => short ++ ", "
    | none => ([] : Text))
    ++ f.long
    ++ (match f.valueName? with
      | some name => " " ++ name
      | none => ([] : Text))

/-- The option with the given long or short form. -/
def ofForm? (form : Text) : Option Flag :=
  all.find? fun f => f.short? == some form || f.long == form

/-- The name under which the value of an option is kept; the two options about additions share
one. -/
def name : Flag → Text
  | version => "version"
  | config => "config"
  | update => "update"
  | mode => "mode"
  | failOnAdditions => "failOnAdditions"
  | noFailOnAdditions => "failOnAdditions"
  | reportDir => "reportDir"
  | verbose => "verbose"
  | quiet => "quiet"

/-- What an option is set to; the argument is that of an option with a value. -/
def setting (f : Flag) (argument : Text) : Except Stop Json :=
  match f with
  | version => .error .version
  | config => .ok (.string argument)
  | reportDir => .ok (.string argument)
  | mode =>
    if (Mode.ofName? argument).isSome then .ok (.string argument)
    else .error (.unknownMode argument)
  | update => .ok (.boolean true)
  | failOnAdditions => .ok (.boolean true)
  | noFailOnAdditions => .ok (.boolean false)
  | verbose => .ok (.boolean true)
  | quiet => .ok (.boolean true)

/-- The values after an option was set. -/
def apply (f : Flag) (argument : Text) (values : Values) : Except Stop Values :=
  (f.setting argument).map fun value => Members.insert f.name value values

end Flag

/-! ## Forms of arguments -/

/-- The unit that options start with. -/
def dash : CodeUnit := 0x2D

/-- Is the argument an option, known or not?  A dash alone is none. -/
def isOption (arg : Text) : Bool := arg.head? == some dash && 1 < arg.length

/-- An argument that starts with a short option and goes on, as that option and the rest. -/
def cluster? : Text → Option (Flag × Text)
  | d :: letter :: u :: rest =>
    if d == dash && letter != dash then
      (Flag.ofForm? [dash, letter]).map fun f => (f, u :: rest)
    else none
  | _ => none

/-- An argument of the form `--name=value`, for an option with a value. -/
def assignment? (arg : Text) : Option (Flag × Text) :=
  let name := arg.takeWhile (· != 0x3D)
  match arg.dropWhile (· != 0x3D) with
  | [] => none
  | _ :: value =>
    match Flag.ofForm? name with
    | some f => if f.takesValue then some (f, value) else none
    | none => none

/-! ## Reading -/

/-- How much there is to read. -/
def weight (args : List Text) : Nat := args.foldr (fun a n => a.length + 1 + n) 0

/-- The values that the arguments leave, and the arguments from the first unknown option on. -/
def scan (values : Values) (unknown : List Text) : List Text → Except Stop (Values × List Text)
  | [] => .ok (values, unknown)
  | arg :: rest =>
    if arg = [dash, dash] then .ok (values, if unknown.isEmpty then [] else unknown ++ arg :: rest)
    else
      match Flag.ofForm? arg with
      | some f =>
        if f.takesValue then
          match rest with
          | [] => .error (.missingValue f)
          | value :: rest => (f.apply value values).bind fun values => scan values unknown rest
        else (f.apply [] values).bind fun values => scan values unknown rest
      | none =>
        match _hc : cluster? arg with
        | some (f, tail) =>
          if f.takesValue then (f.apply tail values).bind fun values => scan values unknown rest
          else (f.apply [] values).bind fun values => scan values unknown ((dash :: tail) :: rest)
        | none =>
          match assignment? arg with
          | some (f, value) => (f.apply value values).bind fun values => scan values unknown rest
          | none =>
            if isOption arg || !unknown.isEmpty then scan values (unknown ++ [arg]) rest
            else scan values unknown rest
  termination_by args => weight args
  decreasing_by
    all_goals simp only [weight, List.foldr_cons]
    all_goals try omega
    unfold cluster? at _hc
    split at _hc
    · split at _hc
      · simp only [Option.map_eq_some_iff, Prod.mk.injEq] at _hc
        obtain ⟨_, _, _, rfl⟩ := _hc
        simp only [List.length_cons]
        omega
      · simp at _hc
    · simp at _hc

/-- The forms of the request for help. -/
def helpForms : List Text := ["-h", "--help"]

/-- The values that a command line leaves. -/
def read (args : List Text) : Except Stop Values :=
  match scan defaults [] args with
  | .error stop => .error stop
  | .ok (values, unknown) =>
    if unknown.any (helpForms.contains ·) then .error .help
    else match unknown with
      | [] => .ok values
      | arg :: _ => .error (.unknownOption arg)

/-- The options of a command line, if the values that it leaves have the shape of options. -/
def parse (args : List Text) : Except Stop (Checked CliOptions) :=
  (read args).map fun values => CliOptions.shape (some (.object values))

end CommandLine

end SurfaceGuard
