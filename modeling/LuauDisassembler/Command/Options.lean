/-!
# Command-line options

Options and paths may come in any order; behind `--` everything is a path.  An argument that begins
with a hyphen and is longer than that is first looked up as a long option, which may carry a value
behind an equals sign.  If there is none of that name, a single hyphen begins a cluster of
one-letter options, and the one that takes a value takes the rest of the cluster, or the next
argument if nothing is left.

* `Options.ofArguments`: the options of an argument list, or the cause why it is refused.
* `Options.inputPath`: the one path that has to be given.
-/

namespace LuauDisassembler.Command

/-- The options that take no value. -/
inductive Switch
  | verbose | dump | bigEndian | noPc | raw | help
deriving DecidableEq, Repr

/-- An option: a switch, or the path of a settings document. -/
inductive Opt
  | switch (s : Switch)
  | config
deriving DecidableEq, Repr

/-- What an argument list asks for. -/
structure Options where
  switches : List Switch := []
  config : Option String := none
  paths : List String := []
deriving DecidableEq, Repr

/-- A cause for which an argument list is refused. -/
inductive UsageError
  | noSuchOption (name : String)
  | valueNotTaken (name : String)
  | valueMissing (name : String)
  | pathMissing
  | tooManyPaths
  | noSuchPath (path : String)
  | notReadable (path : String)
deriving DecidableEq, Repr

/-- The sentence that reports the cause. -/
def UsageError.message : UsageError → String
  | noSuchOption name => "No such option: " ++ name
  | valueNotTaken name => "Option takes no value: " ++ name
  | valueMissing name => "Option needs a value: " ++ name
  | pathMissing => "Missing argument: input path"
  | tooManyPaths => "Too many arguments"
  | noSuchPath path => "No such path: " ++ path
  | notReadable path => "Path is not readable: " ++ path

namespace Options

def longOptions : List (String × Opt) :=
  [("--verbose", .switch .verbose), ("--config", .config), ("--hex", .switch .dump),
    ("--big-endian", .switch .bigEndian), ("--no-pc", .switch .noPc), ("--raw", .switch .raw),
    ("--help", .switch .help)]

def shortOptions : List (Char × Opt) := [('v', .switch .verbose), ('c', .config)]

/-- Whether a switch is set. -/
def has (o : Options) (s : Switch) : Bool := s ∈ o.switches

def withSwitch (o : Options) (s : Switch) : Options := { o with switches := s :: o.switches }

/-- A later path of a settings document replaces an earlier one. -/
def withConfig (o : Options) (path : String) : Options := { o with config := some path }

def withPaths (o : Options) (paths : List String) : Options := { o with paths := o.paths ++ paths }

/-- Whether an argument is looked up as an option. -/
def isOption (arg : String) : Bool :=
  match arg.toList with
  | '-' :: _ :: _ => true
  | _ => false

/-- The name of a long option, and the value behind an equals sign. -/
def splitValue (arg : String) : String × Option String :=
  match arg.toList.dropWhile (· != '=') with
  | _ :: value => (String.ofList (arg.toList.takeWhile (· != '=')), some (String.ofList value))
  | [] => (arg, none)

/-- What an argument gives to the options. -/
inductive Reading
  /-- The options with all that the argument says. -/
  | complete (o : Options)
  /-- The argument ends with an option that takes the next argument for its value. -/
  | wantsConfig (o : Options) (name : String)

/-- Reads the letters of a cluster. -/
def readCluster (o : Options) : List Char → Except UsageError Reading
  | [] => .ok (.complete o)
  | c :: cs =>
    match shortOptions.lookup c with
    | some (.switch s) => readCluster (o.withSwitch s) cs
    | some .config =>
      if cs.isEmpty then .ok (.wantsConfig o (String.ofList ['-', c]))
      else .ok (.complete (o.withConfig (String.ofList cs)))
    | none => .error (.noSuchOption (String.ofList ['-', c]))

/-- Reads an argument that is looked up as an option. -/
def readOption (o : Options) (arg : String) : Except UsageError Reading :=
  match splitValue arg with
  | (name, value) =>
    match longOptions.lookup name, value with
    | some (.switch s), none => .ok (.complete (o.withSwitch s))
    | some (.switch _), some _ => .error (.valueNotTaken name)
    | some .config, some path => .ok (.complete (o.withConfig path))
    | some .config, none => .ok (.wantsConfig o name)
    | none, _ =>
      match arg.toList with
      | _ :: '-' :: _ => .error (.noSuchOption name)
      | cluster => readCluster o (cluster.drop 1)

/-- Reads the arguments into options that have been read so far. -/
def readArguments (o : Options) : List String → Except UsageError Options
  | [] => .ok o
  | arg :: args =>
    if arg = "--" then .ok (o.withPaths args)
    else if isOption arg then
      match readOption o arg with
      | .error e => .error e
      | .ok (.complete o) => readArguments o args
      | .ok (.wantsConfig o name) =>
        match args with
        | [] => .error (.valueMissing name)
        | path :: args => readArguments (o.withConfig path) args
    else readArguments (o.withPaths [arg]) args

/-- The options of an argument list. -/
def ofArguments (args : List String) : Except UsageError Options := readArguments {} args

/-- The path of the input; there has to be exactly one. -/
def inputPath (o : Options) : Except UsageError String :=
  match o.paths with
  | [path] => .ok path
  | [] => .error .pathMissing
  | _ => .error .tooManyPaths

end Options

end LuauDisassembler.Command
