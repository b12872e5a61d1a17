import StateMetrics.Flags.Similarity
import StateMetrics.Text.Integer

/-! # Command-line flags

The exporter takes only long options with one value each, `--name value` or `--name=value`,
plus `-h`/`--help` and `-V`/`--version`. Every option but `--collectors` may be given once;
`--collectors` may be repeated and its values are split at commas. `--config` falls back to the
`STATE_METRICS_CONFIG` variable.

Arguments are read from left to right. An option without an attached value waits for the next
argument as its value, and is settled when the next option starts or the arguments end: an
option left without a value is refused then. A value that starts with a hyphen is read as a
flag, so `--port -1` is an unknown argument. After `--` every argument is unexpected, and so is
any argument no option is waiting for. Help and version answer at once when reached, after
settling the option before them.

Refusals are rendered as the message, an optional tip naming the most similar known option, the
usage line (naming the options given so far, or `[OPTIONS]`), and a pointer to `--help`. For help
or version given a value, the usage line is read before the waiting option is settled, and names
the flag, then all the value options as one group once any of them has been settled. -/

namespace StateMetrics.Flags

/-- The options of the command line. -/
inductive Opt where
  | config
  | port
  | kubeconfig
  | collectors
  | logLevel
  | metricsNamespace
  | help
  | version
  deriving Repr, BEq, DecidableEq, Inhabited

namespace Opt

/-- All options, in the order they are declared. -/
def all : List Opt := [config, port, kubeconfig, collectors, logLevel, metricsNamespace, help, version]

/-- The long name, without the leading hyphens. -/
def long : Opt → String
  | config => "config"
  | port => "port"
  | kubeconfig => "kubeconfig"
  | collectors => "collectors"
  | logLevel => "log-level"
  | metricsNamespace => "metrics-namespace"
  | help => "help"
  | version => "version"

/-- The name of the value in usage lines. -/
def valueName : Opt → String
  | config => "CONFIG"
  | port => "PORT"
  | kubeconfig => "KUBECONFIG"
  | collectors => "COLLECTORS"
  | logLevel => "LOG_LEVEL"
  | metricsNamespace => "METRICS_NAMESPACE"
  | _ => ""

/-- Whether the option takes a value; help and version do not. -/
def takesValue (o : Opt) : Bool := o != help && o != version

/-- The option as usage lines and messages show it: `--port <PORT>`, `--help`. -/
def display (o : Opt) : String :=
  "--" ++ o.long ++ (if o.takesValue then " <" ++ o.valueName ++ ">" else "")

/-- The option with a long name. -/
def ofLong? (name : String) : Option Opt := all.find? (·.long == name)

end Opt

/-- The flags given on the command line. -/
structure Cli where
  config : Option String := none
  port : Option Nat := none
  kubeconfig : Option String := none
  collectors : Option (List String) := none
  logLevel : Option String := none
  metricsNamespace : Option String := none
  deriving Repr, BEq, DecidableEq, Inhabited

/-- Why parsing stopped. -/
inductive ErrorKind where
  | displayHelp
  | displayVersion
  | unknownArgument
  | argumentConflict
  | invalidValue
  | valueValidation
  | tooManyValues
  deriving Repr, BEq, DecidableEq, Inhabited

/-- The kind's name. -/
def ErrorKind.name : ErrorKind → String
  | .displayHelp => "DisplayHelp"
  | .displayVersion => "DisplayVersion"
  | .unknownArgument => "UnknownArgument"
  | .argumentConflict => "ArgumentConflict"
  | .invalidValue => "InvalidValue"
  | .valueValidation => "ValueValidation"
  | .tooManyValues => "TooManyValues"

/-- A stop of parsing, with the text to show. -/
structure FlagError where
  kind : ErrorKind
  message : String
  deriving Repr, BEq, DecidableEq, Inhabited

/-- The exit code: zero for help and version, two for refusals. -/
def FlagError.exitCode (e : FlagError) : Nat :=
  if e.kind == .displayHelp || e.kind == .displayVersion then 0 else 2

/-- The program's name and version. -/
def versionText : String := "state-metrics 0.1.0\n"

/-- The help page; it shows the value of the variable that `--config` falls back to. -/
def helpText (configEnv : Option String) : String :=
  "Export Kubernetes object state as Prometheus metrics\n\nUsage: state-metrics [OPTIONS]\n\n" ++
  "Options:\n      --config <CONFIG>\n          Path to a YAML configuration file " ++
  "[env: STATE_METRICS_CONFIG=" ++ configEnv.getD "" ++ "]\n" ++
  "      --port <PORT>\n          Port for /metrics, /healthz and /readyz\n" ++
  "      --kubeconfig <KUBECONFIG>\n          Path to kubeconfig file (uses in-cluster or " ++
  "default config if not specified)\n" ++
  "      --collectors <COLLECTORS>\n          Comma-separated collectors to enable, e.g. " ++
  "\x60crd,pod\x60\n" ++
  "      --log-level <LOG_LEVEL>\n          Log level used when RUST_LOG is unset\n" ++
  "      --metrics-namespace <METRICS_NAMESPACE>\n          Prefix for every exported metric name\n" ++
  "  -h, --help\n          Print help\n  -V, --version\n          Print version\n"

/-- The usage line: the options given so far, or a placeholder for all of them. -/
def usage (used : List Opt) : String :=
  "Usage: state-metrics" ++
    (if used.isEmpty then " [OPTIONS]" else String.join (used.map fun o => " " ++ o.display))

/-- The options that take a value, which form one group. -/
def valueOptions : List Opt := Opt.all.filter Opt.takesValue

/-- The usage line of help or version given a value: the flag, then the group of options that
take a value, written as alternatives, when one of them has been settled. -/
def flagUsage (o : Opt) (groupUsed : Bool) : String :=
  "Usage: state-metrics " ++ o.display ++
    (if groupUsed then " <" ++ "|".intercalate (valueOptions.map Opt.display) ++ ">" else "")

/-- A refusal as shown: the message, an optional tip, an optional usage line, and the pointer to
the help. -/
def render (message : String) (tip : Option String) (usageLine : Option String) : String :=
  "error: " ++ message ++
    (match tip with
      | some t => "\n\n  tip: a similar argument exists: '" ++ t ++ "'"
      | none => "") ++
    (match usageLine with
      | some u => "\n\n" ++ u
      | none => "") ++
    "\n\nFor more information, try '--help'.\n"

/-- A refusal of an option given no value. -/
def emptyValue (o : Opt) : FlagError :=
  ⟨.invalidValue, render ("a value is required for '" ++ o.display ++ "' but none was supplied") none none⟩

/-- A refusal of a value that does not parse. -/
def badValue (o : Opt) (value reason : String) : FlagError :=
  ⟨.valueValidation, render ("invalid value '" ++ value ++ "' for '" ++ o.display ++ "': " ++ reason) none none⟩

/-- A refusal of an argument nothing expects. -/
def unexpected (arg : String) (tip : Option String) (used : List Opt) : FlagError :=
  ⟨.unknownArgument, render ("unexpected argument '" ++ arg ++ "' found") tip (some (usage used))⟩

/-- Reads a port: an integer from 0 to 65535. -/
def parsePort (s : String) : Except String Nat :=
  match Text.parseI64 s with
  | .error e => .error e.message
  | .ok v => if 0 ≤ v ∧ v ≤ 65535 then .ok v.toNat else .error (toString v ++ " is not in 0..=65535")

/-- Where parsing stands: the flags so far, the options given in order, the option waiting for
its value with the values it has, and whether `--` was seen. -/
structure Parsing where
  flags : Cli := {}
  present : List Opt := []
  pending : Option (Opt × List String) := none
  trailing : Bool := false
  deriving Inhabited

namespace Parsing

/-- Stores the checked values of an option. -/
def store (st : Parsing) (o : Opt) (vals : List String) : Except FlagError Parsing :=
  let value := vals.getLastD ""
  match o with
  | .port => match parsePort value with
    | .ok p => .ok { st with flags := { st.flags with port := some p } }
    | .error e => .error (badValue o value e)
  | .config => if value.isEmpty then .error (emptyValue o)
    else .ok { st with flags := { st.flags with config := some value } }
  | .kubeconfig => if value.isEmpty then .error (emptyValue o)
    else .ok { st with flags := { st.flags with kubeconfig := some value } }
  | .collectors =>
    let split := vals.flatMap fun v => v.splitOn ","
    .ok { st with flags := { st.flags with collectors := some (st.flags.collectors.getD [] ++ split) } }
  | .logLevel => .ok { st with flags := { st.flags with logLevel := some value } }
  | .metricsNamespace => .ok { st with flags := { st.flags with metricsNamespace := some value } }
  | _ => .ok st

/-- Settles an option with its values. A value is required from the command line; a second
use of an option other than `--collectors` is refused and forgets the first. The option counts
as given even when its value is refused. Returns the new state and the refusal, if any. -/
def settle (st : Parsing) (o : Opt) (vals : List String) (fromEnv : Bool) : Parsing × Option FlagError :=
  if !fromEnv && vals.isEmpty then (st, some (emptyValue o))
  else if o != .collectors && st.present.contains o then
    ({ st with present := st.present.filter (· != o) },
      some ⟨.argumentConflict, render ("the argument '" ++ o.display ++ "' cannot be used multiple times")
        none (some (usage []))⟩)
  else
    let st := if st.present.contains o then st else { st with present := st.present ++ [o] }
    match st.store o vals with
    | .ok st => (st, none)
    | .error e => (st, some e)

/-- Settles the option waiting for its value, if any. -/
def resolve (st : Parsing) : Parsing × Option FlagError :=
  match st.pending with
  | none => (st, none)
  | some (o, vals) => { st with pending := none }.settle o vals false

/-- Settles the waiting option, stopping at its refusal. -/
def resolved (st : Parsing) : Except FlagError Parsing :=
  match st.resolve with
  | (st, none) => .ok st
  | (_, some e) => .error e

/-- Reaches help or version: the waiting option is settled first. -/
def display (st : Parsing) (o : Opt) (configEnv : Option String) : FlagError :=
  match st.resolve with
  | (_, some e) => e
  | (_, none) =>
    if o == .help then ⟨.displayHelp, helpText configEnv⟩ else ⟨.displayVersion, versionText⟩

/-- A long option that is not known: the waiting option is settled without regard to its
refusal, and the most similar known option is suggested and counted as given. -/
def unknownLong (st : Parsing) (name : String) : FlagError :=
  let (st, _) := st.resolve
  let tip := mostSimilar name (Opt.all.map (·.long))
  let used := match tip.bind Opt.ofLong? with
    | some o => if st.present.contains o then st.present else st.present ++ [o]
    | none => st.present
  unexpected ("--" ++ name) (tip.map ("--" ++ ·)) used

/-- An argument nothing expects; the usage line names no option. -/
def stray (arg : String) : FlagError := unexpected arg none []

/-- Reads a long option with an optional attached value. -/
def long (st : Parsing) (name : String) (value : Option String) (configEnv : Option String) :
    Except FlagError Parsing :=
  match Opt.ofLong? name with
  | none => .error (st.unknownLong name)
  | some o =>
    if o.takesValue then do
      let st ← st.resolved
      match value with
      | some v =>
        match st.settle o [v] false with
        | (st, none) => pure st
        | (_, some e) => .error e
      | none => pure { st with pending := some (o, []) }
    else match value with
      | some v =>
        .error ⟨.tooManyValues, render ("unexpected value '" ++ v ++ "' for '" ++ o.display ++
          "' found; no more were expected") none (some (flagUsage o (st.present.any Opt.takesValue)))⟩
      | none => .error (st.display o configEnv)

/-- Reads one argument. -/
def step (st : Parsing) (arg : String) (configEnv : Option String) : Except FlagError Parsing :=
  let cs := arg.toList
  if st.trailing then .error (stray arg)
  else if arg = "--" then .ok { st with trailing := true }
  else match cs with
    | '-' :: '-' :: body =>
      let name := String.ofList (body.takeWhile (· != '='))
      let value := match body.dropWhile (· != '=') with
        | _ :: v => some (String.ofList v)
        | [] => none
      st.long name value configEnv
    | '-' :: c :: _ =>
      if c = 'h' then .error (st.display .help configEnv)
      else if c = 'V' then .error (st.display .version configEnv)
      else .error (stray ("-" ++ String.singleton c))
    | _ =>
      match st.pending with
      | some (o, []) => .ok { st with pending := some (o, [arg]) }
      | _ => .error (stray arg)

end Parsing

/-- Reads all arguments, then settles the waiting option and lets `--config` fall back to the
variable's value when it was not given. -/
def parseFrom (configEnv : Option String) : Parsing → List String → Except FlagError Cli
  | st, [] => do
    let st ← st.resolved
    match configEnv with
    | some v =>
      if st.present.contains .config then pure st.flags
      else match st.settle .config [v] true with
        | (st, none) => pure st.flags
        | (_, some e) => .error e
    | none => pure st.flags
  | st, arg :: rest => do
    let st ← st.step arg configEnv
    parseFrom configEnv st rest

/-- Parses the command-line arguments after the program name, given the value of the variable
that `--config` falls back to. -/
def parse (args : List String) (configEnv : Option String) : Except FlagError Cli :=
  parseFrom configEnv {} args

end StateMetrics.Flags
