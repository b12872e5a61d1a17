import StateMetrics.Config.Json
import StateMetrics.Config.Yaml
import StateMetrics.Config.Toml
import StateMetrics.Config.Ini
import StateMetrics.Config.Ron
import StateMetrics.Config.Json5
import StateMetrics.Config.Env
import StateMetrics.Config.Exporter

/-! # Loading the exporter's settings

The settings are the defaults, overridden by an optional configuration file and then by the
environment. The file is looked up by its path; when no file has exactly that path, each
registered extension is tried after it (`c` finds `c.yaml`). Its format follows its extension:
`.toml`, `.json`, `.yaml` or `.yml`, `.ini`, `.ron` or `.json5`. A file that cannot be found or
read fails the loading with the path as given; a file that does not parse fails with the
parser's message and the file's name. The merged tree is then decoded, which may fail with a value of the wrong type. -/

namespace StateMetrics.Config

/-- The formats of configuration files. -/
inductive FileFormat where
  | toml
  | json
  | yaml
  | ini
  | ron
  | json5
  deriving Repr, BEq, DecidableEq, Inhabited

/-- The extensions of each format, in the order they are tried. -/
def formatExtensions : List (FileFormat × List String) :=
  [(.toml, ["toml"]), (.json, ["json"]), (.yaml, ["yaml", "yml"]), (.ini, ["ini"]), (.ron, ["ron"]),
    (.json5, ["json5"])]

/-- The format an extension names. -/
def formatOf? (ext : String) : Option FileFormat :=
  (formatExtensions.find? fun (_, exts) => exts.contains ext).map (·.1)

/-- The components of a relative path, without empty and `.` components. -/
def pathParts (p : String) : List String :=
  (p.splitOn "/").filter fun c => !c.isEmpty && c != "."

/-- A relative path in its plain form. -/
def normalPath (p : String) : String := "/".intercalate (pathParts p)

/-- The extension of a path's last component: what follows its last dot, unless that dot
starts the name. -/
def extension? (p : String) : Option String :=
  match (pathParts p).getLast? with
  | none => none
  | some name =>
    if name == ".." then none
    else
      let parts := name.splitOn "."
      match parts with
      | [] | [_] => none
      | first :: _ =>
        if first.isEmpty && parts.length = 2 then none else parts.getLast?

/-- Files by relative path. -/
abbrev Files := List (String × String)

/-- The contents of the file at a path, if there is one. -/
def fileAt? (files : Files) (p : String) : Option String :=
  if p.startsWith "/" || (pathParts p).isEmpty then none
  else (files.find? fun (k, _) => normalPath k == normalPath p).map (·.2)

/-- Finds a configuration file: the file at the path, whose extension must name a format, or
the first file at the path with a format's extension added. Returns its name as messages show
it, its format and its contents. -/
def findFile (files : Files) (p : String) : Except String (String × FileFormat × String) :=
  match fileAt? files p with
  | some text =>
    match (extension? p).bind formatOf? with
    | some fmt => .ok (normalPath p, fmt, text)
    | none => .error ("configuration file " ++ Text.quoted p ++ " is not of a registered file format")
  | none =>
    let candidates := formatExtensions.flatMap fun (fmt, exts) => exts.map fun e => (fmt, p ++ "." ++ e)
    match candidates.findSome? fun (fmt, c) => (fileAt? files c).map fun t => (normalPath c, fmt, t) with
    | some found => .ok found
    | none => .error ("configuration file " ++ Text.quoted p ++ " not found")

/-- Reads the entries of a file of a format. -/
def parseFile (fmt : FileFormat) (uri text : String) : Except YamlError (List (String × Value)) :=
  match fmt with
  | .json => (parseJsonFile uri text).mapError .invalid
  | .yaml => parseYamlFile uri text
  | .toml => (parseTomlFile uri text).mapError .invalid
  | .ini => (parseIniFile uri text).mapError .invalid
  | .ron => (parseRonFile uri text).mapError .invalid
  | .json5 => (parseJson5File uri text).mapError .invalid

/-- Why the settings could not be loaded. -/
inductive LoadError where
  /-- The configuration file at a path could not be found, read or parsed. -/
  | read (path cause : String)
  /-- The merged settings do not decode. -/
  | invalid (e : Settings.DecodeError)
  /-- The loading stopped, at a place of the code and with a message: the file reader met a
  mapping key it cannot take, or a setting asked for an array that cannot exist. -/
  | halted (location message : String)
  deriving Inhabited

/-- What the loading says about a failure: the context, then the cause. -/
def LoadError.chain : LoadError → List String
  | .read path cause => ["failed to read configuration from " ++ path, cause]
  | .invalid e => ["invalid exporter configuration", e.text]
  | .halted _ message => [message]

/-- The message of a failed loading, with its causes. -/
def LoadError.message (e : LoadError) : String := ": ".intercalate e.chain

/-- The entries of the configuration file at a path. -/
def fileEntries (files : Files) (p : String) : Except YamlError (List (String × Value)) := do
  let (uri, fmt, text) ← (findFile files p).mapError .invalid
  match parseFile fmt uri text with
  | .ok entries => .ok entries
  | .error (.invalid cause) => .error (.invalid (cause ++ " in " ++ uri))
  | .error .unsupportedKey => .error .unsupportedKey

/-- Loads the settings from an optional configuration file and the environment. -/
def loadSettings (files : Files) (env : List (String × String)) (path : Option String) :
    Except LoadError ExporterSettings := do
  let fromFile ← match path with
    | some p => match fileEntries files p with
      | .ok entries => pure entries
      | .error (.invalid cause) => .error (.read p cause)
      | .error .unsupportedKey =>
        .error (.halted "src/file/format/yaml.rs" "internal error: entered unreachable code")
    | none => pure []
  let halt := fun (h : MergeHalt) => LoadError.halted h.location h.message
  let root ← (mergeSource Value.emptyTable fromFile).mapError halt
  let root ← (mergeSource root (envEntries env)).mapError halt
  match Settings.decodeExporterSettings dialect root with
  | .ok s => pure s
  | .error e => .error (.invalid e)

end StateMetrics.Config
