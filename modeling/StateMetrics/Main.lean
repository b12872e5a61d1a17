import StateMetrics.Startup

/-! # The command line

The program reads its arguments, its environment and the files the run may need (the
configuration file with each registered extension, and the kubeconfig files), runs the start,
and ends as the start says: with help or version text on standard output, with a report on
standard error, or serving. -/

open StateMetrics

/-- The contents of the file at a path, if it can be read. -/
def readIfPresent (path : String) : IO (Option String) := do
  try
    let text ← IO.FS.readFile path
    return some text
  catch _ => return none

/-- The environment as name and value pairs, from the process's environment block. -/
def environment : IO (List (String × String)) := do
  match ← readIfPresent "/proc/self/environ" with
  | some block =>
    return (block.splitOn "\x00").filterMap fun entry =>
      match entry.splitOn "=" with
      | name :: rest => if name.isEmpty then none else some (name, "=".intercalate rest)
      | [] => none
  | none =>
    let names := ["STATE_METRICS_CONFIG", "HOME", "KUBECONFIG"]
    names.filterMapM fun n => do return (← IO.getEnv n).map fun v => (n, v)

/-- The paths a run may read: the configuration file and its extended names, and the
kubeconfig files. -/
def wantedPaths (args : List String) (env : List (String × String)) : List String :=
  let flagValue := fun (flag : String) =>
    let rec go : List String → Option String
      | [] => none
      | a :: rest =>
        if a == flag then rest.head?
        else if a.startsWith (flag ++ "=") then some (String.ofList (a.toList.drop (flag.length + 1)))
        else go rest
    go args
  let config := (flagValue "--config").orElse fun _ => env.lookup "STATE_METRICS_CONFIG"
  let configPaths := match config with
    | some p => p :: (Config.formatExtensions.flatMap fun (_, exts) => exts.map fun e => p ++ "." ++ e)
    | none => []
  let home := (env.lookup "HOME").getD "/root"
  configPaths ++ (flagValue "--kubeconfig").toList ++ (env.lookup "KUBECONFIG").toList ++
    [home ++ "/.kube/config"]

/-- Runs the exporter's start. -/
def main (args : List String) : IO UInt32 := do
  let env ← environment
  let files ← (wantedPaths args env).filterMapM fun p => do
    return (← readIfPresent p).map fun text => (p, text)
  match startup args env files with
  | .exited code text =>
    if code == 0 then
      match Flags.parse args (env.lookup "STATE_METRICS_CONFIG") with
      | .error e => IO.print e.message
      | .ok _ => pure ()
    else IO.eprint text
    return code.toUInt32
  | .serving => return 0
