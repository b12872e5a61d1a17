import StateMetrics.Config.Value
import StateMetrics.Decimal.Text
import StateMetrics.Text.Integer

/-! # Settings from the environment

Environment variables named `STATE_METRICS__<A>__<B>`, in any letter case, set the setting at
the path `a.b`: the name is lower-cased, the prefix dropped and every `__` becomes a dot. A value
is read as a truth value when it is `true` or `false` in any letter case, else as a 64-bit
integer, else as a double, and otherwise as text; only `enabled_collectors` is a list, split at
commas. Every such value comes from the environment. -/

namespace StateMetrics.Config

/-- The origin of values from the environment. -/
def environmentOrigin : String := "the environment"

/-- The prefix of the variables that carry settings, lower-cased. -/
def envPrefix : String := "state_metrics__"

/-- Replaces every `__` by a dot, from the left. -/
def dotted : List Char → List Char
  | '_' :: '_' :: rest => '.' :: dotted rest
  | c :: rest => c :: dotted rest
  | [] => []

/-- The keys whose values are lists. -/
def listKeys : List String := ["enabled_collectors"]

/-- Reads the value of a variable for a key. -/
def envValue (key value : String) : Value :=
  let o := some environmentOrigin
  let l := Text.Unicode.lowercase value
  if l == "true" then .bool o true
  else if l == "false" then .bool o false
  else match Text.parseI64 value with
    | .ok i => .int o i
    | .error _ =>
      match parseFloat? value with
      | some f => .float o f
      | none =>
        if listKeys.contains key then .array o ((value.splitOn ",").map (.text o))
        else .text o value

/-- The setting a variable carries, if its name has the prefix. -/
def envEntry (name value : String) : Option (String × Value) :=
  let key := Text.Unicode.lowercase name
  if key.startsWith envPrefix then
    let key := String.ofList (dotted (key.toList.drop envPrefix.length))
    some (key, envValue key value)
  else none

/-- The settings the environment carries, by key in ascending order; of two variables with one
key the later counts. -/
def envEntries (vars : List (String × String)) : List (String × Value) :=
  vars.foldl (fun acc (name, value) => match envEntry name value with
    | some (k, v) => Value.putMember k v acc
    | none => acc) []

end StateMetrics.Config
