import StateMetrics.Metric.Family
import StateMetrics.Decimal.Text

/-! # The text exposition format

Families are written one after the other: a `# HELP` line when the help is not empty, a
`# TYPE` line, and one line per metric with its name, its labels between braces when it has
any, and its value. Help texts escape backslashes and line feeds; label values also escape
double quotes. Values are written by their shortest decimal in positional notation: `3`, `2.5`,
`0.0000001`, `-0`, `NaN`, `inf`, `-inf`. -/

namespace StateMetrics.Metric

/-- Escapes backslashes and line feeds, and double quotes when asked to. -/
def escapeText (s : String) (quotes : Bool) : String :=
  String.join (s.toList.map fun c =>
    if c == '\\' then "\\\\"
    else if c == '\n' then "\\n"
    else if quotes && c == '"' then "\\\""
    else String.singleton c)

/-- The line of one metric of a family. -/
def sampleLine (name : String) (p : Point) : String :=
  let labels := if p.labels.isEmpty then ""
    else "\x7b" ++ ",".intercalate (p.labels.map fun (k, v) => k ++ "=\"" ++ escapeText v true ++ "\"") ++ "\x7d"
  name ++ labels ++ " " ++ Float.plainText p.value ++ "\n"

/-- The lines of a gauge family. -/
def familyText (f : Family) : String :=
  (if f.help.isEmpty then "" else "# HELP " ++ f.name ++ " " ++ escapeText f.help false ++ "\n") ++
    "# TYPE " ++ f.name ++ " gauge\n" ++ String.join (f.points.map (sampleLine f.name))

/-- The exposition of families, in order. -/
def expose (fs : List Family) : String := String.join (fs.map familyText)

end StateMetrics.Metric
