import StateMetrics.Error

/-! # Metric descriptions

A description names a metric family, explains it and lists its label names. The registry
accepts it only if the help text is not empty, the metric name matches
`[a-zA-Z_:][a-zA-Z0-9_:]*`, and each label name matches `[a-zA-Z_][a-zA-Z0-9_]*` and occurs
once. The checks run in that order and the first failure is reported. -/

namespace StateMetrics.Metric

/-- A metric family's name, help text and label names. -/
structure Desc where
  name : String
  help : String
  labels : List String
  deriving Repr, BEq, DecidableEq, Inhabited

/-- An ASCII letter. -/
def isLetter (c : Char) : Bool := c.isAlpha

/-- Whether a text is a metric name: a letter, underscore or colon, then also digits. -/
def isMetricName (s : String) : Bool :=
  match s.toList with
  | [] => false
  | c :: cs =>
    (isLetter c || c = '_' || c = ':') && cs.all fun c => isLetter c || c.isDigit || c = '_' || c = ':'

/-- Whether a text is a label name: a letter or underscore, then also digits. -/
def isLabelName (s : String) : Bool :=
  match s.toList with
  | [] => false
  | c :: cs => (isLetter c || c = '_') && cs.all fun c => isLetter c || c.isDigit || c = '_'

/-- The first label name that is malformed or repeats an earlier one. -/
def checkLabels (seen : List String) : List String → Except MetricsError Unit
  | [] => .ok ()
  | l :: rest =>
    if !isLabelName l then .error (.invalidLabelName l)
    else if seen.contains l then .error (.duplicateLabelName l)
    else checkLabels (l :: seen) rest

namespace Desc

/-- A description that the registry accepts, or the first reason it does not. -/
def make (name help : String) (labels : List String) : Except MetricsError Desc :=
  if help.isEmpty then .error .emptyHelp
  else if !isMetricName name then .error (.invalidMetricName name)
  else (checkLabels [] labels).map fun _ => ⟨name, help, labels⟩

end Desc

end StateMetrics.Metric
