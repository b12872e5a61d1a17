import StateMetrics.Metric.Desc

/-! # Gauge families

A sample is a list of label values with a number. A gauge family puts samples under a
description: each sample's values are paired with the description's label names, position by
position, and pairing stops at the shorter of the two lists. -/

namespace StateMetrics.Metric

/-- Label values with a value. -/
structure Sample where
  labels : List String
  value : Float
  deriving Inhabited

/-- One metric of a family: label pairs and a value. -/
structure Point where
  labels : List (String × String)
  value : Float
  deriving Inhabited

/-- A gauge family: name, help text and metrics. -/
structure Family where
  name : String
  help : String
  points : List Point
  deriving Inhabited

/-- The gauge family of samples under a name, help text and label names. -/
def gaugeFamily (name help : String) (labelNames : List String) (samples : List Sample) :
    Family :=
  { name, help, points := samples.map fun s => ⟨labelNames.zip s.labels, s.value⟩ }

/-- The gauge family of samples under a description. -/
def Desc.family (d : Desc) (samples : List Sample) : Family :=
  gaugeFamily d.name d.help d.labels samples

end StateMetrics.Metric
