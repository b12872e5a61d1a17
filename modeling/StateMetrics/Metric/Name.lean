/-! # Metric names

Metric names are built from parts joined by underscores and then made safe for the
exposition format: every ASCII letter is lower-cased, ASCII digits and the underscore are
kept, and every other character, whatever its width, becomes one underscore. -/

namespace StateMetrics.Metric

/-- The safe form of one character of a name. -/
def sanitizeChar (c : Char) : Char :=
  if c.isAlphanum ∨ c = '_' then c.toLower else '_'

/-- The safe form of a name, character by character. -/
def sanitize (name : String) : String :=
  String.ofList (name.toList.map sanitizeChar)

/-- The full name of a metric: the non-empty parts among the name stem, the resource name and
the metric name, joined by underscores and made safe. -/
def fullName (stem resource metric : String) : String :=
  sanitize ("_".intercalate ([stem, resource, metric].filter (!·.isEmpty)))

end StateMetrics.Metric
