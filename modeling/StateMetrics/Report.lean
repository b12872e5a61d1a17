/-! # Error reports

A failed run ends with a report on standard error: `Error: ` and the outermost message, then,
when the failure has causes, a blank line, `Caused by:`, and each cause on its own lines. A
single cause is indented by four spaces; several are numbered from 0 with the number right
aligned in five columns. Every further line of a message keeps the indentation of its first. -/

namespace StateMetrics

/-- Indents every line of a text after the first. -/
def indentLines (indent : String) (text : String) : String :=
  ("\n" ++ indent).intercalate (text.splitOn "\n")

/-- A number right aligned in five columns. -/
def alignNumber (n : Nat) : String :=
  let s := toString n
  String.ofList (List.replicate (5 - s.length) ' ') ++ s

/-- The report of a failure given as its message followed by its causes, nearest first. -/
def errorReport : List String → String
  | [] => "Error: \n"
  | [message] => "Error: " ++ message ++ "\n"
  | message :: causes =>
    let several := causes.length > 1
    let lines := causes.zipIdx.map fun (c, n) =>
      if several then alignNumber n ++ ": " ++ indentLines "       " c
      else "    " ++ indentLines "    " c
    "Error: " ++ message ++ "\n\nCaused by:\n" ++ "\n".intercalate lines ++ "\n"

end StateMetrics
