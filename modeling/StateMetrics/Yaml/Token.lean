/-! # YAML tokens, positions and faults

The scanner turns text into tokens, each at a position. A position counts the characters read
before it, and gives its line from 1 and its column from 0.

Two readers share the scanner and the parser. The `modern` one is the reader of configuration
files, which follows the YAML test suite closely and words its faults as one sentence ending in
the position's byte, line and column. The `classic` one follows the reference C scanner and
words its faults as a problem at a position with the context that was being read at another.
A `Fault` carries both wordings, so that each reader reports it in its own terms. -/

namespace StateMetrics.Yaml

/-- A position in the text. -/
structure Mark where
  index : Nat
  line : Nat
  col : Nat
  deriving Repr, BEq, DecidableEq, Inhabited

/-- The two readers. -/
inductive Flavor where
  | modern
  | classic
  deriving Repr, BEq, DecidableEq, Inhabited

/-- How a scalar was written. -/
inductive ScalarStyle where
  | plain
  | singleQuoted
  | doubleQuoted
  | literal
  | folded
  deriving Repr, BEq, DecidableEq, Inhabited

/-- What a token is. -/
inductive TokenKind where
  | streamStart
  | streamEnd
  | versionDirective (major minor : Nat)
  | tagDirective (handle stem : String)
  | documentStart
  | documentEnd
  | blockSequenceStart
  | blockMappingStart
  | blockEnd
  | flowSequenceStart
  | flowSequenceEnd
  | flowMappingStart
  | flowMappingEnd
  | blockEntry
  | flowEntry
  | key
  | value
  | aliasOf (name : String)
  | anchor (name : String)
  | tag (handle suffix : String)
  | scalar (style : ScalarStyle) (text : String)
  deriving Repr, BEq, Inhabited

/-- A token at its position. -/
structure Token where
  mark : Mark
  kind : TokenKind
  deriving Repr, Inhabited

/-- Why a text is not YAML, in both readers' words: the modern sentence at its position, and
the classic problem at its position with the context being read. -/
structure Fault where
  info : String
  mark : Mark
  problem : String
  problemMark : Mark
  context : Option (String × Mark) := none
  deriving Repr, Inhabited

/-- A fault worded alike by both readers, at one position. -/
def Fault.plain (mark : Mark) (text : String) : Fault := ⟨text, mark, text, mark, none⟩

/-- A fault read while in a context: the modern reader joins context and problem and reports the
context's start; the classic reader reports the problem where it was found. -/
def Fault.within (context problem : String) (start found : Mark) : Fault :=
  ⟨context ++ ", " ++ problem, start, problem, found, some (context, start)⟩

/-- The modern wording: the sentence, then the position's byte, line and column from 1. -/
def Fault.modernText (f : Fault) : String :=
  f.info ++ " at byte " ++ toString f.mark.index ++ " line " ++ toString f.mark.line ++
    " column " ++ toString (f.mark.col + 1)

/-- A position as the classic reader writes it: by line and column from 1. -/
def Mark.classicText (m : Mark) : String :=
  "line " ++ toString m.line ++ " column " ++ toString (m.col + 1)

/-- Whether a position is past the very start of the text. -/
def Mark.advanced (m : Mark) : Bool := m.line != 1 || m.col != 0

/-- The classic wording: the problem at its position, then the context at its start when that
start is another position. Positions at the very start of the text are not written. -/
def Fault.classicText (f : Fault) : String :=
  let head := f.problem ++ (if f.problemMark.advanced then " at " ++ f.problemMark.classicText else "")
  match f.context with
  | none => head
  | some (c, m) =>
    head ++ ", " ++ c ++
      (if m.advanced && (m.line != f.problemMark.line || m.col != f.problemMark.col) then
        " at " ++ m.classicText else "")

end StateMetrics.Yaml
