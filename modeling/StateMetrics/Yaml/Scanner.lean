import StateMetrics.Yaml.Token

/-! # The YAML scanner

The scanner reads the text one character at a time and queues tokens. Block structure is
found from indentation: a key or an entry further right than the current indentation opens a
block and pushes the indentation, and a line further left closes blocks with `blockEnd`
tokens. A scalar may turn out to be a key only when the `:` after it is read, so the scanner
remembers, per flow level, where a simple key could have started and inserts the `key` token
(and the block mapping start) there afterwards. Tokens are released only once no remembered
key could still be inserted before them.

Every loop is bounded by the characters left to read: each round reads at least one. -/

namespace StateMetrics.Yaml

/-- Where a simple key could have started, and whether one must have. -/
structure SimpleKey where
  possible : Bool := false
  required : Bool := false
  tokenNumber : Nat := 0
  mark : Mark := ⟨0, 0, 0⟩
  deriving Repr, Inhabited

/-- An indentation pushed by a block, or by a value or entry that opens none. -/
structure Indent where
  indent : Int
  needsBlockEnd : Bool
  deriving Repr, Inhabited

/-- The scanner's state over a text. Simple keys and indentations are stacks whose innermost
entry comes first. -/
structure Scanner where
  flavor : Flavor
  text : Array Char
  mark : Mark := ⟨0, 1, 0⟩
  tokens : List Token := []
  streamStartProduced : Bool := false
  streamEndProduced : Bool := false
  adjacentValueAllowedAt : Nat := 0
  simpleKeyAllowed : Bool := true
  simpleKeys : List SimpleKey := []
  indent : Int := -1
  indents : List Indent := []
  flowLevel : Nat := 0
  tokensParsed : Nat := 0
  tokenAvailable : Bool := false
  leadingWhitespace : Bool := true
  flowMappingStarted : Bool := false
  implicitFlowMapping : Bool := false
  deriving Inhabited

/-- Scanning steps: they change the scanner or fail. -/
abbrev ScanM := StateT Scanner (Except Fault)

/-- The end of the text reads as this character. -/
def endChar : Char := '\x00'

def isZ (c : Char) : Bool := c == endChar
def isBreak (c : Char) : Bool := c == '\n' || c == '\r'
def isBreakZ (c : Char) : Bool := isBreak c || isZ c
def isBlank (c : Char) : Bool := c == ' ' || c == '\t'
def isBlankZ (c : Char) : Bool := isBlank c || isBreakZ c
def isDigit (c : Char) : Bool := '0' ≤ c && c ≤ '9'
def isHex (c : Char) : Bool := isDigit c || ('a' ≤ c && c ≤ 'f') || ('A' ≤ c && c ≤ 'F')

/-- Letters, digits, `_` and `-`. -/
def isAlpha (c : Char) : Bool :=
  isDigit c || ('a' ≤ c && c ≤ 'z') || ('A' ≤ c && c ≤ 'Z') || c == '_' || c == '-'

/-- The flow indicators `,[]` and braces. -/
def isFlow (c : Char) : Bool := c == ',' || c == '[' || c == ']' || c == '\x7b' || c == '\x7d'

/-- Characters of a URI. -/
def isUriChar (c : Char) : Bool :=
  (isAlpha c && c != '_') || "#;/?:@&=+$,_.!~*'()[]%".toList.contains c

/-- Characters of a tag shorthand. -/
def isTagChar (c : Char) : Bool := isUriChar c && !isFlow c && c != '!'

/-- Characters of an anchor name: in the modern reader anything but blanks and flow
indicators, in the classic one letters, digits, `_` and `-`. -/
def isAnchorChar (flavor : Flavor) (c : Char) : Bool :=
  match flavor with
  | .modern => !isBlankZ c && !isFlow c && c != '﻿'
  | .classic => isAlpha c

/-- The value of a hexadecimal digit. -/
def hexValue (c : Char) : Nat :=
  if isDigit c then c.toNat - '0'.toNat
  else if 'a' ≤ c && c ≤ 'f' then c.toNat - 'a'.toNat + 10
  else c.toNat - 'A'.toNat + 10

namespace Scanner

/-- The scanner at the start of a text. -/
def start (flavor : Flavor) (text : String) : Scanner := { flavor, text := text.toList.toArray }

/-- The character `k` places ahead. -/
def peekAt (s : Scanner) (k : Nat) : Char := s.text.getD (s.mark.index + k) endChar

/-- The characters left to read, a bound for every loop. -/
def left (s : Scanner) : Nat := s.text.size - s.mark.index + 2

end Scanner

/-- The character `k` places ahead. -/
def look (k : Nat) : ScanM Char := do return (← get).peekAt k

/-- The current character. -/
def cur : ScanM Char := look 0

/-- Fails with a fault. -/
def fail (f : Fault) : ScanM α := throw f

/-- Passes over a blank. -/
def skipBlank : ScanM Unit :=
  modify fun s => { s with mark := ⟨s.mark.index + 1, s.mark.line, s.mark.col + 1⟩ }

/-- Passes over a character that is not blank. -/
def skipNonBlank : ScanM Unit :=
  modify fun s =>
    { s with mark := ⟨s.mark.index + 1, s.mark.line, s.mark.col + 1⟩, leadingWhitespace := false }

/-- Passes over `n` characters that are not blank. -/
def skipN : Nat → ScanM Unit
  | 0 => pure ()
  | n + 1 => do skipNonBlank; skipN n

/-- Passes over a line feed. -/
def skipNl : ScanM Unit :=
  modify fun s => { s with mark := ⟨s.mark.index + 1, s.mark.line + 1, 0⟩, leadingWhitespace := true }

/-- Passes over a line break, `\r\n` counting as one. -/
def skipLinebreak : ScanM Unit := do
  let c ← cur
  if c == '\r' && (← look 1) == '\n' then skipBlank; skipNl
  else if isBreak c then skipNl

/-- Reads a line break as one line feed. -/
def readBreak (acc : String) : ScanM String := do
  if (← cur) == '\r' && (← look 1) == '\n' then skipBlank
  skipNl
  return acc.push '\n'

/-- Queues a token. -/
def pushToken (t : Token) : ScanM Unit := modify fun s => { s with tokens := s.tokens ++ [t] }

/-- Inserts a token at a place in the queue. -/
def insertToken (pos : Nat) (t : Token) : ScanM Unit :=
  modify fun s => { s with tokens := s.tokens.take pos ++ t :: s.tokens.drop pos }

/-- The current position. -/
def curMark : ScanM Mark := do return (← get).mark

def allowSimpleKey : ScanM Unit := modify fun s => { s with simpleKeyAllowed := true }
def disallowSimpleKey : ScanM Unit := modify fun s => { s with simpleKeyAllowed := false }

/-- Whether a block is open. -/
def withinBlock : ScanM Bool := do return !(← get).indents.isEmpty

/-- Whether the next four characters are `---` or `...` then a blank, at the start of a line. -/
def atDocumentIndicator : ScanM Bool := do
  let s ← get
  let c := s.peekAt 0
  return s.mark.col == 0 && (c == '-' || c == '.') && s.peekAt 1 == c && s.peekAt 2 == c &&
    isBlankZ (s.peekAt 3)

/-- What passing over blanks and a comment to the end of the line found: tabs, and spaces. -/
structure Blanks where
  tabs : Bool := false
  spaces : Bool := false

/-- Passes over blanks and a comment up to the end of the line; tabs only when asked to. The
modern reader refuses a comment that does not follow a blank. -/
def skipWsToEol (tabs : Bool) : ScanM Blanks := do
  let rec go : Nat → Blanks → ScanM Blanks
    | 0, b => pure b
    | n + 1, b => do
      let c ← cur
      if c == ' ' then skipBlank; go n { b with spaces := true }
      else if c == '\t' && tabs then skipBlank; go n { b with tabs := true }
      else if c == '#' then
        if (← get).flavor == .modern && !b.tabs && !b.spaces then
          fail (.plain (← curMark) "comments must be separated from other tokens by whitespace")
        else
          let rec comment : Nat → ScanM Unit
            | 0 => pure ()
            | k + 1 => do if isBreakZ (← cur) then pure () else skipNonBlank; comment k
          comment (← get).left
          go n b
      else pure b
  go (← get).left {}

/-- Passes over a comment to the end of its line. -/
def skipComment : ScanM Unit := do
  let rec go : Nat → ScanM Unit
    | 0 => pure ()
    | n + 1 => do if isBreakZ (← cur) then pure () else skipNonBlank; go n
  go (← get).left

/-! ## Simple keys and indentation -/

/-- The fault of a key that must be simple but has no `:` after it. -/
def simpleKeyFault (key here : Mark) : Fault :=
  ⟨"simple key expected", here, "could not find expected ':'", here,
    some ("while scanning a simple key", key)⟩

/-- Forgets the possible simple keys that can no longer be keys: in the block context a key
cannot span lines, nor more than 1024 characters. A required one fails. -/
def staleSimpleKeys : ScanM Unit := do
  let s ← get
  let stale := fun (k : SimpleKey) =>
    k.possible && (s.flavor == .classic || s.flowLevel == 0) &&
      (k.mark.line < s.mark.line || k.mark.index + 1024 < s.mark.index)
  match s.simpleKeys.find? fun k => stale k && k.required with
  | some k =>
    match s.flavor with
    | .modern => fail (.plain s.mark "simple key expect ':'")
    | .classic => fail (simpleKeyFault k.mark s.mark)
  | none =>
    set { s with simpleKeys := s.simpleKeys.map fun k => if stale k then { k with possible := false } else k }

/-- Forgets the innermost possible simple key; a required one fails. -/
def removeSimpleKey : ScanM Unit := do
  let s ← get
  match s.simpleKeys with
  | [] => pure ()
  | k :: rest =>
    if k.possible && k.required then
      match s.flavor with
      | .modern => fail (.plain s.mark "simple key expected")
      | .classic => fail (simpleKeyFault k.mark s.mark)
    else set { s with simpleKeys := { k with possible := false } :: rest }

/-- Remembers that a simple key may start here, when one may. -/
def saveSimpleKey : ScanM Unit := do
  let s ← get
  if s.simpleKeyAllowed then
    let blockEnd := match s.indents with
      | i :: _ => i.needsBlockEnd
      | [] => true
    let required := s.flowLevel == 0 && s.indent == (s.mark.col : Int) &&
      (s.flavor == .classic || blockEnd)
    let k : SimpleKey := ⟨true, required, s.tokensParsed + s.tokens.length, s.mark⟩
    if s.flavor == .classic then removeSimpleKey
    modify fun s => { s with simpleKeys := k :: s.simpleKeys.drop 1 }

/-- Closes the blocks indented further than a column. -/
def unrollIndent (col : Int) : ScanM Unit := do
  let s ← get
  if s.flowLevel > 0 then return
  let rec go : List Indent → Int → List Token → List Indent × Int × List Token
    | [], ind, ts => ([], ind, ts)
    | i :: rest, ind, ts =>
      if ind > col then
        go rest i.indent (if i.needsBlockEnd then ts ++ [⟨s.mark, .blockEnd⟩] else ts)
      else (i :: rest, ind, ts)
  let (indents, indent, tokens) := go s.indents s.indent s.tokens
  set { s with indents, indent, tokens }

/-- Opens a block at a column further right than the current indentation, queueing its start
token at the end or at a place. -/
def rollIndent (col : Nat) (number : Option Nat) (kind : TokenKind) (mark : Mark) : ScanM Unit := do
  let s ← get
  if s.flowLevel > 0 then return
  let s := if s.indent ≤ (col : Int) then
      match s.indents with
      | i :: rest => if !i.needsBlockEnd then { s with indent := i.indent, indents := rest } else s
      | [] => s
    else s
  set s
  if s.indent < (col : Int) then
    set { s with indents := ⟨s.indent, true⟩ :: s.indents, indent := col }
    match number with
    | some n => insertToken (n - s.tokensParsed) ⟨mark, kind⟩
    | none => pushToken ⟨mark, kind⟩

/-- Indents one column further without opening a block, after an entry or a value of a block. -/
def rollOneColIndent : ScanM Unit := do
  let s ← get
  if s.flavor == .modern && s.flowLevel == 0 then
    match s.indents with
    | i :: _ =>
      if i.needsBlockEnd then set { s with indents := ⟨s.indent, false⟩ :: s.indents, indent := s.indent + 1 }
    | [] => pure ()

/-- Drops the indentations that opened no block. -/
def unrollNonBlockIndents : ScanM Unit := do
  let s ← get
  let rec go : List Indent → Int → List Indent × Int
    | [], ind => ([], ind)
    | i :: rest, ind => if i.needsBlockEnd then (i :: rest, ind) else go rest i.indent
  let (indents, indent) := go s.indents s.indent
  set { s with indents, indent }

/-- Ends a flow mapping opened by a lone key inside a flow sequence. -/
def endImplicitMapping (mark : Mark) : ScanM Unit := do
  let s ← get
  if s.implicitFlowMapping then
    set { s with implicitFlowMapping := false, flowMappingStarted := false }
    pushToken ⟨mark, .flowMappingEnd⟩

end StateMetrics.Yaml
