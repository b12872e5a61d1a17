import StateMetrics.Yaml.Fetch

/-! # The YAML parser

The parser turns tokens into events: stream and document boundaries, scalars, aliases, and
the starts and ends of sequences and mappings. It is a state machine over the grammar's
productions with a stack of states to return to, one step per event. Anchors are numbered
from 1 in the order they appear, and an alias names the latest anchor of its name in the
document. Missing keys, values and entries read as empty plain scalars. -/

namespace StateMetrics.Yaml

/-- A resolved tag. -/
structure Tag where
  handle : String
  suffix : String
  deriving Repr, BEq, Inhabited

/-- What the parser reports. Anchor number 0 means no anchor. -/
inductive Event where
  | streamStart
  | streamEnd
  | documentStart
  | documentEnd
  | aliasOf (id : Nat)
  | scalar (text : String) (style : ScalarStyle) (anchor : Nat) (tag : Option Tag)
  | sequenceStart (anchor : Nat) (tag : Option Tag)
  | sequenceEnd
  | mappingStart (anchor : Nat) (tag : Option Tag)
  | mappingEnd
  deriving Repr, BEq, Inhabited

/-- The empty plain scalar that stands for a missing node. -/
def Event.empty (anchor : Nat := 0) (tag : Option Tag := none) : Event := .scalar "~" .plain anchor tag

/-- The parser's productions. -/
inductive State where
  | streamStart
  | implicitDocumentStart
  | documentStart
  | documentContent
  | documentEnd
  | blockNode
  | blockSequenceFirstEntry
  | blockSequenceEntry
  | indentlessSequenceEntry
  | blockMappingFirstKey
  | blockMappingKey
  | blockMappingValue
  | flowSequenceFirstEntry
  | flowSequenceEntry
  | flowSequenceEntryMappingKey
  | flowSequenceEntryMappingValue
  | flowSequenceEntryMappingEnd
  | flowMappingFirstKey
  | flowMappingKey
  | flowMappingValue
  | flowMappingEmptyValue
  | finished
  deriving Repr, BEq, DecidableEq, Inhabited

/-- The parser's state: the scanner, the production to parse and those to return to, the
peeked token, the anchors of the document, the tag directives, and the start positions of the
open collections. -/
structure Parser where
  scanner : Scanner
  state : State := .streamStart
  states : List State := []
  token : Option Token := none
  anchors : List (String × Nat) := []
  anchorId : Nat := 1
  tags : List (String × String) := []
  marks : List Mark := []
  deriving Inhabited

/-- Parsing steps. -/
abbrev ParseM := StateT Parser (Except Fault)

/-- Runs a scanning step on the parser's scanner. -/
def scan (m : ScanM α) : ParseM α := do
  let p ← get
  match m.run p.scanner with
  | .ok (a, s) => set { p with scanner := s }; return a
  | .error e => throw e

/-- The flavor of the reader. -/
def flavor : ParseM Flavor := do return (← get).scanner.flavor

/-- The next token, kept until it is skipped. -/
def peekToken : ParseM Token := do
  match (← get).token with
  | some t => return t
  | none =>
    match ← scan nextToken with
    | some t => modify fun p => { p with token := some t }; return t
    | none => throw (.plain (← get).scanner.mark "unexpected eof")

/-- Skips the peeked token. -/
def skipToken : ParseM Unit := modify fun p => { p with token := none }

/-- Takes the peeked token. -/
def takeToken : ParseM Token := do
  let t ← peekToken
  skipToken
  return t

def pushState (st : State) : ParseM Unit := modify fun p => { p with states := st :: p.states }

def popState : ParseM Unit :=
  modify fun p => match p.states with
    | st :: rest => { p with state := st, states := rest }
    | [] => { p with state := .finished }

def setState (st : State) : ParseM Unit := modify fun p => { p with state := st }

def pushMark (m : Mark) : ParseM Unit := modify fun p => { p with marks := m :: p.marks }

/-- Forgets the start of the innermost collection and returns it. -/
def popMark : ParseM Mark := do
  let p ← get
  match p.marks with
  | m :: rest => set { p with marks := rest }; return m
  | [] => return ⟨0, 1, 0⟩

/-- The fault of a collection missing its next part: the modern reader words it as one
sentence at the token, the classic one as a problem with the collection's start. -/
def collectionFault (context modern problem : String) (at_ : Mark) : ParseM α := do
  let start ← popMark
  throw ⟨modern, at_, problem, at_, some (context, start)⟩

/-- The steps of a stream's start. -/
def streamStartStep : ParseM (Event × Mark) := do
  let t ← peekToken
  match t.kind with
  | .streamStart =>
    setState .implicitDocumentStart
    skipToken
    return (.streamStart, t.mark)
  | _ => throw (.plain t.mark "did not find expected <stream-start>")

/-- Reads the directives before a document. -/
def processDirectives : ParseM Unit := do
  let fl ← flavor
  let rec go : Nat → Bool → List (String × String) → ParseM (List (String × String))
    | 0, _, tags => pure tags
    | n + 1, seenVersion, tags => do
      let t ← peekToken
      match t.kind with
      | .versionDirective major minor =>
        if seenVersion then
          throw ⟨"duplicate version directive", t.mark, "found duplicate %YAML directive", t.mark, none⟩
        if fl == .classic && (major != 1 || (minor != 1 && minor != 2)) then
          throw (.plain t.mark "found incompatible YAML document")
        skipToken
        go n true tags
      | .tagDirective handle stem =>
        if tags.any (·.1 == handle) then
          throw ⟨"the TAG directive must only be given at most once per handle in the same document",
            t.mark, "found duplicate %TAG directive", t.mark, none⟩
        skipToken
        go n seenVersion (tags ++ [(handle, stem)])
      | _ => pure tags
  let tags ← go (4 * (← get).scanner.left + 8) false []
  if fl == .modern then
    if !tags.isEmpty then modify fun p => { p with tags }
  else modify fun p => { p with tags }

/-- An explicit document: directives, then `---`. -/
def explicitDocumentStart : ParseM (Event × Mark) := do
  processDirectives
  let t ← peekToken
  match t.kind with
  | .documentStart =>
    pushState .documentEnd
    setState .documentContent
    skipToken
    return (.documentStart, t.mark)
  | _ => throw (.plain t.mark "did not find expected <document start>")

/-- The start of a document, or the end of the stream. -/
def documentStartStep (implicit : Bool) : ParseM (Event × Mark) := do
  let fl ← flavor
  let rec skipEnds : Nat → ParseM Unit
    | 0 => pure ()
    | n + 1 => do
      if (← peekToken).kind matches .documentEnd then skipToken; skipEnds n
  if fl == .modern || !implicit then skipEnds (4 * (← get).scanner.left + 8)
  let t ← peekToken
  match t.kind with
  | .streamEnd =>
    setState .finished
    skipToken
    return (.streamEnd, t.mark)
  | .versionDirective .. | .tagDirective .. | .documentStart => explicitDocumentStart
  | _ =>
    if implicit then
      processDirectives
      pushState .documentEnd
      setState .blockNode
      return (.documentStart, t.mark)
    else explicitDocumentStart

/-- The content of an explicit document, empty when a marker follows at once. -/
def documentContentStep (parseNode : ParseM (Event × Mark)) : ParseM (Event × Mark) := do
  let t ← peekToken
  match t.kind with
  | .versionDirective .. | .tagDirective .. | .documentStart | .documentEnd | .streamEnd =>
    popState
    return (.empty, t.mark)
  | _ => parseNode

/-- The end of a document, explicit with `...`. -/
def documentEndStep : ParseM (Event × Mark) := do
  let t ← peekToken
  let explicit := t.kind matches .documentEnd
  if explicit then skipToken
  let fl ← flavor
  modify fun p => { p with tags := [] }
  if fl == .modern then
    if explicit then setState .implicitDocumentStart
    else
      let n ← peekToken
      if n.kind matches .versionDirective .. || n.kind matches .tagDirective .. then
        throw (.plain n.mark "missing explicit document end marker before directive")
      setState .documentStart
  else setState .documentStart
  return (.documentEnd, t.mark)

/-- Resolves a tag's handle through the directives: `!!` is the core schema's prefix unless a
directive changes it. -/
def resolveTag (mark : Mark) (handle suffix : String) : ParseM Tag := do
  let p ← get
  match p.scanner.flavor with
  | .modern =>
    if handle == "!!" then
      return ⟨(p.tags.lookup "!!").getD "tag:yaml.org,2002:", suffix⟩
    else if handle.isEmpty && suffix == "!" then
      return ⟨(p.tags.lookup "").getD "", suffix⟩
    else match p.tags.lookup handle with
      | some stem => return ⟨stem, suffix⟩
      | none =>
        if handle.length ≥ 2 && handle.startsWith "!" && handle.endsWith "!" then
          throw (.plain mark "the handle wasn't declared")
        return ⟨handle, suffix⟩
  | .classic =>
    if handle.isEmpty then return ⟨"", suffix⟩
    let directives := p.tags ++ [("!", "!"), ("!!", "tag:yaml.org,2002:")]
    match directives.lookup handle with
    | some stem => return ⟨stem, suffix⟩
    | none => throw ⟨"", mark, "found undefined tag handle", mark, some ("while parsing a node", mark)⟩

/-- Registers an anchor under the next number. -/
def registerAnchor (name : String) : ParseM Nat := do
  let p ← get
  set { p with anchorId := p.anchorId + 1, anchors := (name, p.anchorId) :: p.anchors }
  return p.anchorId

/-- Parses a node: an alias, or properties (anchor and tag in either order) then a scalar or
the start of a collection. In a block mapping's value, `indentless` lets a sequence start at the
key's own indentation. -/
def parseNode (block indentless : Bool) : ParseM (Event × Mark) := do
  let t ← peekToken
  let start := t.mark
  match t.kind with
  | .aliasOf name =>
    popState
    skipToken
    match (← get).anchors.lookup name with
    | some id => return (.aliasOf id, t.mark)
    | none =>
      throw ⟨"while parsing node, found unknown anchor", t.mark, "unknown anchor", t.mark, none⟩
  | _ =>
    let (anchor, tag) ← match t.kind with
      | .anchor name => do
        skipToken
        let id ← registerAnchor name
        let n ← peekToken
        match n.kind with
        | .tag h s => skipToken; pure (id, some (← resolveTag t.mark h s))
        | _ => pure (id, none)
      | .tag h s => do
        skipToken
        let tag ← resolveTag t.mark h s
        let n ← peekToken
        match n.kind with
        | .anchor name => skipToken; pure (← registerAnchor name, some tag)
        | _ => pure (0, some tag)
      | _ => pure (0, none)
    let t ← peekToken
    match t.kind with
    | .blockEntry =>
      if indentless then
        setState .indentlessSequenceEntry
        return (.sequenceStart anchor tag, t.mark)
      else absent anchor tag start t
    | .scalar style text =>
      popState
      skipToken
      return (.scalar text style anchor tag, t.mark)
    | .flowSequenceStart =>
      setState .flowSequenceFirstEntry
      return (.sequenceStart anchor tag, t.mark)
    | .flowMappingStart =>
      setState .flowMappingFirstKey
      return (.mappingStart anchor tag, t.mark)
    | .blockSequenceStart =>
      if block then
        setState .blockSequenceFirstEntry
        return (.sequenceStart anchor tag, t.mark)
      else absent anchor tag start t
    | .blockMappingStart =>
      if block then
        setState .blockMappingFirstKey
        return (.mappingStart anchor tag, t.mark)
      else absent anchor tag start t
    | _ => absent anchor tag start t
where
  /-- No content: an empty scalar after properties, otherwise a fault. -/
  absent (anchor : Nat) (tag : Option Tag) (start : Mark) (t : Token) : ParseM (Event × Mark) := do
    if anchor > 0 || tag.isSome then
      popState
      return (.empty anchor tag, t.mark)
    throw ⟨"while parsing a node, did not find expected node content", t.mark,
      "did not find expected node content", t.mark,
      some (if block then "while parsing a block node" else "while parsing a flow node", start)⟩

/-- An entry of a block sequence, or its end. -/
def blockSequenceEntryStep (first : Bool) : ParseM (Event × Mark) := do
  if first then
    let t ← peekToken
    pushMark t.mark
    skipToken
  let t ← peekToken
  match t.kind with
  | .blockEnd =>
    popState
    let _ ← popMark
    skipToken
    return (.sequenceEnd, t.mark)
  | .blockEntry =>
    skipToken
    let n ← peekToken
    match n.kind with
    | .blockEntry | .blockEnd =>
      setState .blockSequenceEntry
      return (.empty, n.mark)
    | _ =>
      pushState .blockSequenceEntry
      parseNode true false
  | _ =>
    collectionFault "while parsing a block collection"
      "while parsing a block collection, did not find expected '-' indicator"
      "did not find expected '-' indicator" t.mark

/-- An entry of a sequence written without indentation under a mapping key, or its end. -/
def indentlessSequenceEntryStep : ParseM (Event × Mark) := do
  let t ← peekToken
  match t.kind with
  | .blockEntry =>
    skipToken
    let n ← peekToken
    match n.kind with
    | .blockEntry | .key | .value | .blockEnd =>
      setState .indentlessSequenceEntry
      return (.empty, n.mark)
    | _ =>
      pushState .indentlessSequenceEntry
      parseNode true false
  | _ =>
    popState
    return (.sequenceEnd, t.mark)

/-- A key of a block mapping, or its end. -/
def blockMappingKeyStep (first : Bool) : ParseM (Event × Mark) := do
  if first then
    let t ← peekToken
    pushMark t.mark
    skipToken
  let t ← peekToken
  match t.kind with
  | .key =>
    skipToken
    let n ← peekToken
    match n.kind with
    | .key | .value | .blockEnd =>
      setState .blockMappingValue
      return (.empty, n.mark)
    | _ =>
      pushState .blockMappingValue
      parseNode true true
  | .value =>
    setState .blockMappingValue
    return (.empty, t.mark)
  | .blockEnd =>
    popState
    let _ ← popMark
    skipToken
    return (.mappingEnd, t.mark)
  | _ =>
    collectionFault "while parsing a block mapping"
      "while parsing a block mapping, did not find expected key" "did not find expected key" t.mark

/-- A value of a block mapping, empty when the `:` is missing. -/
def blockMappingValueStep : ParseM (Event × Mark) := do
  let t ← peekToken
  match t.kind with
  | .value =>
    skipToken
    let n ← peekToken
    match n.kind with
    | .key | .value | .blockEnd =>
      setState .blockMappingKey
      return (.empty, n.mark)
    | _ =>
      pushState .blockMappingKey
      parseNode true true
  | _ =>
    setState .blockMappingKey
    return (.empty, t.mark)

/-- An entry of a flow sequence, or its end; a `?` in it starts a single-pair mapping. -/
def flowSequenceEntryStep (first : Bool) : ParseM (Event × Mark) := do
  if first then
    let t ← peekToken
    pushMark t.mark
    skipToken
  let t ← peekToken
  let endSequence : ParseM (Event × Mark) := do
    popState
    let _ ← popMark
    skipToken
    return (.sequenceEnd, t.mark)
  match t.kind with
  | .flowSequenceEnd => endSequence
  | _ =>
    if !first then
      if t.kind matches .flowEntry then skipToken
      else
        collectionFault "while parsing a flow sequence"
          "while parsing a flow sequence, expected ',' or ']'" "did not find expected ',' or ']'" t.mark
    let t ← peekToken
    match t.kind with
    | .flowSequenceEnd =>
      popState
      let _ ← popMark
      skipToken
      return (.sequenceEnd, t.mark)
    | .key =>
      setState .flowSequenceEntryMappingKey
      skipToken
      return (.mappingStart 0 none, t.mark)
    | _ =>
      pushState .flowSequenceEntry
      parseNode false false

/-- The key of a single-pair mapping inside a flow sequence. -/
def flowSequenceEntryMappingKeyStep : ParseM (Event × Mark) := do
  let t ← peekToken
  match t.kind with
  | .value | .flowEntry | .flowSequenceEnd =>
    if (← flavor) == .modern then skipToken
    setState .flowSequenceEntryMappingValue
    return (.empty, t.mark)
  | _ =>
    pushState .flowSequenceEntryMappingValue
    parseNode false false

/-- The value of a single-pair mapping inside a flow sequence. -/
def flowSequenceEntryMappingValueStep : ParseM (Event × Mark) := do
  let t ← peekToken
  match t.kind with
  | .value =>
    skipToken
    let n ← peekToken
    match n.kind with
    | .flowEntry | .flowSequenceEnd =>
      setState .flowSequenceEntryMappingEnd
      return (.empty, n.mark)
    | _ =>
      pushState .flowSequenceEntryMappingEnd
      parseNode false false
  | _ =>
    setState .flowSequenceEntryMappingEnd
    return (.empty, t.mark)

/-- The end of a single-pair mapping inside a flow sequence. -/
def flowSequenceEntryMappingEndStep : ParseM (Event × Mark) := do
  setState .flowSequenceEntry
  let t ← peekToken
  return (.mappingEnd, t.mark)

/-- A key of a flow mapping, or its end. -/
def flowMappingKeyStep (first : Bool) : ParseM (Event × Mark) := do
  if first then
    let t ← peekToken
    pushMark t.mark
    skipToken
  let t ← peekToken
  let endMapping : ParseM (Event × Mark) := do
    popState
    let _ ← popMark
    skipToken
    return (.mappingEnd, t.mark)
  match t.kind with
  | .flowMappingEnd => endMapping
  | _ =>
    if !first then
      if t.kind matches .flowEntry then skipToken
      else
        collectionFault "while parsing a flow mapping"
          "while parsing a flow mapping, did not find expected ',' or '\x7d'"
          "did not find expected ',' or '\x7d'" t.mark
    let t ← peekToken
    match t.kind with
    | .key =>
      skipToken
      let n ← peekToken
      match n.kind with
      | .value | .flowEntry | .flowMappingEnd =>
        setState .flowMappingValue
        return (.empty, n.mark)
      | _ =>
        pushState .flowMappingValue
        parseNode false false
    | .value =>
      setState .flowMappingValue
      return (.empty, t.mark)
    | .flowMappingEnd =>
      popState
      let _ ← popMark
      skipToken
      return (.mappingEnd, t.mark)
    | _ =>
      pushState .flowMappingEmptyValue
      parseNode false false

/-- A value of a flow mapping, empty when the `:` is missing. -/
def flowMappingValueStep (empty : Bool) : ParseM (Event × Mark) := do
  let t ← peekToken
  if empty then
    setState .flowMappingKey
    return (.empty, t.mark)
  match t.kind with
  | .value =>
    skipToken
    let n ← peekToken
    match n.kind with
    | .flowEntry | .flowMappingEnd =>
      setState .flowMappingKey
      return (.empty, t.mark)
    | _ =>
      pushState .flowMappingKey
      parseNode false false
  | _ =>
    setState .flowMappingKey
    return (.empty, t.mark)

/-- The next event. -/
def nextEvent : ParseM (Event × Mark) := do
  match (← get).state with
  | .streamStart => streamStartStep
  | .implicitDocumentStart => documentStartStep true
  | .documentStart => documentStartStep false
  | .documentContent => documentContentStep (parseNode true false)
  | .documentEnd => documentEndStep
  | .blockNode => parseNode true false
  | .blockSequenceFirstEntry => blockSequenceEntryStep true
  | .blockSequenceEntry => blockSequenceEntryStep false
  | .indentlessSequenceEntry => indentlessSequenceEntryStep
  | .blockMappingFirstKey => blockMappingKeyStep true
  | .blockMappingKey => blockMappingKeyStep false
  | .blockMappingValue => blockMappingValueStep
  | .flowSequenceFirstEntry => flowSequenceEntryStep true
  | .flowSequenceEntry => flowSequenceEntryStep false
  | .flowSequenceEntryMappingKey => flowSequenceEntryMappingKeyStep
  | .flowSequenceEntryMappingValue => flowSequenceEntryMappingValueStep
  | .flowSequenceEntryMappingEnd => flowSequenceEntryMappingEndStep
  | .flowMappingFirstKey => flowMappingKeyStep true
  | .flowMappingKey => flowMappingKeyStep false
  | .flowMappingValue => flowMappingValueStep false
  | .flowMappingEmptyValue => flowMappingValueStep true
  | .finished => return (.streamEnd, (← get).scanner.mark)

/-- The events of a text up to its stream end or its first fault. A new document forgets the
anchors of the one before. -/
def events (flavor : Flavor) (text : String) : List (Event × Mark) × Option Fault :=
  let p : Parser := { scanner := Scanner.start flavor text }
  let rec go : Nat → Parser → List (Event × Mark) → List (Event × Mark) × Option Fault
    | 0, _, acc => (acc.reverse, some (.plain ⟨0, 1, 0⟩ "unexpected eof"))
    | n + 1, p, acc =>
      match nextEvent.run p with
      | .error e => (acc.reverse, some e)
      | .ok ((ev, m), p) =>
        let p := if ev matches .documentStart then { p with anchors := [] } else p
        if ev matches .streamEnd then (((ev, m) :: acc).reverse, none)
        else go n p ((ev, m) :: acc)
  go (16 * (text.length + 4)) p []

end StateMetrics.Yaml
