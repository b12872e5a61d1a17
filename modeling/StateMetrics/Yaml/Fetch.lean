import StateMetrics.Yaml.Scalars

/-! # Fetching tokens

`fetchNextToken` passes over blanks and comments, closes the blocks the new line leaves, and
queues the tokens of what comes next: a stream or document marker, a directive, a flow
indicator, a block entry, a key or value indicator, an anchor, alias or tag, or a scalar.
`nextToken` releases the first queued token once no simple key could still be inserted
before it. -/

namespace StateMetrics.Yaml

/-- Passes over blanks, line breaks and comments up to the next token. A line break in the
block context allows a simple key again. The modern reader refuses a tab that indents content
inside a block; the classic one stops at a tab where a simple key may start. -/
def skipToNextToken : ScanM Unit := do
  let rec go : Nat → ScanM Unit
    | 0 => pure ()
    | n + 1 => do
      let s ← get
      let c := s.peekAt 0
      if c == '\t' && s.flavor == .modern && !s.indents.isEmpty && s.leadingWhitespace &&
          (s.mark.col : Int) < s.indent then
        let _ ← skipWsToEol true
        if !isBreakZ (← cur) then
          fail (.plain (← curMark) "tabs disallowed within this context (block indentation)")
        go n
      else if c == ' ' || (c == '\t' && (s.flavor == .modern || s.flowLevel > 0 || !s.simpleKeyAllowed)) then
        skipBlank; go n
      else if isBreak c then
        skipLinebreak
        if (← get).flowLevel == 0 then allowSimpleKey
        go n
      else if c == '#' then skipComment; go n
      else pure ()
  go (← get).left

/-- Queues the stream start. -/
def fetchStreamStart : ScanM Unit := do
  let s ← get
  set { s with indent := -1, streamStartProduced := true, simpleKeyAllowed := true,
               simpleKeys := [{}] }
  pushToken ⟨s.mark, .streamStart⟩

/-- Queues the stream end, on a line of its own, after closing every block. -/
def fetchStreamEnd : ScanM Unit := do
  let s ← get
  let s := if s.mark.col != 0 then { s with mark := { s.mark with col := 0, line := s.mark.line + 1 } } else s
  set s
  if s.flavor == .modern then
    if s.simpleKeys.any fun k => k.required && k.possible then
      fail (.plain s.mark "simple key expected")
    set { s with simpleKeys := s.simpleKeys.map fun (k : SimpleKey) => { k with possible := false } }
  unrollIndent (-1)
  removeSimpleKey
  disallowSimpleKey
  pushToken ⟨(← get).mark, .streamEnd⟩

/-- Queues a directive. -/
def fetchDirective : ScanM Unit := do
  unrollIndent (-1)
  removeSimpleKey
  disallowSimpleKey
  let t ← scanDirective
  pushToken t

/-- Queues a document start or end marker. -/
def fetchDocumentIndicator (kind : TokenKind) : ScanM Unit := do
  unrollIndent (-1)
  removeSimpleKey
  disallowSimpleKey
  let mark ← curMark
  skipN 3
  pushToken ⟨mark, kind⟩

/-- Queues the start of a flow sequence or mapping. -/
def fetchFlowCollectionStart (kind : TokenKind) : ScanM Unit := do
  saveSimpleKey
  rollOneColIndent
  modify fun s => { s with simpleKeys := {} :: s.simpleKeys, flowLevel := s.flowLevel + 1 }
  allowSimpleKey
  let mark ← curMark
  skipNonBlank
  let s ← get
  if s.flavor == .modern then
    if kind matches .flowMappingStart then set { s with flowMappingStarted := true }
    let _ ← skipWsToEol true
  pushToken ⟨mark, kind⟩

/-- Queues the end of a flow sequence or mapping. -/
def fetchFlowCollectionEnd (kind : TokenKind) : ScanM Unit := do
  removeSimpleKey
  modify fun s => if s.flowLevel > 0 then
      { s with flowLevel := s.flowLevel - 1, simpleKeys := s.simpleKeys.drop 1 } else s
  disallowSimpleKey
  let s ← get
  if s.flavor == .modern then endImplicitMapping s.mark
  let mark ← curMark
  skipNonBlank
  if s.flavor == .modern then
    let _ ← skipWsToEol true
    let s ← get
    if s.flowLevel > 0 then set { s with adjacentValueAllowedAt := s.mark.index }
  pushToken ⟨mark, kind⟩

/-- Queues a flow entry separator. -/
def fetchFlowEntry : ScanM Unit := do
  removeSimpleKey
  allowSimpleKey
  let s ← get
  if s.flavor == .modern then endImplicitMapping s.mark
  let mark ← curMark
  skipNonBlank
  if s.flavor == .modern then let _ ← skipWsToEol true
  pushToken ⟨mark, .flowEntry⟩

/-- Queues a block sequence entry, opening the sequence when it is indented further. -/
def fetchBlockEntry : ScanM Unit := do
  let s ← get
  if s.flowLevel > 0 then
    match s.flavor with
    | .modern => fail (.plain s.mark "\"-\" is only valid inside a block")
    | .classic => pure ()
  else
    if !s.simpleKeyAllowed then fail (.plain s.mark "block sequence entries are not allowed in this context")
    if s.flavor == .modern then
      match s.tokens.getLast? with
      | some ⟨m, .anchor _⟩ | some ⟨m, .tag _ _⟩ =>
        if s.mark.col == 0 && m.col == 0 && s.indent > -1 then
          fail (.plain m "invalid indentation for anchor")
      | _ => pure ()
  let mark ← curMark
  match s.flavor with
  | .modern =>
    skipNonBlank
    rollIndent mark.col none .blockSequenceStart mark
    let found ← skipWsToEol true
    let s ← get
    if found.tabs && s.peekAt 0 == '-' && isBlankZ (s.peekAt 1) then
      fail (.plain s.mark "'-' must be followed by a valid YAML whitespace")
    let _ ← skipWsToEol false
    let c ← cur
    if isBreak c || isFlow c then rollOneColIndent
    removeSimpleKey
    allowSimpleKey
    pushToken ⟨(← curMark), .blockEntry⟩
  | .classic =>
    if s.flowLevel == 0 then rollIndent mark.col none .blockSequenceStart mark
    removeSimpleKey
    allowSimpleKey
    skipNonBlank
    pushToken ⟨mark, .blockEntry⟩

/-- Queues an explicit key indicator, opening a block mapping when it is indented further. -/
def fetchKey : ScanM Unit := do
  let s ← get
  let mark := s.mark
  if s.flowLevel == 0 then
    if !s.simpleKeyAllowed then fail (.plain s.mark "mapping keys are not allowed in this context")
    rollIndent mark.col none .blockMappingStart mark
  else if s.flavor == .modern then set { s with flowMappingStarted := true }
  removeSimpleKey
  if (← get).flowLevel == 0 then allowSimpleKey else disallowSimpleKey
  skipNonBlank
  pushToken ⟨mark, .key⟩

/-- Queues a value indicator. When a simple key was possible, its `key` token, and the block
mapping start when the key is indented further, are inserted where the key started. -/
def fetchValue : ScanM Unit := do
  let s ← get
  let sk := s.simpleKeys.headD {}
  let start := s.mark
  let implicit := s.flavor == .modern && s.flowLevel > 0 && !s.flowMappingStarted
  set { s with implicitFlowMapping := implicit }
  skipNonBlank
  if s.flavor == .modern && (← cur) == '\t' then
    let found ← skipWsToEol true
    let c ← cur
    if !found.spaces && (c == '-' || isAlpha c) then
      fail (.plain (← curMark) "':' must be followed by a valid YAML whitespace")
  if sk.possible then
    let s ← get
    insertToken (sk.tokenNumber - s.tokensParsed) ⟨sk.mark, .key⟩
    if implicit then
      if sk.mark.line < start.line then fail (.plain start "illegal placement of ':' indicator")
      insertToken (sk.tokenNumber - s.tokensParsed) ⟨(← curMark), .flowMappingStart⟩
    rollIndent sk.mark.col (some sk.tokenNumber) .blockMappingStart
      (if s.flavor == .classic then sk.mark else start)
    rollOneColIndent
    modify fun s => { s with simpleKeys := match s.simpleKeys with
      | k :: rest => { k with possible := false } :: rest
      | [] => [] }
    disallowSimpleKey
  else
    if implicit then pushToken ⟨start, .flowMappingStart⟩
    let s ← get
    if s.flowLevel == 0 then
      if !s.simpleKeyAllowed then
        fail (.plain start "mapping values are not allowed in this context")
      rollIndent start.col none .blockMappingStart start
    rollOneColIndent
    if s.flowLevel == 0 then allowSimpleKey else disallowSimpleKey
  pushToken ⟨start, .value⟩

/-- Queues an anchor or an alias, which may start a simple key. -/
def fetchAnchor (isAlias : Bool) : ScanM Unit := do
  saveSimpleKey
  disallowSimpleKey
  let t ← scanAnchor isAlias
  pushToken t

/-- Queues a tag, which may start a simple key. -/
def fetchTag : ScanM Unit := do
  saveSimpleKey
  disallowSimpleKey
  let t ← scanTag
  pushToken t

/-- Queues a block scalar; a simple key may follow it. -/
def fetchBlockScalar (literal : Bool) : ScanM Unit := do
  if (← get).flavor == .modern then saveSimpleKey else removeSimpleKey
  allowSimpleKey
  let t ← scanBlockScalar literal
  pushToken t

/-- Queues a quoted scalar, which may start a simple key. -/
def fetchFlowScalar (single : Bool) : ScanM Unit := do
  saveSimpleKey
  disallowSimpleKey
  let t ← scanFlowScalar single
  pushToken t

/-- Queues a plain scalar, which may start a simple key. -/
def fetchPlainScalar : ScanM Unit := do
  saveSimpleKey
  disallowSimpleKey
  let t ← scanPlainScalar
  pushToken t

/-- The fault of a character that starts no token. -/
def cannotStart (m : Mark) (c : Char) : ScanM Unit := do
  match (← get).flavor with
  | .modern => fail (.plain m ("unexpected character: \x60" ++ String.singleton c ++ "'"))
  | .classic =>
    fail ⟨"", m, "found character that cannot start any token", m,
      some ("while scanning for the next token", m)⟩

/-- Fetches the tokens of what comes next. -/
def fetchNextToken : ScanM Unit := do
  if !(← get).streamStartProduced then fetchStreamStart; return
  skipToNextToken
  staleSimpleKeys
  unrollIndent (← curMark).col
  let s ← get
  let c := s.peekAt 0
  let nc := s.peekAt 1
  if isZ c then fetchStreamEnd; return
  if s.mark.col == 0 && c == '%' then fetchDirective; return
  if s.mark.col == 0 && c == '-' && nc == '-' && s.peekAt 2 == '-' && isBlankZ (s.peekAt 3) then
    fetchDocumentIndicator .documentStart; return
  if s.mark.col == 0 && c == '.' && nc == '.' && s.peekAt 2 == '.' && isBlankZ (s.peekAt 3) then
    fetchDocumentIndicator .documentEnd
    if s.flavor == .modern then
      let _ ← skipWsToEol true
      if !isBreakZ (← cur) then fail (.plain (← curMark) "invalid content after document end marker")
    return
  if s.flavor == .modern && (s.mark.col : Int) < s.indent then
    fail (.plain s.mark "invalid indentation")
  let flow := s.flowLevel > 0
  match c with
  | '[' => fetchFlowCollectionStart .flowSequenceStart
  | '\x7b' => fetchFlowCollectionStart .flowMappingStart
  | ']' => fetchFlowCollectionEnd .flowSequenceEnd
  | '\x7d' => fetchFlowCollectionEnd .flowMappingEnd
  | ',' => fetchFlowEntry
  | '*' => fetchAnchor true
  | '&' => fetchAnchor false
  | '!' => fetchTag
  | '\'' => fetchFlowScalar true
  | '"' => fetchFlowScalar false
  | _ =>
    if c == '-' && isBlankZ nc then fetchBlockEntry
    else if c == '?' && (isBlankZ nc || (s.flavor == .classic && flow)) then fetchKey
    else if c == ':' && (isBlankZ nc || (flow && s.flavor == .classic) ||
        (flow && (isFlow nc || s.mark.index == s.adjacentValueAllowedAt))) then fetchValue
    else if c == '|' && !flow then fetchBlockScalar true
    else if c == '>' && !flow then fetchBlockScalar false
    else if c == '-' || ((c == ':' || c == '?') && !flow) then fetchPlainScalar
    else if c == '%' || c == '@' || c == '\x60' then cannotStart s.mark c
    else if s.flavor == .classic && (isBlankZ c || c == '#' || c == '|' || c == '>' ||
        c == '?' || c == ':') then cannotStart s.mark c
    else fetchPlainScalar

/-- Fetches tokens until the first queued one can no longer be preceded by a simple key. -/
def fetchMoreTokens : ScanM Unit := do
  let rec go : Nat → ScanM Unit
    | 0 => pure ()
    | n + 1 => do
      let s ← get
      let needMore ← if s.tokens.isEmpty then pure true else do
        staleSimpleKeys
        let s ← get
        pure (s.simpleKeys.any fun k => k.possible && k.tokenNumber == s.tokensParsed)
      if !needMore then return
      fetchNextToken
      go n
  go (4 * (← get).left + 8)
  modify fun s => { s with tokenAvailable := true }

/-- The next token, or none after the stream end. -/
def nextToken : ScanM (Option Token) := do
  if (← get).streamEndProduced then return none
  if !(← get).tokenAvailable then fetchMoreTokens
  let s ← get
  match s.tokens with
  | [] => fail (.plain s.mark "did not find expected next token")
  | t :: rest =>
    set { s with tokens := rest, tokenAvailable := false, tokensParsed := s.tokensParsed + 1,
                 streamEndProduced := t.kind matches .streamEnd }
    return some t

end StateMetrics.Yaml
