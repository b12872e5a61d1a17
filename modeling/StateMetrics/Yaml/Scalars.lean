import StateMetrics.Yaml.Scanner

/-! # Scanning scalars, anchors, tags and directives

Plain scalars end before `: `, before ` #`, at a flow indicator inside a flow collection, and
at a line indented no further than the enclosing block. Line breaks inside a scalar fold: a
single break becomes a space and further breaks stay. Quoted scalars fold the same way and
read escapes in double quotes; block scalars keep their lines, literal ones as they are and
folded ones joined by spaces, and chomp the final breaks as their header says. -/

namespace StateMetrics.Yaml

/-- Folds the breaks between two runs of a scalar: a single break is a space, more breaks are
kept but the first. Returns the text with the joint. -/
def foldBreaks (text leadingBreak trailingBreaks : String) : String :=
  if leadingBreak.isEmpty then text ++ trailingBreaks
  else if trailingBreaks.isEmpty then text.push ' '
  else text ++ trailingBreaks

/-! ## Plain scalars -/

/-- Whether the current character may continue a plain scalar. -/
def canContinuePlain : ScanM Bool := do
  let s ← get
  let c := s.peekAt 0
  let n := s.peekAt 1
  if c == ':' && (isBlankZ n || (s.flowLevel > 0 && isFlow n)) then return false
  if s.flowLevel > 0 && isFlow c then return false
  return true

/-- Reads the characters of a plain scalar up to a blank or an indicator that ends it. -/
def plainRun (acc : String) : ScanM String := do
  let rec go : Nat → String → ScanM String
    | 0, acc => pure acc
    | n + 1, acc => do
      let c ← cur
      if isBlankZ c then return acc
      if !(← canContinuePlain) then return acc
      skipNonBlank
      go n (acc.push c)
  go (← get).left acc

/-- The state of a plain scalar between its runs: the text so far, the blanks and breaks
after it, and whether the blanks follow a line break. -/
structure Folding where
  text : String := ""
  whitespaces : String := ""
  leadingBreak : String := ""
  trailingBreaks : String := ""
  leadingBlanks : Bool := false

/-- Reads the blanks and breaks after a run of a plain scalar. A tab in the indentation of a
following line fails unless the line is empty. -/
def plainBlanks (start : Mark) (indent : Int) (f : Folding) : ScanM Folding := do
  let rec go : Nat → Folding → ScanM Folding
    | 0, f => pure f
    | n + 1, f => do
      let c ← cur
      if isBlank c then
        let s ← get
        if f.leadingBlanks && (s.mark.col : Int) < indent && c == '\t' then
          match s.flavor with
          | .modern =>
            let _ ← skipWsToEol true
            if !isBreakZ (← cur) then
              fail (.plain start "while scanning a plain scalar, found a tab")
            go n f
          | .classic =>
            fail ⟨"", start, "found a tab character that violates indentation", s.mark,
              some ("while scanning a plain scalar", start)⟩
        else if f.leadingBlanks then skipBlank; go n f
        else skipBlank; go n { f with whitespaces := f.whitespaces.push c }
      else if isBreak c then
        if f.leadingBlanks then
          let t ← readBreak f.trailingBreaks
          go n { f with trailingBreaks := t }
        else
          let l ← readBreak f.leadingBreak
          go n { f with whitespaces := "", leadingBreak := l, leadingBlanks := true }
      else pure f
  go (← get).left f

/-- Scans a plain scalar. -/
def scanPlainScalar : ScanM Token := do
  if (← get).flavor == .modern then unrollNonBlockIndents
  let s ← get
  let indent := s.indent + 1
  let start := s.mark
  if s.flavor == .modern && s.flowLevel > 0 && (start.col : Int) < indent then
    fail (.plain start "invalid indentation in flow construct")
  let rec go : Nat → Folding → ScanM Folding
    | 0, f => pure f
    | n + 1, f => do
      if (← atDocumentIndicator) || (← cur) == '#' then return f
      let s ← get
      if s.flavor == .modern && s.flowLevel > 0 && s.peekAt 0 == '-' && isFlow (s.peekAt 1) then
        fail (.plain s.mark "plain scalar cannot start with '-' followed by ,[]\x7b\x7d")
      let f ← if !isBlankZ (← cur) && (← canContinuePlain) then do
          let f := if f.leadingBlanks then
              { f with text := foldBreaks f.text f.leadingBreak f.trailingBreaks,
                       leadingBreak := "", trailingBreaks := "", leadingBlanks := false }
            else { f with text := f.text ++ f.whitespaces, whitespaces := "" }
          let text ← plainRun f.text
          pure { f with text }
        else pure f
      let c ← cur
      if !(isBlank c || isBreak c) then return f
      let f ← plainBlanks start indent f
      let s ← get
      if s.flowLevel == 0 && (s.mark.col : Int) < indent then return f
      go n f
  let f ← go (← get).left {}
  if f.leadingBlanks then allowSimpleKey
  return ⟨start, .scalar .plain f.text⟩

/-! ## Quoted scalars -/

/-- Reads an escape sequence after a backslash in a double-quoted scalar. -/
def readEscape (start : Mark) : ScanM Char := do
  let c ← look 1
  let simple : Option Char := match c with
    | '0' => some '\x00' | 'a' => some '\x07' | 'b' => some '\x08' | 't' => some '\t'
    | '\t' => some '\t' | 'n' => some '\n' | 'v' => some '\x0b' | 'f' => some '\x0c'
    | 'r' => some '\r' | 'e' => some '\x1b' | ' ' => some ' ' | '"' => some '"'
    | '/' => some '/' | '\\' => some '\\' | 'N' => some (Char.ofNat 0x85)
    | '_' => some (Char.ofNat 0xA0) | 'L' => some (Char.ofNat 0x2028)
    | 'P' => some (Char.ofNat 0x2029) | _ => none
  let width : Nat := match c with | 'x' => 2 | 'u' => 4 | 'U' => 8 | _ => 0
  let context := "while parsing a quoted scalar"
  let classicContext := "while scanning a double-quoted scalar"
  match simple with
  | some r => skipN 2; return r
  | none =>
    if width == 0 then
      fail ⟨context ++ ", found unknown escape character", start, "found unknown escape character",
        (← curMark), some (classicContext, start)⟩
    skipN 2
    let s ← get
    let digits := (List.range width).map s.peekAt
    if !digits.all isHex then
      fail ⟨context ++ ", did not find expected hexadecimal number", start,
        "did not find expected hexdecimal number", s.mark, some (classicContext, start)⟩
    let code := digits.foldl (fun a d => a * 16 + hexValue d) 0
    if code ≥ 0xD800 && code ≤ 0xDFFF || code > 0x10FFFF then
      fail ⟨context ++ ", found invalid Unicode character escape code", start,
        "found invalid Unicode character escape code", s.mark, some (classicContext, start)⟩
    skipN width
    return Char.ofNat code

/-- Reads the characters of a quoted scalar up to a blank or its closing quote. Returns the
text and whether an escaped line break was read. -/
def quotedRun (single : Bool) (start : Mark) (acc : String) : ScanM (String × Bool) := do
  let rec go : Nat → String → ScanM (String × Bool)
    | 0, acc => pure (acc, false)
    | n + 1, acc => do
      let c ← cur
      if isBlankZ c then return (acc, false)
      let nc ← look 1
      if single && c == '\'' && nc == '\'' then skipN 2; go n (acc.push '\'')
      else if single && c == '\'' then return (acc, false)
      else if !single && c == '"' then return (acc, false)
      else if !single && c == '\\' && isBreak nc then
        skipNonBlank; skipLinebreak; return (acc, true)
      else if !single && c == '\\' then
        let r ← readEscape start
        go n (acc.push r)
      else skipNonBlank; go n (acc.push c)
  go (← get).left acc

/-- Reads the blanks and breaks inside a quoted scalar. -/
def quotedBlanks (f : Folding) : ScanM Folding := do
  let rec go : Nat → Folding → ScanM Folding
    | 0, f => pure f
    | n + 1, f => do
      let c ← cur
      if isBlank c then
        let s ← get
        if f.leadingBlanks then
          if s.flavor == .modern && c == '\t' && (s.mark.col : Int) < s.indent then
            fail (.plain s.mark "tab cannot be used as indentation")
          skipBlank; go n f
        else skipBlank; go n { f with whitespaces := f.whitespaces.push c }
      else if isBreak c then
        if f.leadingBlanks then
          let t ← readBreak f.trailingBreaks
          go n { f with trailingBreaks := t }
        else
          let l ← readBreak f.leadingBreak
          go n { f with whitespaces := "", leadingBreak := l, leadingBlanks := true }
      else pure f
  go (← get).left f

/-- Scans a single- or double-quoted scalar. -/
def scanFlowScalar (single : Bool) : ScanM Token := do
  let start ← curMark
  skipNonBlank
  let classicContext := if single then "while scanning a single-quoted scalar"
    else "while scanning a double-quoted scalar"
  let rec go : Nat → String → ScanM String
    | 0, text => pure text
    | n + 1, text => do
      let s ← get
      if (← atDocumentIndicator) then
        fail ⟨"while scanning a quoted scalar, found unexpected document indicator", start,
          "found unexpected document indicator", s.mark, some (classicContext, start)⟩
      if isZ (← cur) then
        fail ⟨"while scanning a quoted scalar, found unexpected end of stream", start,
          "found unexpected end of stream", s.mark, some (classicContext, start)⟩
      if s.flavor == .modern && (s.mark.col : Int) < s.indent then
        fail (.plain start "invalid indentation in quoted scalar")
      let (text, escapedBreak) ← quotedRun single start text
      let c ← cur
      if (single && c == '\'') || (!single && c == '"') then return text
      let f ← quotedBlanks { text, leadingBlanks := escapedBreak }
      let text := if f.leadingBlanks then foldBreaks f.text f.leadingBreak f.trailingBreaks
        else f.text ++ f.whitespaces
      go n text
  let text ← go (← get).left ""
  skipNonBlank
  if (← get).flavor == .modern then
    let _ ← skipWsToEol true
    let s ← get
    let c := s.peekAt 0
    let fine := (s.flowLevel > 0 && (c == ',' || c == '\x7d' || c == ']')) || isBreakZ c ||
      (c == ':' && (s.flowLevel > 0 || start.line == s.mark.line))
    if !fine then fail (.plain s.mark "invalid trailing content after double-quoted scalar")
  return ⟨start, .scalar (if single then .singleQuoted else .doubleQuoted) text⟩

/-! ## Block scalars -/

/-- Reads the indentation and the empty lines before a line of a block scalar. With no
indentation yet, the deepest of these lines sets it, at least one more than the enclosing
block. -/
def blockScalarBreaks (start : Mark) (indent : Nat) (breaks : String) : ScanM (Nat × String) := do
  let rec spaces : Nat → Nat → ScanM Unit
    | 0, _ => pure ()
    | n + 1, ind => do
      let s ← get
      if (ind == 0 || s.mark.col < ind) && s.peekAt 0 == ' ' then skipBlank; spaces n ind
  let rec go : Nat → Nat → String → ScanM (Nat × String)
    | 0, maxIndent, breaks => pure (maxIndent, breaks)
    | n + 1, maxIndent, breaks => do
      spaces (← get).left indent
      let s ← get
      let maxIndent := max maxIndent s.mark.col
      if (indent == 0 || s.mark.col < indent) && s.peekAt 0 == '\t' then
        fail ⟨"while scanning a block scalar, found a tab character where an indentation space is expected",
          start, "found a tab character where an indentation space is expected", s.mark,
          some ("while scanning a block scalar", start)⟩
      if !isBreak (s.peekAt 0) then return (maxIndent, breaks)
      let breaks ← readBreak breaks
      go n maxIndent breaks
  let (maxIndent, breaks) ← go (← get).left 0 breaks
  if indent != 0 then return (indent, breaks)
  let outer := (← get).indent + 1
  let indent := max (max maxIndent outer.toNat) 1
  return (indent, breaks)

/-- Reads the header of a block scalar: chomping (`+` keeps, `-` strips) and an explicit
indentation in either order. -/
def blockScalarHeader (start : Mark) : ScanM (Int × Nat) := do
  let zero := fun (m : Mark) => Fault.mk
    "while scanning a block scalar, found an indentation indicator equal to 0" start
    "found an indentation indicator equal to 0" m (some ("while scanning a block scalar", start))
  let c ← cur
  if c == '+' || c == '-' then
    skipNonBlank
    let d ← cur
    if isDigit d then
      if d == '0' then fail (zero (← curMark))
      skipNonBlank
      return (if c == '+' then 1 else -1, d.toNat - '0'.toNat)
    return (if c == '+' then 1 else -1, 0)
  else if isDigit c then
    if c == '0' then fail (zero (← curMark))
    skipNonBlank
    let e ← cur
    if e == '+' || e == '-' then
      skipNonBlank
      return (if e == '+' then 1 else -1, c.toNat - '0'.toNat)
    return (0, c.toNat - '0'.toNat)
  else return (0, 0)

/-- Scans a literal (`|`) or folded (`>`) block scalar. -/
def scanBlockScalar (literal : Bool) : ScanM Token := do
  let start ← curMark
  skipNonBlank
  if (← get).flavor == .modern then unrollNonBlockIndents
  let (chomping, increment) ← blockScalarHeader start
  let rec blanks : Nat → ScanM Unit
    | 0 => pure ()
    | n + 1 => do if isBlank (← cur) then skipBlank; blanks n
  blanks (← get).left
  if (← cur) == '#' then skipComment
  if !isBreakZ (← cur) then
    fail ⟨"while scanning a block scalar, did not find expected comment or line break", start,
      "did not find expected comment or line break", (← curMark),
      some ("while scanning a block scalar", start)⟩
  if isBreak (← cur) then skipLinebreak
  let outer := (← get).indent
  let indent : Nat := if increment > 0 then
      (if outer ≥ 0 then (outer + increment).toNat else increment) else 0
  let (indent, trailing) ← blockScalarBreaks start indent ""
  let rec lines : Nat → String → String → String → Bool → ScanM (String × String × String)
    | 0, text, leading, trailing, _ => pure (text, leading, trailing)
    | n + 1, text, leading, trailing, leadingBlank => do
      let s ← get
      if !(s.mark.col == indent && !isZ (s.peekAt 0)) then return (text, leading, trailing)
      let trailingBlank := isBlank (s.peekAt 0)
      let text := if !literal && !leading.isEmpty && !leadingBlank && !trailingBlank then
          (if trailing.isEmpty then text.push ' ' else text) ++ trailing
        else text ++ leading ++ trailing
      let leadingBlank := isBlank (s.peekAt 0)
      let rec line : Nat → String → ScanM String
        | 0, t => pure t
        | k + 1, t => do
          let c ← cur
          if isBreakZ c then return t
          skipNonBlank; line k (t.push c)
      let text ← line (← get).left text
      if isZ (← cur) then return (text, "", "")
      let leading ← readBreak ""
      let (_, trailing) ← blockScalarBreaks start indent ""
      lines n text leading trailing leadingBlank
  let contentStart ← curMark
  let (text, leading, trailing) ← lines (← get).left "" "" trailing false
  let text := if chomping != -1 then text ++ leading else text
  let text := if chomping == 1 then text ++ trailing else text
  let s ← get
  let mark := if s.flavor == .modern then contentStart else start
  return ⟨mark, .scalar (if literal then .literal else .folded) text⟩

/-! ## Anchors and aliases -/

/-- Scans an anchor (`&name`) or an alias (`*name`). -/
def scanAnchor (isAlias : Bool) : ScanM Token := do
  let start ← curMark
  skipNonBlank
  let flavor := (← get).flavor
  let rec go : Nat → String → ScanM String
    | 0, acc => pure acc
    | n + 1, acc => do
      let c ← cur
      if isAnchorChar flavor c then skipNonBlank; go n (acc.push c) else pure acc
  let name ← go (← get).left ""
  let c ← cur
  let badEnd := flavor == .classic &&
    !(isBlankZ c || c == '?' || c == ':' || c == ',' || c == ']' || c == '\x7d' || c == '%' ||
      c == '@' || c == '\x60')
  if name.isEmpty || badEnd then
    let context := if isAlias then "while scanning an alias" else "while scanning an anchor"
    fail ⟨"while scanning an anchor or alias, did not find expected alphabetic or numeric character",
      start, "did not find expected alphabetic or numeric character", (← curMark),
      some (context, start)⟩
  return ⟨start, if isAlias then .aliasOf name else .anchor name⟩

/-! ## Tags -/

/-- Reads a `%`-escaped run of a URI as one character. -/
def scanUriEscapes (start : Mark) (context : String) : ScanM Char := do
  let bad := fun (problem : String) (m : Mark) =>
    Fault.mk ("while parsing a tag, " ++ problem) start problem m (some (context, start))
  let rec go : Nat → Nat → Nat → ScanM Nat
    | 0, _, code => pure code
    | n + 1, width, code => do
      let s ← get
      if !(s.peekAt 0 == '%' && isHex (s.peekAt 1) && isHex (s.peekAt 2)) then
        fail (bad "did not find URI escaped octet" s.mark)
      let octet := hexValue (s.peekAt 1) * 16 + hexValue (s.peekAt 2)
      let (width, code) ← if width == 0 then
          let w := if octet &&& 0x80 == 0 then 1 else if octet &&& 0xE0 == 0xC0 then 2
            else if octet &&& 0xF0 == 0xE0 then 3 else if octet &&& 0xF8 == 0xF0 then 4 else 0
          if w == 0 then fail (bad "found an incorrect leading UTF-8 octet" s.mark)
          pure (w, octet)
        else
          if octet &&& 0xC0 != 0x80 then fail (bad "found an incorrect trailing UTF-8 octet" s.mark)
          pure (width, code * 256 + octet)
      skipN 3
      if width - 1 == 0 then return code
      go n (width - 1) code
  let code ← go (← get).left 0 0
  if code ≥ 0xD800 && code ≤ 0xDFFF || code > 0x10FFFF then
    fail (bad "found an invalid UTF-8 codepoint" (← curMark))
  return Char.ofNat code

/-- Reads a tag handle: `!`, `!!` or `!name!`. In a directive the handle must end in `!`. -/
def scanTagHandle (directive : Bool) (start : Mark) : ScanM String := do
  let context := if directive then "while scanning a tag directive" else "while scanning a tag"
  if (← cur) != '!' then
    fail ⟨"while scanning a tag, did not find expected '!'", start, "did not find expected '!'",
      (← curMark), some (context, start)⟩
  skipNonBlank
  let rec go : Nat → String → ScanM String
    | 0, acc => pure acc
    | n + 1, acc => do
      let c ← cur
      if isAlpha c then skipNonBlank; go n (acc.push c) else pure acc
  let handle ← go (← get).left "!"
  if (← cur) == '!' then
    skipNonBlank
    return handle.push '!'
  if directive && handle != "!" then
    fail ⟨"while parsing a tag directive, did not find expected '!'", start,
      "did not find expected '!'", (← curMark), some (context, start)⟩
  return handle

/-- Reads the characters of a tag after its handle; `head` is a handle read that turned out
to start the suffix. -/
def scanTagSuffix (uri : Bool) (head : String) (start : Mark) (context : String) : ScanM String := do
  let rec go : Nat → String → Nat → ScanM (String × Nat)
    | 0, acc, len => pure (acc, len)
    | n + 1, acc, len => do
      let c ← cur
      if !(if uri then isUriChar c else isTagChar c) then return (acc, len)
      if c == '%' then
        let e ← scanUriEscapes start context
        go n (acc.push e) (len + 1)
      else skipNonBlank; go n (acc.push c) (len + 1)
  let (suffix, len) ← go (← get).left (String.ofList (head.toList.drop 1)) head.length
  if len == 0 then
    fail ⟨"while parsing a tag, did not find expected tag URI", start,
      "did not find expected tag URI", (← curMark), some (context, start)⟩
  return suffix

/-- Scans a tag: verbatim `!<uri>`, or a handle and a suffix. -/
def scanTag : ScanM Token := do
  let start ← curMark
  let context := "while scanning a tag"
  let (handle, suffix) ← if (← look 1) == '<' then do
      skipN 2
      let suffix ← scanTagSuffix true "" start context
      if (← cur) != '>' then
        fail ⟨"while scanning a verbatim tag, did not find the expected '>'", start,
          "did not find the expected '>'", (← curMark), some (context, start)⟩
      skipNonBlank
      pure ("", suffix)
    else do
      let handle ← scanTagHandle false start
      if handle.length ≥ 2 && handle.startsWith "!" && handle.endsWith "!" then
        let suffix ← scanTagSuffix false "" start context
        pure (handle, suffix)
      else
        let suffix ← scanTagSuffix false handle start context
        if suffix.isEmpty then pure ("", "!") else pure ("!", suffix)
  let s ← get
  let c := s.peekAt 0
  if isBlankZ c || (s.flowLevel > 0 && isFlow c) then return ⟨start, .tag handle suffix⟩
  fail ⟨"while scanning a tag, did not find expected whitespace or line break", start,
    "did not find expected whitespace or line break", s.mark, some (context, start)⟩

/-! ## Directives -/

/-- Reads a number of a `%YAML` directive, of at most nine digits. -/
def scanVersionNumber (start : Mark) : ScanM Nat := do
  let context := "while scanning a %YAML directive"
  let rec go : Nat → Nat → Nat → ScanM (Nat × Nat)
    | 0, v, len => pure (v, len)
    | n + 1, v, len => do
      let c ← cur
      if !isDigit c then return (v, len)
      if len + 1 > 9 then
        fail ⟨"while scanning a YAML directive, found extremely long version number", start,
          "found extremely long version number", (← curMark), some (context, start)⟩
      skipNonBlank
      go n (v * 10 + (c.toNat - '0'.toNat)) (len + 1)
  let (v, len) ← go (← get).left 0 0
  if len == 0 then
    fail ⟨"while scanning a YAML directive, did not find expected version number", start,
      "did not find expected version number", (← curMark), some (context, start)⟩
  return v

/-- Passes over blanks. -/
def skipBlanks : ScanM Unit := do
  let rec go : Nat → ScanM Unit
    | 0 => pure ()
    | n + 1 => do if isBlank (← cur) then skipBlank; go n
  go (← get).left

/-- Scans a directive: `%YAML major.minor`, `%TAG handle prefix`, or another name, whose line
the modern reader passes over. -/
def scanDirective : ScanM Token := do
  let start ← curMark
  skipNonBlank
  let context := "while scanning a directive"
  let rec name : Nat → String → ScanM String
    | 0, acc => pure acc
    | n + 1, acc => do
      let c ← cur
      if isAlpha c then skipNonBlank; name n (acc.push c) else pure acc
  let n ← name (← get).left ""
  if n.isEmpty then
    fail ⟨context ++ ", could not find expected directive name", start,
      "could not find expected directive name", (← curMark), some (context, start)⟩
  if !isBlankZ (← cur) then
    fail ⟨context ++ ", found unexpected non-alphabetical character", start,
      "found unexpected non-alphabetical character", (← curMark), some (context, start)⟩
  let tok ← if n == "YAML" then do
      skipBlanks
      let major ← scanVersionNumber start
      if (← cur) != '.' then
        fail ⟨"while scanning a YAML directive, did not find expected digit or '.' character", start,
          "did not find expected digit or '.' character", (← curMark),
          some ("while scanning a %YAML directive", start)⟩
      skipNonBlank
      let minor ← scanVersionNumber start
      pure (⟨start, .versionDirective major minor⟩ : Token)
    else if n == "TAG" then do
      skipBlanks
      let handle ← scanTagHandle true start
      skipBlanks
      let stem ← scanTagSuffix true "" start "while scanning a %TAG directive"
      if !isBlankZ (← cur) then
        fail ⟨"while scanning TAG, did not find expected whitespace or line break", start,
          "did not find expected whitespace or line break", (← curMark),
          some ("while scanning a %TAG directive", start)⟩
      pure ⟨start, .tagDirective handle stem⟩
    else if (← get).flavor == .classic then
      fail ⟨context ++ ", found unknown directive name", start, "found unknown directive name",
        start, some (context, start)⟩
    else do
      skipComment
      pure ⟨start, .tagDirective "" ""⟩
  let _ ← skipWsToEol true
  if isBreakZ (← cur) then
    skipLinebreak
    return tok
  fail ⟨context ++ ", did not find expected comment or line break", start,
    "did not find expected comment or line break", (← curMark), some (context, start)⟩

end StateMetrics.Yaml
