import StateMetrics.Text.Base64
import StateMetrics.Text.Utf8
import StateMetrics.Text.Quoted
import StateMetrics.Text.Unicode

/-! # PEM: base64 blocks between BEGIN and END lines

Two readers of PEM text are used, and they differ in what they accept.

**Bundles** (`bundle`), used for certificate authorities, find blocks by their markers anywhere
in the bytes. A block is `-----BEGIN `, a label, `-----`, white space, the payload, `-----END `, a
label, `-----` and white space. Markers are matched byte by byte without going back: after a
mismatch the search goes on from the next byte, so `------BEGIN ` (six dashes) does not count as
a marker. Blocks are read until one is incomplete, and everything after that is ignored. In a
block, both labels must be present and equal. If the payload holds an empty line, the lines
before it are headers, each of the form `key: value`. The rest is the base64 data: its lines,
without the white space at their ends, joined. Every part must be UTF-8.

**Sections** (`sections`), used for a client's identity, are read line by line, a line ending at
a line feed or a carriage return. A line that starts with `-----BEGIN ` must end in exactly five
dashes (blanks and line ends aside); it opens a section whose type stands between. Inside a
section, lines without their trailing blanks and line ends gather base64 data until the line
that starts with `-----END ` and the type. Certificates, private keys of the three kinds, and
revocation lists are kept; sections of other types are dropped. An open section at the end of
the text is an error. -/

namespace StateMetrics.Tls.Pem

open Text

/-- The bytes of an ASCII text. -/
def ascii (s : String) : List UInt8 := Utf8.bytesOf s

/-- Searches for a marker, matching byte by byte without going back: `left` is the number of
bytes from the current one on, `found` the number of marker bytes matched so far, and `seen` the
bytes passed, last first. Returns the bytes before the marker and those after it. -/
def scanMarker (marker : List UInt8) (left found : Nat) (seen : List UInt8) :
    List UInt8 → Option (List UInt8 × List UInt8)
  | [] => none
  | c :: rest =>
    if left < marker.length - found then none
    else
      let found := if marker[found]? == some c then found + 1 else 0
      if found == marker.length then some (((c :: seen).drop found).reverse, rest)
      else scanMarker marker (left - 1) found (c :: seen) rest

/-- The bytes before the first marker and those after it. -/
def readUntil (marker input : List UInt8) : Option (List UInt8 × List UInt8) :=
  scanMarker marker input.length 0 [] input

/-- Drops blanks, tabs and line ends at the front. -/
def skipBlank (bs : List UInt8) : List UInt8 :=
  bs.dropWhile fun b => b == 32 || b == 9 || b == 10 || b == 13

/-- The parts of a block as they stand in the bytes. -/
structure Captures where
  label : List UInt8
  headers : List UInt8
  data : List UInt8
  endLabel : List UInt8
  deriving Inhabited

/-- Finds the next block: its parts and the bytes after it. -/
def capture (input : List UInt8) : Option (Captures × List UInt8) := do
  let (_, input) ← readUntil (ascii "-----BEGIN ") input
  let (label, input) ← readUntil (ascii "-----") input
  let (payload, input) ← readUntil (ascii "-----END ") (skipBlank input)
  let (headers, data) := match readUntil [10, 10] payload with
    | some parts => parts
    | none => match readUntil [13, 10, 13, 10] payload with
      | some parts => parts
      | none => ([], payload)
  let (endLabel, input) ← readUntil (ascii "-----") input
  pure (⟨label, headers, data, endLabel⟩, skipBlank input)

/-- The blocks of some bytes, up to the first incomplete one; `fuel` bounds their number. -/
def capturesFuel : Nat → List UInt8 → List Captures
  | 0, _ => []
  | _ + 1, [] => []
  | fuel + 1, input =>
    match capture input with
    | some (c, rest) => c :: capturesFuel fuel rest
    | none => []

/-- The blocks of some bytes, up to the first incomplete one. Each block takes at least one
byte, so there are no more blocks than bytes. -/
def captures (input : List UInt8) : List Captures := capturesFuel input.length input

/-- Why a bundle is not PEM. -/
inductive Fault where
  | mismatchedTags (label endLabel : String)
  | missingBeginTag
  | missingEndTag
  | invalidData (cause : Base64.Fault)
  | invalidHeader (line : String)
  | notUtf8 (cause : Utf8.Fault)
  deriving Repr, Inhabited

/-- The message of a fault followed by its causes. -/
def Fault.chain : Fault → List String
  | .mismatchedTags a b => ["mismatching BEGIN (\"" ++ a ++ "\") and END (\"" ++ b ++ "\") tags"]
  | .missingBeginTag => ["missing BEGIN tag"]
  | .missingEndTag => ["missing END tag"]
  | .invalidData f => ["invalid data: " ++ f.message, f.message]
  | .invalidHeader line => ["invalid header: " ++ line]
  | .notUtf8 f => ["invalid utf-8 value: " ++ f.message, f.message]

/-- Bytes as text, or the fault. -/
def text (bs : List UInt8) : Except Fault String := (Utf8.decode bs).mapError .notUtf8

/-- The lines of a text: split at line feeds, each without a carriage return before its line
feed, and without an empty last line. -/
def lines (s : String) : List String :=
  let parts := s.splitOn "\n"
  let ended := parts.dropLast.map fun l => if l.endsWith "\r" then l.dropEnd 1 |>.toString else l
  match parts.getLast? with
  | some last => if last.isEmpty then ended else ended ++ [last]
  | none => ended

/-- A text without the white space at its end. -/
def trimEnd (s : String) : String :=
  String.ofList (s.toList.reverse.dropWhile Unicode.isWhitespace).reverse

/-- The label and contents of a block. -/
def Captures.block (c : Captures) : Except Fault (String × List UInt8) := do
  let label ← text c.label
  if label.isEmpty then throw .missingBeginTag
  let endLabel ← text c.endLabel
  if endLabel.isEmpty then throw .missingEndTag
  if label != endLabel then throw (.mismatchedTags label endLabel)
  let raw ← text c.data
  let data := String.join ((lines raw).map trimEnd)
  let contents ← (Base64.decode (ascii data)).mapError .invalidData
  let headers ← text c.headers
  match (lines headers).find? fun l => !l.contains ':' with
  | some l => throw (.invalidHeader l)
  | none => pure (label, contents)

/-- The blocks of a bundle, with their labels and contents. -/
def bundle (input : List UInt8) : Except Fault (List (String × List UInt8)) :=
  (captures input).mapM Captures.block

/-! ## Sections -/

/-- What a section holds. -/
inductive Item where
  | certificate (der : List UInt8)
  | rsaKey (der : List UInt8)
  | pkcs8Key (der : List UInt8)
  | ecKey (der : List UInt8)
  | crl (der : List UInt8)
  deriving Repr, Inhabited

/-- The item a section of a type holds, if the type is kept. -/
def itemOf (type : List UInt8) (der : List UInt8) : Option Item :=
  if type == ascii "CERTIFICATE" then some (.certificate der)
  else if type == ascii "RSA PRIVATE KEY" then some (.rsaKey der)
  else if type == ascii "PRIVATE KEY" then some (.pkcs8Key der)
  else if type == ascii "EC PRIVATE KEY" then some (.ecKey der)
  else if type == ascii "X509 CRL" then some (.crl der)
  else none

/-- Splits bytes into lines, each ending at a line feed or a carriage return, which it keeps;
`current` is the line so far, last byte first. -/
def splitLines (current : List UInt8) : List UInt8 → List (List UInt8)
  | [] => if current.isEmpty then [] else [current.reverse]
  | b :: rest =>
    if b == 10 || b == 13 then (b :: current).reverse :: splitLines [] rest
    else splitLines (b :: current) rest

/-- Whether a byte is a blank or a line end. -/
def isLineSpace (b : UInt8) : Bool := b == 10 || b == 13 || b == 32

/-- A line without its trailing blanks and line ends. -/
def trimLine (line : List UInt8) : List UInt8 :=
  (line.reverse.dropWhile isLineSpace).reverse

/-- The dashes at the end of a BEGIN line, blanks and line ends aside, and the type before
them. -/
def trailer (line : List UInt8) : Nat × List UInt8 :=
  let step := fun (st : Nat × Nat × Bool) (ib : Nat × UInt8) =>
    let (count, pos, stopped) := st
    let (i, b) := ib
    if stopped then st
    else if b == 45 then (count + 1, i, false)
    else if isLineSpace b then st
    else (count, pos, true)
  let indexed := (List.range line.length).zip line
  let (count, pos, _) := indexed.reverse.foldl step (0, line.length, false)
  (count, (line.take pos).drop 11)

/-- The state of the section reader: the open section's type and end marker, and the base64
data gathered. -/
structure Reader where
  current? : Option (List UInt8 × List UInt8) := none
  data : List UInt8 := []
  items : List Item := []
  deriving Inhabited

/-- Reads one line. -/
def readLine (r : Reader) (line : List UInt8) : Except String Reader := do
  if (ascii "-----BEGIN ").isPrefixOf line then
    let (count, type) := trailer line
    if count != 5 then throw ("illegal section start: " ++ quoted (Utf8.lossy line))
    return { r with current? := some (type, ascii "-----END " ++ type ++ ascii "-----") }
  let r ← match r.current? with
    | some (type, endMarker) =>
      if endMarker.isPrefixOf line then do
        let der ← (Base64.decode r.data).mapError Base64.Fault.message
        match itemOf type der with
        | some item => pure { items := r.items ++ [item] }
        | none => pure { r with current? := none, data := [] }
      else pure r
    | none => pure r
  if r.current?.isSome then pure { r with data := r.data ++ trimLine line } else pure r

/-- The items of the sections of some bytes, or the message of why they are not PEM. -/
def sections (input : List UInt8) : Except String (List Item) := do
  let r ← (splitLines [] input).foldlM readLine {}
  match r.current? with
  | some (_, endMarker) => throw ("section end " ++ quoted (Utf8.lossy endMarker) ++ " missing")
  | none => pure r.items

end StateMetrics.Tls.Pem
