/-! # DER elements and trust anchors

A DER element is a tag byte, a length and that many bytes of contents. Tags with the high tag
number form (low five bits all set) are refused. A length below 128 is one byte; a longer one is
`0x81` and one byte of at least 128, or `0x82` and two bytes of at least 256, so that every
length has one encoding. Longer length forms would describe more bytes than a certificate here
holds, so they are refused as well.

A certificate is accepted as a root of trust when it has the shape of an X.509 certificate:

* a sequence of the signed part, the signature algorithm and the signature, a bit string
  without unused bits, with nothing after it;
* a version 3 signed part: the version `[0] { 2 }`, a serial number, the signature algorithm
  again (the same bytes as the outer one), issuer, validity, subject and public key, and
  optionally `[3]` holding a sequence of one or more extensions;
* or a version 1 signed part, without a version, extensions or the algorithm check.

A serial number is a positive integer, minimally encoded, of at most 20 bytes after a leading
zero is dropped. An extension is an identifier, an optional boolean telling whether it is
critical, and an octet string. Extensions under `2.5.29` that are understood (key usage, subject
alternative name, basic constraints, name constraints and extended key usage) may occur once
each, and all but key usage hold a single sequence; any other extension is refused only when it
is critical. -/

namespace StateMetrics.Tls.Der

/-- The tag of a sequence. -/
def sequence : UInt8 := 0x30
/-- The tag of an integer. -/
def integer : UInt8 := 0x02
/-- The tag of a bit string. -/
def bitString : UInt8 := 0x03
/-- The tag of an octet string. -/
def octetString : UInt8 := 0x04
/-- The tag of an object identifier. -/
def objectId : UInt8 := 0x06
/-- The tag of a boolean. -/
def boolean : UInt8 := 0x01

/-- Reads a length after its first byte: the length and the bytes after it. -/
def readLength (first : UInt8) (rest : List UInt8) : Option (Nat × List UInt8) :=
  if first < 0x80 then some (first.toNat, rest)
  else if first == 0x81 then
    match rest with
    | b :: more => if b < 0x80 then none else some (b.toNat, more)
    | [] => none
  else if first == 0x82 then
    match rest with
    | a :: b :: more =>
      let n := a.toNat * 256 + b.toNat
      if n < 256 then none else some (n, more)
    | _ => none
  else none

/-- Reads one element: its tag, its contents and the bytes after it. -/
def readElement (bs : List UInt8) : Option (UInt8 × List UInt8 × List UInt8) :=
  match bs with
  | tag :: first :: rest =>
    if tag &&& 0x1F == 0x1F then none
    else
      match readLength first rest with
      | some (n, more) => if more.length < n then none else some (tag, more.take n, more.drop n)
      | none => none
  | _ => none

/-- Reads one element with a given tag: its contents and the bytes after it. -/
def expect (tag : UInt8) (bs : List UInt8) : Option (List UInt8 × List UInt8) :=
  match readElement bs with
  | some (t, body, rest) => if t == tag then some (body, rest) else none
  | none => none

/-- Reads a certificate's serial number, a positive integer of at most 20 bytes. -/
def serialNumber (bs : List UInt8) : Option (List UInt8) := do
  let (v, rest) ← expect integer bs
  let digits ← match v with
    | [] | [0] => none
    | 0 :: b :: more => if b < 0x80 then none else some (b :: more)
    | b :: more => if 0x80 ≤ b then none else some (b :: more)
  if digits.length > 20 then none else some rest

/-- Reads an optional boolean, which must be `0x00` or `0xFF` when present. -/
def optionalBoolean (bs : List UInt8) : Option (Bool × List UInt8) :=
  match bs with
  | t :: _ =>
    if t != boolean then some (false, bs)
    else
      match expect boolean bs with
      | some ([0xFF], rest) => some (true, rest)
      | some ([0x00], rest) => some (false, rest)
      | _ => none
  | [] => some (false, bs)

/-- The extensions that are understood, by the last byte of their identifier under `2.5.29`. -/
def knownExtensions : List Nat := [15, 17, 19, 30, 37]

/-- Checks one extension, given the understood extensions seen so far; returns them with this
one added. -/
def checkExtension (seen : List Nat) (ext : List UInt8) : Option (List Nat) := do
  let (id, rest) ← expect objectId ext
  let (critical, rest) ← optionalBoolean rest
  let (value, rest) ← expect octetString rest
  if !rest.isEmpty then none
  let unsupported := if critical then none else some seen
  match id with
  | [0x55, 0x1D, last] =>
    let n := last.toNat
    if !knownExtensions.contains n then unsupported
    else if seen.contains n then none
    else if n == 15 then some (n :: seen)
    else
      match expect sequence value with
      | some (_, []) => some (n :: seen)
      | _ => none
  | _ => unsupported

/-- Checks a run of extensions, each a sequence, given those seen so far. -/
def checkExtensions (seen : List Nat) (bs : List UInt8) : Option Unit :=
  if bs.isEmpty then some ()
  else
    match expect sequence bs with
    | some (ext, rest) =>
      match checkExtension seen ext with
      | some seen => if _h : rest.length < bs.length then checkExtensions seen rest else none
      | none => none
    | none => none
termination_by bs.length

/-- Checks the `[3]` element of a version 3 certificate: a sequence of one or more
extensions. -/
def extensionsPart (bs : List UInt8) : Option Unit := do
  let (seq, rest) ← expect sequence bs
  if !rest.isEmpty || seq.isEmpty then none
  checkExtensions [] seq

/-- Skips the sequences of issuer, validity, subject and public key. -/
def namesAndKey (bs : List UInt8) : Option (List UInt8) := do
  let (_, r) ← expect sequence bs
  let (_, r) ← expect sequence r
  let (_, r) ← expect sequence r
  let (_, r) ← expect sequence r
  pure r

/-- Whether a signed part is that of a version 3 certificate signed with `algorithm`. -/
def isVersion3 (algorithm tbs : List UInt8) : Bool :=
  (do
    let (v, r) ← expect 0xA0 tbs
    if v != [0x02, 0x01, 0x02] then none
    let r ← serialNumber r
    let (alg, r) ← expect sequence r
    if alg != algorithm then none
    let r ← namesAndKey r
    if r.isEmpty then pure ()
    else
      let (exts, r) ← expect 0xA3 r
      if !r.isEmpty then none
      extensionsPart exts : Option Unit).isSome

/-- Whether a signed part is that of a version 1 certificate. -/
def isVersion1 (tbs : List UInt8) : Bool :=
  (do
    let r ← serialNumber tbs
    let (_, r) ← expect sequence r
    let r ← namesAndKey r
    if r.isEmpty then pure () else none : Option Unit).isSome

/-- The signed part and the signature algorithm of a signed certificate. -/
def signedData (der : List UInt8) : Option (List UInt8 × List UInt8) := do
  let (cert, rest) ← expect sequence der
  if !rest.isEmpty then none
  let (tbs, r) ← expect sequence cert
  let (alg, r) ← expect sequence r
  let (sig, r) ← expect bitString r
  if sig.head? != some 0 || !r.isEmpty then none
  pure (tbs, alg)

/-- Whether DER bytes can serve as a root of trust. -/
def isTrustAnchor (der : List UInt8) : Bool :=
  match signedData der with
  | some (tbs, alg) => isVersion3 alg tbs || isVersion1 tbs
  | none => false

/-- The fixed bytes that start an Ed25519 private key in a PKCS #8 version 1 document, before
its 32-byte seed. -/
def ed25519Prefix : List UInt8 :=
  [0x30, 0x2E, 0x02, 0x01, 0x00, 0x30, 0x05, 0x06, 0x03, 0x2B, 0x65, 0x70, 0x04, 0x22, 0x04, 0x20]

/-- Whether DER bytes are a private key that can sign without further checks: an Ed25519 key in
a PKCS #8 version 1 document. Keys of other kinds are refused, as their parts cannot be checked
for consistency here. -/
def isSigningKey (der : List UInt8) : Bool :=
  der.length == 48 && der.take 16 == ed25519Prefix

end StateMetrics.Tls.Der
