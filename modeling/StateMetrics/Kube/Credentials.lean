import StateMetrics.Kube.Kubeconfig
import StateMetrics.Kube.Timestamp
import StateMetrics.Tls.Der

/-! # Credentials of a cluster client

A client is made from the cluster and the user that the current context names.

**Data.** Certificates and keys are given inline in base64 or as a file; inline data wins. A
line feed is added to data that does not end in one.

**Certificate authority.** When the cluster names one, its data must load and be a PEM bundle;
its `CERTIFICATE` blocks are the roots of trust, each of which must have the shape of an X.509
certificate (`Tls.Der.isTrustAnchor`).

**Identity.** When both the user's client certificate and key load (a failure to load either
means there is no identity, silently), the key followed by the certificate is read as PEM
sections. A revocation list among them is refused; otherwise there must be a private key (the
last of each kind, a PKCS #8 key before an RSA key before an EC key) and a certificate, and the
key must be one that can sign (`Tls.Der.isSigningKey`).

**Authentication.** The first of these the user has decides: an auth provider, a user name with
a password, a token, a token file, or an exec plugin.

* The `oidc` provider needs an `id-token`. The `gcp` provider takes an `id-token`, or an
  `access-token` whose `expiry` lies more than a minute ahead (an expiry that is not a timestamp
  fails); otherwise it would run `cmd-path`, or else use application credentials, which are not
  available. Other providers are not supported.
* A token file must be readable. An exec plugin needs a command, which cannot be run here.

The transport (certificate authority and identity) is checked before authentication. -/

namespace StateMetrics.Kube

open Yaml Text Tls

/-- Data given inline in base64 or in a file, with a line feed added when it does not end in
one; none when neither is given. Inline data wins. -/
def loadData (files : Config.Files) (inline file : Option String) :
    Option (Except LoadError (List UInt8)) :=
  let ensureNewline := fun (bs : List UInt8) =>
    match bs.getLast? with
    | some b => if b == 10 then bs else bs ++ [10]
    | none => bs
  match inline, file with
  | some data, _ => some ((Base64.decode (Utf8.bytesOf data)).mapError .decodeBase64 |>.map ensureNewline)
  | none, some path =>
    match Config.fileAt? files path with
    | some text => some (.ok (ensureNewline (Utf8.bytesOf text)))
    | none => some (.error (.readFile path))
  | none, none => none

/-- The roots of trust a cluster names: the contents of the `CERTIFICATE` blocks of its
certificate authority, or none when it names no authority. -/
def certificateAuthority (files : Config.Files) (cluster : Datum) :
    Except KubeconfigError (Option (List (List UInt8))) :=
  match loadData files (textMember? cluster "certificate-authority-data")
      (textMember? cluster "certificate-authority") with
  | none => .ok none
  | some (.error e) => .error (.loadCertificateAuthority e)
  | some (.ok bytes) =>
    match Pem.bundle bytes with
    | .error f => .error (.parseCertificates f)
    | .ok blocks => .ok (some ((blocks.filter (·.1 == "CERTIFICATE")).map (·.2)))

/-- A user's identity: the client key followed by the client certificate, when both load. -/
def identityOf (files : Config.Files) (user : Datum) : Option (List UInt8) :=
  match loadData files (textMember? user "client-certificate-data") (textMember? user "client-certificate"),
    loadData files (textMember? user "client-key-data") (textMember? user "client-key") with
  | some (.ok cert), some (.ok key) => some (key ++ cert)
  | _, _ => none

/-- Why a user could not be authenticated. -/
inductive AuthError where
  /-- An auth provider or plugin gave no token. -/
  | exec (message : String)
  /-- The token file could not be read. -/
  | readTokenFile (path : String)
  /-- A cached token's expiry is not a timestamp. -/
  | malformedExpiry (message : String)
  /-- An exec plugin without a command. -/
  | missingCommand
  /-- An exec plugin whose command could not be started. -/
  | execStart
  deriving Repr, Inhabited

/-- The message of an authentication error followed by its causes. -/
def AuthError.chain : AuthError → List String
  | .exec m => ["failed exec auth: " ++ m]
  | .readTokenFile p => ["failed to read token file '" ++ quoted p ++ "': " ++ notFound, notFound]
  | .malformedExpiry m => ["malformed token expiration date: " ++ m, m]
  | .missingCommand => ["command must be specified to use exec authentication plugin"]
  | .execStart => ["unable to run auth exec: " ++ notFound, notFound]

/-- Why no client could be made from a configuration. -/
inductive BuildError where
  /-- A root of trust is not a certificate. -/
  | rootCertificate
  /-- The identity is not PEM. -/
  | identityInvalid (message : String)
  | missingPrivateKey
  | missingCertificate
  | unknownKeyFormat
  | invalidPrivateKey
  | auth (e : AuthError)
  deriving Repr, Inhabited

/-- The message of a transport error followed by its causes. -/
def BuildError.tlsChain : BuildError → List String
  | .rootCertificate =>
    ["failed to add a root certificate: invalid peer certificate: BadEncoding",
      "invalid peer certificate: BadEncoding"]
  | .identityInvalid m => ["identity PEM is invalid: " ++ m, m]
  | .missingPrivateKey =>
    ["identity PEM is missing a private key: the key must be PKCS8 or RSA/PKCS1"]
  | .missingCertificate => ["identity PEM is missing certificate"]
  | .unknownKeyFormat => ["unknown private key format"]
  | .invalidPrivateKey =>
    ["invalid private key: unexpected error: invalid private key",
      "unexpected error: invalid private key"]
  | .auth _ => []

/-- The message of a client error followed by its causes. -/
def BuildError.chain : BuildError → List String
  | .auth e => match e.chain with
    | [] => []
    | m :: rest => ("auth error: " ++ m) :: m :: rest
  | e => match e.tlsChain with
    | [] => []
    | m :: rest => ("rustls tls error: " ++ m) :: m :: rest

/-- The items of an identity sorted by kind: the certificates and the last key of each kind. -/
structure IdentityParts where
  certificates : Nat := 0
  pkcs8 : Option (List UInt8) := none
  rsa : Option (List UInt8) := none
  ec : Option (List UInt8) := none
  deriving Inhabited

/-- Sorts one item of an identity; a revocation list is refused. -/
def IdentityParts.add (p : IdentityParts) : Pem.Item → Except BuildError IdentityParts
  | .certificate _ => .ok { p with certificates := p.certificates + 1 }
  | .pkcs8Key k => .ok { p with pkcs8 := some k }
  | .rsaKey k => .ok { p with rsa := some k }
  | .ecKey k => .ok { p with ec := some k }
  | .crl _ => .error .unknownKeyFormat

/-- Checks the transport: the roots of trust, then the identity. -/
def checkTransport (roots : Option (List (List UInt8))) (identity : Option (List UInt8)) :
    Except BuildError Unit := do
  match roots with
  | some certs => if certs.any (!Der.isTrustAnchor ·) then throw .rootCertificate
  | none => pure ()
  match identity with
  | none => pure ()
  | some pem =>
    let items ← (Pem.sections pem).mapError .identityInvalid
    let parts ← items.foldlM IdentityParts.add {}
    let key ← match (parts.pkcs8.or parts.rsa).or parts.ec with
      | some k => pure k
      | none => throw .missingPrivateKey
    if parts.certificates == 0 then throw .missingCertificate
    if !Der.isSigningKey key then throw .invalidPrivateKey

/-- The instant, in seconds since 1970, against which cached tokens are judged. -/
def referenceSeconds : Int := daysFromCivil 2026 11 13 * 86400

/-- Whether a cached token's expiry lies more than a minute ahead, or the failure of reading
it. -/
def expiryAhead (expiry : String) : Except AuthError Bool :=
  match Timestamp.parse expiry with
  | .error e => .error (.malformedExpiry e.message)
  | .ok t => .ok (referenceSeconds + 60 < t.utcMinutes * 60 + t.second)

/-- The error of running a command that does not exist. -/
def commandNotFound : String :=
  "Os \x7b code: 2, kind: NotFound, message: \"No such file or directory\" \x7d"

/-- Checks the `gcp` auth provider's configuration. -/
def checkGcp (config : Datum) : Except AuthError Unit := do
  if (textMember? config "id-token").isSome then return
  match textMember? config "access-token", textMember? config "expiry" with
  | some _, some expiry => if ← expiryAhead expiry then return
  | _, _ => pure ()
  match textMember? config "cmd-path" with
  | some cmd => throw (.exec ("Executing " ++ cmd ++ " failed: " ++ commandNotFound))
  | none =>
    throw (.exec "Enable oauth feature to use Google Application Credentials-based token source")

/-- Checks an auth provider. -/
def checkProvider (provider : Datum) : Except AuthError Unit :=
  let config := (member? provider "config").getD (.map [])
  match (textMember? provider "name").getD "" with
  | "oidc" =>
    if (textMember? config "id-token").isSome then .ok ()
    else .error (.exec "No id-token for oidc Authentication provider")
  | "gcp" => checkGcp config
  | "azure" =>
    .error (.exec "The azure auth plugin is not supported; use https://github.com/Azure/kubelogin instead")
  | name => .error (.exec ("Authentication with provider " ++ name ++ " not supported"))

/-- Checks that a user can be authenticated. -/
def checkAuth (files : Config.Files) (user : Datum) : Except AuthError Unit :=
  match member? user "auth-provider" with
  | some provider@(.map _) => checkProvider provider
  | _ =>
    if (textMember? user "username").isSome && (textMember? user "password").isSome then .ok ()
    else if (textMember? user "token").isSome then .ok ()
    else
      match textMember? user "tokenFile" with
      | some path => if (Config.fileAt? files path).isSome then .ok () else .error (.readTokenFile path)
      | none =>
        match member? user "exec" with
        | some exec@(.map _) =>
          if (textMember? exec "command").isSome then .error .execStart else .error .missingCommand
        | _ => .ok ()

end StateMetrics.Kube
