import StateMetrics.Yaml.Datum
import StateMetrics.Config.Load
import StateMetrics.Tls.Pem

/-! # Kubeconfig files

A kubeconfig file holds YAML documents, each a record of clusters, users and contexts with a
current context. Each document is checked against the record's shape, as a deserializer would:
members are taken in order and unknown members are ignored, a member of the wrong type fails
with what was found and what was expected, and a missing required member fails after all
members were read. The documents are then merged: the first document's scalars win, and lists
gain the entries whose names they lack. Relative paths of files the kubeconfig names are taken
from the kubeconfig file's directory. -/

namespace StateMetrics.Kube

open Yaml Text

/-- The shapes a kubeconfig member may have. -/
inductive Shape where
  | text
  | flag
  | anything
  | textMap
  | choice (name : String) (variants : List String)
  | list (item : Shape)
  | optional (inner : Shape)
  | record (name : String) (fields : List (String × Shape × Bool))
  deriving Repr, Inhabited

/-- How a datum is named when it is not what was expected. -/
def Datum.unexpected : Datum → String
  | .null => "unit value"
  | .bool b => "boolean \x60" ++ (if b then "true" else "false") ++ "\x60"
  | .unsigned n => "integer \x60" ++ toString n ++ "\x60"
  | .signed i => "integer \x60" ++ toString i ++ "\x60"
  | .float f => "floating point \x60" ++ Float.pointedText f ++ "\x60"
  | .string s => "string " ++ quoted s
  | .seq _ => "sequence"
  | .map _ => "map"
  | .tagged _ _ => "enum"

/-- What a shape is called when a datum does not fit it. -/
def Shape.expected : Shape → String
  | .text => "a string"
  | .flag => "a boolean"
  | .anything => "any value"
  | .textMap => "a map"
  | .choice name _ => "enum " ++ name
  | .list _ => "a sequence"
  | .optional s => s.expected
  | .record name _ => "struct " ++ name

/-- The failure of a datum that does not fit a shape. -/
def invalidType (d : Datum) (expected : String) : Except String Unit :=
  .error ("invalid type: " ++ Datum.unexpected d ++ ", expected " ++ expected)

/-- Checks a text, under any tags. -/
def fitText (d : Datum) : Except String Unit :=
  match d.untag with
  | .string _ => .ok ()
  | u => invalidType u "a string"

mutual

/-- Checks that a datum fits a shape. Null reads as an empty list, map or record. A tagged
datum fits as its value does, except where any value is allowed: there a tag anywhere is
refused. -/
def fitShape (s : Shape) (d : Datum) : Except String Unit :=
  match s, d with
  | .anything, d => if d.hasTag then invalidType d "any valid JSON value" else .ok ()
  | .optional _, .null => .ok ()
  | .optional inner, d => fitShape inner d
  | s, .tagged _ v => fitShape s v
  | .text, d => fitText d
  | .flag, .bool _ => .ok ()
  | .flag, d => invalidType d "a boolean"
  | .textMap, .null => .ok ()
  | .textMap, .map es => fitTextEntries es
  | .textMap, d => invalidType d "a map"
  | .choice _ vs, .string v =>
    if vs.contains v then .ok ()
    else .error ("unknown variant \x60" ++ v ++ "\x60, expected one of " ++
      ", ".intercalate (vs.map fun x => "\x60" ++ x ++ "\x60"))
  | .choice name _, d => invalidType d ("enum " ++ name)
  | .list _, .null => .ok ()
  | .list item, .seq items => fitItems item items
  | .list _, d => invalidType d "a sequence"
  | .record _ fields, .null => fitMissing fields []
  | .record _ fields, .map es => do
    let seen ← fitMembers fields es []
    fitMissing fields seen
  | .record name _, d => invalidType d ("struct " ++ name)

/-- Checks the items of a list. -/
def fitItems (item : Shape) : List Datum → Except String Unit
  | [] => .ok ()
  | d :: rest => do fitShape item d; fitItems item rest

/-- Checks the entries of a map of texts. -/
def fitTextEntries : List (Datum × Datum) → Except String Unit
  | [] => .ok ()
  | (k, v) :: rest => do fitText k; fitText v; fitTextEntries rest

/-- Checks the members of a record in order, returning the names seen. Keys must be texts;
unknown members are ignored. -/
def fitMembers (fields : List (String × Shape × Bool)) :
    List (Datum × Datum) → List String → Except String (List String)
  | [], seen => .ok seen
  | (k, v) :: rest, seen => do
    match k.untag with
    | .string name =>
      match fields.find? (·.1 == name) with
      | some (_, shape, _) =>
        if seen.contains name then .error ("duplicate field \x60" ++ name ++ "\x60")
        fitShape shape v
        fitMembers fields rest (name :: seen)
      | none => fitMembers fields rest seen
    | _ => do
      invalidType k "field identifier"
      fitMembers fields rest seen

/-- Fails on the first required member that was not seen. -/
def fitMissing : List (String × Shape × Bool) → List String → Except String Unit
  | [], _ => .ok ()
  | (name, _, required) :: rest, seen =>
    if required && !seen.contains name then .error ("missing field \x60" ++ name ++ "\x60")
    else fitMissing rest seen

end

/-- An optional text member. -/
def optText (name : String) : String × Shape × Bool := (name, .optional .text, false)

/-- The extensions member. -/
def extensionsField : String × Shape × Bool :=
  ("extensions", .optional (.list (.record "NamedExtension"
    [("name", .text, true), ("extension", .anything, true)])), false)

/-- The shape of a cluster. -/
def clusterShape : Shape :=
  .record "Cluster" [optText "server", ("insecure-skip-tls-verify", .optional .flag, false),
    optText "certificate-authority", optText "certificate-authority-data", optText "proxy-url",
    optText "tls-server-name", extensionsField]

/-- The shape of a user's credentials. -/
def authInfoShape : Shape :=
  .record "AuthInfo" [optText "username", optText "password", optText "token", optText "tokenFile",
    optText "client-certificate", optText "client-certificate-data", optText "client-key",
    optText "client-key-data", optText "as", ("as-groups", .optional (.list .text), false),
    ("auth-provider", .optional (.record "AuthProviderConfig"
      [("name", .text, true), ("config", .textMap, true)]), false),
    ("exec", .optional (.record "ExecConfig" [optText "apiVersion",
      ("args", .optional (.list .text), false), optText "command",
      ("env", .optional (.list .textMap), false),
      ("interactiveMode", .optional (.choice "ExecInteractiveMode" ["Never", "IfAvailable", "Always"]), false),
      ("provideClusterInfo", .flag, false)]), false)]

/-- The shape of a context. -/
def contextShape : Shape :=
  .record "Context" [("cluster", .text, true), ("user", .text, true), optText "namespace",
    extensionsField]

/-- The shape of a kubeconfig document. -/
def kubeconfigShape : Shape :=
  .record "Kubeconfig" [
    ("preferences", .optional (.record "Preferences"
      [("colors", .optional .flag, false), extensionsField]), false),
    ("clusters", .optional (.list (.record "NamedCluster"
      [("name", .text, true), ("cluster", .optional clusterShape, false)])), false),
    ("users", .optional (.list (.record "NamedAuthInfo"
      [("name", .text, true), ("user", .optional authInfoShape, false)])), false),
    ("contexts", .optional (.list (.record "NamedContext"
      [("name", .text, true), ("context", .optional contextShape, false)])), false),
    optText "current-context", extensionsField, optText "kind", optText "apiVersion"]

/-- The member of a map under a text key. -/
def member? (d : Datum) (key : String) : Option Datum :=
  match d with
  | .map es => (es.find? fun (k, _) => match k with
      | .string s => s == key
      | _ => false).map (·.2)
  | _ => none

/-- A text member, when it is a text. -/
def textMember? (d : Datum) (key : String) : Option String :=
  match member? d key with
  | some (.string s) => some s
  | _ => none

/-- The items of a list member. -/
def listMember (d : Datum) (key : String) : List Datum :=
  match member? d key with
  | some (.seq items) => items
  | _ => []

/-- A named entry: its name and its body, when it has one. -/
structure Named where
  name : String
  body : Option Datum
  deriving Inhabited

/-- The named entries of a list member, the body under `bodyKey`. -/
def namedEntries (d : Datum) (key bodyKey : String) : List Named :=
  (listMember d key).map fun e => ⟨(textMember? e "name").getD "", match member? e bodyKey with
    | some .null | none => none
    | some b => some b⟩

/-- A checked kubeconfig. -/
structure Kubeconfig where
  clusters : List Named := []
  users : List Named := []
  contexts : List Named := []
  currentContext : Option String := none
  kind : Option String := none
  apiVersion : Option String := none
  deriving Inhabited

/-- The kubeconfig of a checked document, read without its tags. -/
def Kubeconfig.ofDatum (tagged : Datum) : Kubeconfig :=
  let d := tagged.untagAll
  { clusters := namedEntries d "clusters" "cluster"
    users := namedEntries d "users" "user"
    contexts := namedEntries d "contexts" "context"
    currentContext := textMember? d "current-context"
    kind := textMember? d "kind"
    apiVersion := textMember? d "apiVersion" }

/-- Appends the entries whose names are new. -/
def appendNew (l more : List Named) : List Named :=
  more.foldl (fun acc n => if acc.any (·.name == n.name) then acc else acc ++ [n]) l

/-- The failure of reading a file that is not there. -/
def notFound : String := "No such file or directory (os error 2)"

/-- Why data named by a kubeconfig could not be loaded: inline base64 data that does not
decode, or a file that cannot be read. -/
inductive LoadError where
  | decodeBase64 (cause : Base64.Fault)
  | readFile (path : String)
  deriving Repr, Inhabited

/-- The message of a load error followed by its causes. -/
def LoadError.chain : LoadError → List String
  | .decodeBase64 f => ["failed to decode base64 data: " ++ f.message, f.message]
  | .readFile p => ["failed to read file '" ++ quoted p ++ "': " ++ notFound, notFound]

/-- Why a kubeconfig gives no client configuration. -/
inductive KubeconfigError where
  | currentContextNotSet
  | kindMismatch
  | apiVersionMismatch
  | loadContext (name : String)
  | loadClusterOfContext (name : String)
  | findUser (name : String)
  | readConfig (path : String)
  | parse (text : String)
  | invalidStructure (text : String)
  | missingClusterUrl
  | parseClusterUrl (text : String)
  | parseProxyUrl (text : String)
  | loadCertificateAuthority (cause : LoadError)
  | parseCertificates (cause : Tls.Pem.Fault)
  deriving Repr, Inhabited

/-- The message of a kubeconfig error followed by its causes. -/
def KubeconfigError.chain : KubeconfigError → List String
  | .currentContextNotSet => ["failed to determine current context"]
  | .kindMismatch => ["kubeconfigs with mismatching kind cannot be merged"]
  | .apiVersionMismatch => ["kubeconfigs with mismatching api version cannot be merged"]
  | .loadContext n => ["failed to load current context: " ++ n]
  | .loadClusterOfContext n => ["failed to load the cluster of context: " ++ n]
  | .findUser n => ["failed to find named user: " ++ n]
  | .readConfig p => ["failed to read kubeconfig from '" ++ quoted p ++ "': " ++ notFound, notFound]
  | .parse t => ["failed to parse kubeconfig YAML: " ++ t, t]
  | .invalidStructure t => ["the structure of the parsed kubeconfig is invalid: " ++ t, t]
  | .missingClusterUrl => ["cluster url is missing on selected cluster"]
  | .parseClusterUrl t => ["failed to parse cluster url: " ++ t, t]
  | .parseProxyUrl t => ["failed to parse proxy url: " ++ t, t]
  | .loadCertificateAuthority e => "failed to load certificate authority" :: e.chain
  | .parseCertificates f =>
    ("failed to parse PEM-encoded certificates: " ++ (f.chain.headD "")) :: f.chain

/-- Merges a later document into a kubeconfig. -/
def Kubeconfig.merge (a b : Kubeconfig) : Except KubeconfigError Kubeconfig :=
  if a.kind.isSome && b.kind.isSome && a.kind != b.kind then .error .kindMismatch
  else if a.apiVersion.isSome && b.apiVersion.isSome && a.apiVersion != b.apiVersion then
    .error .apiVersionMismatch
  else .ok
    { kind := a.kind.or b.kind
      apiVersion := a.apiVersion.or b.apiVersion
      clusters := appendNew a.clusters b.clusters
      users := appendNew a.users b.users
      contexts := appendNew a.contexts b.contexts
      currentContext := a.currentContext.or b.currentContext }

/-- Reads a kubeconfig text: every document must fit the shape, and they are merged. -/
def readKubeconfig (text : String) : Except KubeconfigError Kubeconfig := do
  let docs ← match loadData text with
    | .ok docs => pure docs
    | .error (.fault f) => .error (.parse f.classicText)
    | .error (.message m) => .error (.parse m)
  docs.foldlM (fun (acc : Option Kubeconfig) d => do
    match fitShape kubeconfigShape d with
    | .error e => .error (.invalidStructure e)
    | .ok () =>
      let k := Kubeconfig.ofDatum d
      match acc with
      | none => pure (some k)
      | some a => some <$> a.merge k) none >>= fun k => pure (k.getD {})

/-! ## Paths relative to the kubeconfig file -/

/-- Drops trailing separators and `.` components from a path given last character first,
keeping a root and a leading `.`. -/
def trimTrailing : List Char → List Char
  | '/' :: c :: rest => trimTrailing (c :: rest)
  | '.' :: '/' :: rest => trimTrailing ('/' :: rest)
  | cs => cs

/-- The directory of a path: the path without its last component, if it has one. The root
has none. -/
def parentDir (path : String) : Option String :=
  match trimTrailing path.toList.reverse with
  | [] | ['/'] => none
  | ['.'] => some ""
  | cs => some (String.ofList (trimTrailing (cs.dropWhile (· != '/'))).reverse)

/-- A path joined to a directory, with one separator between them. -/
def joinPath (dir file : String) : String :=
  if dir.isEmpty then file else if dir.endsWith "/" then dir ++ file else dir ++ "/" ++ file

/-- A relative path member of a body, joined to a directory. -/
def resolveMember (dir key : String) : Datum → Datum
  | .map es => .map (es.map fun (k, v) =>
      match k, v with
      | .string name, .string p => if name == key && !p.startsWith "/" then (k, .string (joinPath dir p)) else (k, v)
      | _, _ => (k, v))
  | d => d

/-- The body of a named entry with some of its path members joined to a directory. -/
def Named.resolve (dir : String) (keys : List String) (n : Named) : Named :=
  { n with body := n.body.map fun b => keys.foldl (fun b key => resolveMember dir key b) b }

/-- A kubeconfig whose relative file paths are joined to a directory: the certificate
authority of each cluster, and the client certificate, client key and token file of each
user. -/
def Kubeconfig.resolvePaths (dir : String) (k : Kubeconfig) : Kubeconfig :=
  { k with
    clusters := k.clusters.map (Named.resolve dir ["certificate-authority"])
    users := k.users.map (Named.resolve dir ["client-certificate", "client-key", "tokenFile"]) }

/-- Reads the kubeconfig file at a path; relative paths in it are taken from the file's
directory. -/
def readKubeconfigFile (files : Config.Files) (path : String) : Except KubeconfigError Kubeconfig :=
  match Config.fileAt? files path with
  | none => .error (.readConfig path)
  | some text => do
    let k ← readKubeconfig text
    match parentDir path with
    | some dir => pure (k.resolvePaths dir)
    | none => pure k

/-! ## Cluster addresses -/

/-- Characters a URI may hold as they are. -/
def isUriByte (c : Char) : Bool :=
  ('a' ≤ c && c ≤ 'z') || ('A' ≤ c && c ≤ 'Z') || ('0' ≤ c && c ≤ '9') ||
    "!#$&'()*+,-./:;=?@[]_~".toList.contains c

/-- Characters of a URI scheme. -/
def isSchemeChar (c : Char) : Bool :=
  ('a' ≤ c && c ≤ 'z') || ('A' ≤ c && c ≤ 'Z') || ('0' ≤ c && c ≤ '9') || c == '+' ||
    c == '-' || c == '.'

/-- The length of a scheme followed by `://` at the start, if there is one. -/
def schemeLength (cs : List Char) : Except String (Option Nat) :=
  let lower := String.ofList (cs.map Char.toLower)
  if lower.startsWith "http://" then .ok (some 4)
  else if lower.startsWith "https://" then .ok (some 5)
  else if cs.length ≤ 3 then .ok none
  else
    match cs.findIdx? fun c => !isSchemeChar c with
    | some i =>
      if cs[i]? == some ':' && cs.length ≥ i + 3 && (cs.drop (i + 1)).take 2 == ['/', '/'] then
        if i > 64 then .error "scheme too long" else .ok (some i)
      else .ok none
    | none => .ok none

/-- The length of the authority at the start; its characters are checked. -/
def authorityLength (cs : List Char) : Except String Nat := do
  let stop := (cs.findIdx? fun c => c == '/' || c == '?' || c == '#').getD cs.length
  let part := cs.take stop
  let step := fun (st : Nat × Bool × Bool × Bool × Option Nat) (ic : Char × Nat) =>
    let (colons, opened, closed, percent, at_) := st
    let (c, i) := ic
    if c == ':' then
      if colons ≥ 8 then Except.error "invalid authority" else .ok (colons + 1, opened, closed, percent, at_)
    else if c == '[' then
      if percent || opened then .error "invalid authority" else .ok (colons, true, closed, percent, at_)
    else if c == ']' then
      if !opened || closed then .error "invalid authority" else .ok (0, opened, true, false, at_)
    else if c == '@' then .ok (0, opened, closed, false, some i)
    else if c == '%' then .ok (colons, opened, closed, true, at_)
    else if isUriByte c then .ok st
    else .error "invalid uri character"
  let (colons, opened, closed, percent, at_) ← part.zipIdx.foldlM step (0, false, false, false, none)
  if opened != closed || colons > 1 then throw "invalid authority"
  if stop > 0 && at_ == some (stop - 1) then throw "invalid authority"
  if percent then throw "invalid authority"
  return stop

/-- Checks a path and query. -/
def checkPathAndQuery (cs : List Char) : Except String Unit := do
  let pathOk := fun (c : Char) => let n := c.toNat
    n == 0x21 || (0x24 ≤ n && n ≤ 0x3B) || n == 0x3D || (0x40 ≤ n && n ≤ 0x5F) ||
      (0x61 ≤ n && n ≤ 0x7A) || n == 0x7C || n == 0x7E || c == '"' || c == '\x7b' || c == '\x7d'
  let queryOk := fun (c : Char) => let n := c.toNat
    n == 0x21 || (0x24 ≤ n && n ≤ 0x3B) || n == 0x3D || (0x3F ≤ n && n ≤ 0x7E)
  let path := cs.takeWhile fun c => c != '?' && c != '#'
  if !path.all pathOk then throw "invalid uri character"
  let rest := cs.drop path.length
  if rest.head? == some '?' then
    let query := (rest.drop 1).takeWhile (· != '#')
    if !query.all queryOk then throw "invalid uri character"

/-- Checks that a text is a URI as the HTTP client reads it, with its reason otherwise. -/
def checkUri (s : String) : Except String Unit := do
  let cs := s.toList
  if cs.length > 65534 then throw "uri too long"
  match cs with
  | [] => throw "empty string"
  | ['/'] | ['*'] => return
  | [_] => let _ ← authorityLength cs; return
  | '/' :: _ => checkPathAndQuery cs
  | _ =>
    match ← schemeLength cs with
    | none =>
      let n ← authorityLength cs
      if n != cs.length then throw "invalid format"
    | some len =>
      let rest := cs.drop (len + 3)
      let n ← authorityLength rest
      if n == 0 then throw "invalid format"
      checkPathAndQuery (rest.drop n)

end StateMetrics.Kube
