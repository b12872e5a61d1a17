import StateMetrics.Kube.Object
import StateMetrics.Json.Reader
import StateMetrics.Crd.Spec

/-! # The cluster API client

The client talks to the cluster API over HTTP. A resource type is addressed by its API
resource: `/api/<version>/<plural>` for the core group and `/apis/<group>/<version>/<plural>`
otherwise, with `namespaces/<ns>/` before the plural inside a namespace.

A reply with a client or server error status is an API error: its body read as an error
response, or, when it is not one, an error response made from the status line and the quoted
body. Any other reply to a list request must be a list of dynamic objects. The reply to a watch
request is read line by line, whatever its status: a blank or cut-off line is skipped, a line
that is not a watch event is an API error when it reads as an error response and undecodable
otherwise. -/

namespace StateMetrics.Kube

open Text

/-- The coordinates of a resource type as the client addresses it. -/
structure ApiResource where
  group : String
  version : String
  apiVersion : String
  kind : String
  plural : String
  deriving Repr, BEq, DecidableEq, Inhabited

namespace ApiResource

/-- The API resource of a resource type. -/
def ofGvr (g : Gvr) : ApiResource := ⟨g.group, g.version, g.apiVersion, g.kind, g.resource⟩

/-- The path of the resource collection, cluster-wide or inside a namespace. -/
def urlPath (r : ApiResource) (scope : Option String) : String :=
  "/" ++ (if r.group.isEmpty then "api" else "apis") ++ "/" ++ r.apiVersion ++ "/" ++
    (match scope with
      | some ns => "namespaces/" ++ ns ++ "/"
      | none => "") ++ r.plural

end ApiResource

/-- The reason phrase of a registered HTTP status code. -/
def reasonPhrase? (code : Nat) : Option String :=
  let phrases : List (String × String) := [
    ("100", "Continue"), ("101", "Switching Protocols"), ("102", "Processing"), ("200", "OK"),
    ("201", "Created"), ("202", "Accepted"), ("203", "Non Authoritative Information"),
    ("204", "No Content"), ("205", "Reset Content"), ("206", "Partial Content"),
    ("207", "Multi-Status"), ("208", "Already Reported"), ("226", "IM Used"),
    ("300", "Multiple Choices"), ("301", "Moved Permanently"), ("302", "Found"),
    ("303", "See Other"), ("304", "Not Modified"), ("305", "Use Proxy"),
    ("307", "Temporary Redirect"), ("308", "Permanent Redirect"), ("400", "Bad Request"),
    ("401", "Unauthorized"), ("402", "Payment Required"), ("403", "Forbidden"),
    ("404", "Not Found"), ("405", "Method Not Allowed"), ("406", "Not Acceptable"),
    ("407", "Proxy Authentication Required"), ("408", "Request Timeout"), ("409", "Conflict"),
    ("410", "Gone"), ("411", "Length Required"), ("412", "Precondition Failed"),
    ("413", "Payload Too Large"), ("414", "URI Too Long"), ("415", "Unsupported Media Type"),
    ("416", "Range Not Satisfiable"), ("417", "Expectation Failed"), ("418", "I'm a teapot"),
    ("421", "Misdirected Request"), ("422", "Unprocessable Entity"), ("423", "Locked"),
    ("424", "Failed Dependency"), ("426", "Upgrade Required"), ("428", "Precondition Required"),
    ("429", "Too Many Requests"), ("431", "Request Header Fields Too Large"),
    ("451", "Unavailable For Legal Reasons"), ("500", "Internal Server Error"),
    ("501", "Not Implemented"), ("502", "Bad Gateway"), ("503", "Service Unavailable"),
    ("504", "Gateway Timeout"), ("505", "HTTP Version Not Supported"),
    ("506", "Variant Also Negotiates"), ("507", "Insufficient Storage"), ("508", "Loop Detected"),
    ("510", "Not Extended"), ("511", "Network Authentication Required")]
  (phrases.find? (·.1 == toString code)).map (·.2)

/-- A status code with its reason phrase. -/
def statusLine (code : Nat) : String :=
  toString code ++ " " ++ (reasonPhrase? code).getD "<unknown status code>"

/-- An error the cluster API reports. -/
structure ErrorResponse where
  status : String
  message : String
  reason : String
  code : Nat
  deriving Repr, BEq, DecidableEq, Inhabited

namespace ErrorResponse

/-- The one-line text: the message and the reason. -/
def text (e : ErrorResponse) : String := e.message ++ ": " ++ e.reason

/-- The structural form, every field shown. -/
def debug (e : ErrorResponse) : String :=
  "ErrorResponse \x7b status: " ++ quoted e.status ++ ", message: " ++ quoted e.message ++
    ", reason: " ++ quoted e.reason ++ ", code: " ++ toString e.code ++ " \x7d"

/-- An optional text member: absent is empty, present must be a string. -/
def textMember (members : List (String × Json)) (k : String) : Option String :=
  match Json.lookupMember k members with
  | none => some ""
  | some (.str s) => some s
  | some _ => none

/-- Reads an error response: an object with a string `status` and a 16-bit `code`, and
optionally a string `message` and `reason`; other members are ignored. -/
def decode? : Json → Option ErrorResponse
  | .obj members =>
    match Json.lookupMember "status" members, Json.lookupMember "code" members,
        textMember members "message", textMember members "reason" with
    | some (.str status), some (.num (.int code)), some message, some reason =>
      if 0 ≤ code ∧ code < 65536 then some ⟨status, message, reason, code.toNat⟩ else none
    | _, _, _, _ => none
  | _ => none

end ErrorResponse

/-- Why a request failed. -/
inductive ClientError where
  /-- The cluster API reported an error. -/
  | api (e : ErrorResponse)
  /-- The reply could not be read as what was asked for. -/
  | undecodable
  deriving Repr, BEq, DecidableEq, Inhabited

/-- The one-line message of a failed request. -/
def ClientError.message : ClientError → String
  | .api e => "ApiError: " ++ e.text ++ " (" ++ e.debug ++ ")"
  | .undecodable => "Error deserializing response"

/-- An HTTP reply: its status code and body. -/
structure Reply where
  status : Nat
  body : String
  deriving Repr, BEq, DecidableEq, Inhabited

/-- A list of objects and where the listing stands: the token of the next page, and the
resource version the list was taken at. -/
structure ObjectList where
  items : List Json
  continueToken : Option String
  resourceVersion : Option String
  deriving Inhabited

/-- The metadata of a list. -/
def listMeta : Schema :=
  .record "ListMeta" [("continue", .text), ("remainingItemCount", .integer 64),
    ("resourceVersion", .text), ("selfLink", .text)]

/-- A string member of an object, if present. -/
def textAt? (v : Json) (k : String) : Option String :=
  match v.get? k with
  | some (.str s) => some s
  | _ => none

/-- Reads a list: `items` is required (`null` is empty) and holds dynamic objects; `metadata`
may be absent. -/
def ObjectList.decode (v : Json) : Except String ObjectList :=
  match v with
  | .obj members => do
    let metadata ← match Json.lookupMember "metadata" members with
      | none => pure (Json.obj [])
      | some m => do check listMeta m; pure m
    let items ← match Json.lookupMember "items" members with
      | none => .error "missing field `items`"
      | some .null => pure []
      | some (.arr xs) => xs.mapM dynamicObject
      | some x => .error ("invalid type: " ++ Settings.describeJson x ++ ", expected a sequence")
    pure ⟨items, textAt? metadata "continue", textAt? metadata "resourceVersion"⟩
  | _ => .error ("invalid type: " ++ Settings.describeJson v ++ ", expected ObjectList")

namespace Reply

/-- Whether the status is a client or server error. -/
def isError (r : Reply) : Bool := 400 ≤ r.status && r.status < 600

/-- The error response a failed reply stands for. -/
def apiError (r : Reply) : ErrorResponse :=
  let made : ErrorResponse := ⟨statusLine r.status, quoted r.body, "Failed to parse error data", r.status⟩
  match Json.read r.body with
  | .ok v => (ErrorResponse.decode? v).getD made
  | .error _ => made

/-- The reply to a list request. -/
def listing (r : Reply) : Except ClientError ObjectList :=
  if r.isError then .error (.api r.apiError)
  else match Json.read r.body with
    | .error _ => .error .undecodable
    | .ok v => match ObjectList.decode v with
      | .ok l => .ok l
      | .error _ => .error .undecodable

/-- The lines of a streamed body: split at line feeds, each without a carriage return before
its feed, and the last line kept only when it is not empty. -/
def lines (r : Reply) : List String :=
  let strip := fun (cs : List Char) => String.ofList (if cs.getLast? = some '\r' then cs.dropLast else cs)
  let parts := (r.body.toList.splitOn '\n')
  let whole := parts.dropLast.map strip
  match parts.getLast? with
  | some last => if last.isEmpty then whole else whole ++ [strip last]
  | none => whole

end Reply

/-- An event of a watch stream. -/
inductive WatchEvent where
  | added (obj : Json)
  | modified (obj : Json)
  | deleted (obj : Json)
  /-- The stream has reached a resource version without a change to report. -/
  | bookmark (resourceVersion : String)
  | error (e : ErrorResponse)
  deriving Inhabited

/-- Reads the object of a bookmark: a typed object whose metadata has a resource version and
optionally string annotations. -/
def bookmarkVersion (o : Json) : Except String String :=
  match textAt? o "apiVersion", textAt? o "kind", o.get? "metadata" with
  | some _, some _, some (.obj m) =>
    match Json.lookupMember "resourceVersion" m, Json.lookupMember "annotations" m with
    | some (.str rv), none => .ok rv
    | some (.str rv), some a => do check .textMap a; pure rv
    | _, _ => .error "invalid bookmark metadata"
  | _, _, _ => .error "invalid bookmark"

/-- Reads a watch event: an object with a `type` and an `object`. -/
def WatchEvent.decode (v : Json) : Except String WatchEvent :=
  match v.get? "type", v.get? "object" with
  | some (.str t), some o =>
    if t = "ADDED" then (dynamicObject o).map .added
    else if t = "MODIFIED" then (dynamicObject o).map .modified
    else if t = "DELETED" then (dynamicObject o).map .deleted
    else if t = "BOOKMARK" then (bookmarkVersion o).map .bookmark
    else if t = "ERROR" then
      match ErrorResponse.decode? o with
      | some e => .ok (.error e)
      | none => .error "invalid error response"
    else .error ("unknown variant " ++ quoted t)
  | some (.str _), none => .error "missing field `object`"
  | _, _ => .error "missing field `type`"

/-- What one line of a watch stream yields: nothing for a blank or cut-off line, otherwise an
event or the failure to read one. -/
def decodeWatchLine (line : String) : Option (Except ClientError WatchEvent) :=
  match Json.read line with
  | .error msg => if msg.startsWith "EOF while parsing" then none else some (.error .undecodable)
  | .ok v =>
    match WatchEvent.decode v with
    | .ok e => some (.ok e)
    | .error _ =>
      match ErrorResponse.decode? v with
      | some e => some (.error (.api e))
      | none => some (.error .undecodable)

end StateMetrics.Kube
