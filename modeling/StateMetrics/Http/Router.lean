import StateMetrics.Health
import StateMetrics.Metric.Exposition
import StateMetrics.Json.Writer

/-! # The HTTP endpoints

The exporter answers three paths, each to `GET` and `HEAD` (the same answer without a body):

* `/healthz`: the health of every component, 200 while the exporter is operational and 503
  when it is unhealthy;
* `/readyz`: whether the exporter is ready, 200 only then; an exporter that is otherwise ready
  but not the active instance is not ready;
* `/metrics`: the gathered metrics in the text exposition format.

A query string and a fragment are ignored, and so are the scheme and host of an absolute
target. Another method on one of these paths is refused with 405, and any
other path is not found, 404, both without a body. -/

namespace StateMetrics.Http

/-- An HTTP response: status, content type when there is a body kind, and body. -/
structure Response where
  status : Nat
  contentType : Option String
  body : String
  deriving Repr, BEq, DecidableEq, Inhabited

/-- The health document: the overall status and each component's status and message. -/
def healthDoc (h : HealthRegistry) : Json :=
  Json.object [("status", .str h.status.word),
    ("components", Json.object (h.components.map fun (n, c) =>
      (n, Json.object ([("status", Json.str c.status.word)] ++
        (match c.message with
          | some m => [("message", Json.str m)]
          | none => [])))))]

/-- The readiness document. -/
def readinessDoc (r : Readiness) : Json :=
  Json.object ([("ready", Json.bool r.ready)] ++
    (match r.reason with
      | some m => [("reason", Json.str m)]
      | none => []))

/-- The readiness of the exporter, given whether it is the active instance. -/
def readiness (h : HealthRegistry) (gateOpen : Bool) : Readiness :=
  let r := h.readiness
  if r.ready && !gateOpen then ⟨false, some "Exporter is not the active instance"⟩ else r

/-- The content type of JSON documents. -/
def jsonType : String := "application/json"

/-- The content type of the exposition. -/
def textType : String := "text/plain; charset=utf-8"

/-- The path a request target names, as the router matches it: the target without its fragment
(from `#`) and its query (from `?`); of an absolute target such as `http://host/path` the part
after the host, `/` when there is none. Any other target (`*`, a bare host) keeps its text,
which is no path the router knows. -/
def routePath (target : String) : String :=
  let t := (target.splitOn "#").headD ""
  let t := (t.splitOn "?").headD ""
  if t.startsWith "/" then t
  else match t.splitOn "://" with
    | _ :: rest@(_ :: _) =>
      match ("://".intercalate rest).toList.dropWhile (· != '/') with
      | [] => "/"
      | p => String.ofList p
    | _ => t

/-- Answers a request by method and target. -/
def handle (method target : String) (h : HealthRegistry) (gateOpen : Bool)
    (families : List Metric.Family) : Response :=
  let path := routePath target
  let known := path == "/healthz" || path == "/readyz" || path == "/metrics"
  if !known then ⟨404, none, ""⟩
  else if method != "GET" && method != "HEAD" then ⟨405, none, ""⟩
  else
    let full : Response :=
      if path == "/healthz" then
        ⟨if h.status.isOperational then 200 else 503, some jsonType, Json.render (healthDoc h)⟩
      else if path == "/readyz" then
        let r := readiness h gateOpen
        ⟨if r.ready then 200 else 503, some jsonType, Json.render (readinessDoc r)⟩
      else ⟨200, some textType, Metric.expose families⟩
    if method == "HEAD" then { full with body := "" } else full

end StateMetrics.Http
