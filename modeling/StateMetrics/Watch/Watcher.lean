import StateMetrics.Kube.Client
import StateMetrics.Watch.Known

/-! # The watcher

A watcher keeps a local view of a resource collection in step with the cluster. It lists the
collection, page by page while the server hands out continue tokens, and reports the full
listing as a restart once the last page names the resource version it was taken at. It then
watches from that version: additions and changes are applied, deletions deleted, and
bookmarks only move the version on. Every event's object must carry a resource version, which
becomes the one to resume from.

When a watch reply ends, the watcher watches again from the last version. It starts over with
a fresh listing after a failed list, a listing without a resource version, an object without
one, or an error event with status 410 (the version is too old). Other error events and
unreadable lines are reported and the watch goes on.

Each reply answers one request, so a script of replies determines the whole run: which
requests are made, and what the watcher reports. The run ends at the first request the script
has no reply for. -/

namespace StateMetrics

open Kube

/-- Why the watcher reports a failure. -/
inductive WatcherError where
  | initialListFailed (e : ClientError)
  | watchError (e : ErrorResponse)
  | watchFailed (e : ClientError)
  | noResourceVersion
  deriving Repr, BEq, DecidableEq, Inhabited

/-- The one-line message of a watcher failure. -/
def WatcherError.message : WatcherError → String
  | .initialListFailed e => "failed to perform initial object list: " ++ e.message
  | .watchError e => "error returned by apiserver during watch: " ++ e.text
  | .watchFailed e => "watch stream failed: " ++ e.message
  | .noResourceVersion => "no metadata.resourceVersion in watch result (does resource support watch?)"

/-- What the watcher reports: an event or a failure. -/
abbrev WatcherItem := Except WatcherError WatcherEvent

/-- The request the watcher makes next. -/
inductive Pending where
  /-- A list request for the page after a continue token, with the objects of the pages
  before it. -/
  | list (continueToken : Option String) (objects : List Json)
  /-- A watch from a resource version. -/
  | watch (resourceVersion : String)
  deriving Inhabited

namespace Pending

/-- The first request: a list from the first page. -/
def start : Pending := .list none []

/-- Whether the request is a watch. -/
def isWatch : Pending → Bool
  | .list .. => false
  | .watch _ => true

end Pending

/-- A text that is present and not empty. -/
def nonEmpty : Option String → Option String
  | some s => if s.isEmpty then none else some s
  | none => none

/-- Goes through the lines of a watch reply from a resource version. Returns the reports and
the next request: a watch from the last version when the lines run out, or a fresh listing
when the watch has to start over, dropping the lines left. -/
def watchLines (rv : String) : List String → List WatcherItem × Pending
  | [] => ([], .watch rv)
  | line :: rest =>
    match decodeWatchLine line with
    | none => watchLines rv rest
    | some (.error e) =>
      let (items, next) := watchLines rv rest
      (.error (.watchFailed e) :: items, next)
    | some (.ok (.added obj)) | some (.ok (.modified obj)) =>
      match resourceVersion? obj with
      | some rv' =>
        let (items, next) := watchLines rv' rest
        (.ok (.applied obj) :: items, next)
      | none => ([.error .noResourceVersion], .start)
    | some (.ok (.deleted obj)) =>
      match resourceVersion? obj with
      | some rv' =>
        let (items, next) := watchLines rv' rest
        (.ok (.deleted obj) :: items, next)
      | none => ([.error .noResourceVersion], .start)
    | some (.ok (.bookmark rv')) => watchLines rv' rest
    | some (.ok (.error e)) =>
      if e.code = 410 then ([.error (.watchError e)], .start)
      else
        let (items, next) := watchLines rv rest
        (.error (.watchError e) :: items, next)

/-- What the watcher reports on the reply to a request, and its next request. -/
def respond (p : Pending) (r : Reply) : List WatcherItem × Pending :=
  match p with
  | .list _ objects =>
    match r.listing with
    | .error e => ([.error (.initialListFailed e)], .start)
    | .ok l =>
      let objects := objects ++ l.items
      match nonEmpty l.continueToken, nonEmpty l.resourceVersion with
      | some token, _ => ([], .list (some token) objects)
      | none, some rv => ([.ok (.restarted objects)], .watch rv)
      | none, none => ([.error .noResourceVersion], .start)
  | .watch rv => watchLines rv r.lines

/-- Runs the watcher from a request over a script of replies. Returns whether each request
made was a watch, the last being the one left without a reply, and the reports in order. -/
def runWatcher : Pending → List Reply → List Bool × List WatcherItem
  | p, [] => ([p.isWatch], [])
  | p, r :: rest =>
    let (items, next) := respond p r
    let (requests, more) := runWatcher next rest
    (p.isWatch :: requests, items ++ more)

end StateMetrics
