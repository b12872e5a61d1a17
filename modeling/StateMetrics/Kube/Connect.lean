import StateMetrics.Kube.Credentials

/-! # Making the cluster client

The client's configuration follows the current context to its cluster and its user. The
cluster's server must be a valid URI, its certificate authority must load, and a proxy, when
the cluster or the environment (`HTTP_PROXY`, `http_proxy`, `HTTPS_PROXY`, `https_proxy`, the
first that is not empty) names one, must be a valid URI as well. The client is then made from
that configuration (`checkTransport`, `checkAuth`).

Without an explicit file the configuration comes from the files that `KUBECONFIG` lists,
separated by `:` and merged in order, or else from `$HOME/.kube/config`. When that fails the
client would try the in-cluster environment, which is not set, so the failure names both. -/

namespace StateMetrics.Kube

open Yaml Text

/-- What a client is made from: the cluster and user of the current context, and the roots of
trust of the cluster's certificate authority, if it names one. -/
structure ClientSetup where
  cluster : Datum
  user : Datum
  roots : Option (List (List UInt8))
  deriving Inhabited

/-- The proxy the cluster or the environment names, if any. -/
def proxyUrl (env : List (String × String)) (cluster : Datum) : Option String :=
  let nonEmpty := fun (o : Option String) => o.filter (!·.isEmpty)
  ((["HTTP_PROXY", "http_proxy", "HTTPS_PROXY", "https_proxy"].map fun v => env.lookup v).foldl
    (fun acc o => acc.or (nonEmpty o)) (nonEmpty (textMember? cluster "proxy-url")))

/-- Follows the current context to its cluster and user, and checks the cluster's server, its
certificate authority and the proxy. -/
def clientSetup (files : Config.Files) (env : List (String × String)) (k : Kubeconfig) :
    Except KubeconfigError ClientSetup := do
  let name ← match k.currentContext with
    | some n => pure n
    | none => throw .currentContextNotSet
  let ctx ← match (k.contexts.find? (·.name == name)).bind (·.body) with
    | some c => pure c
    | none => throw (.loadContext name)
  let clusterName := (textMember? ctx "cluster").getD ""
  let cluster ← match (k.clusters.find? (·.name == clusterName)).bind (·.body) with
    | some c => pure c
    | none => throw (.loadClusterOfContext clusterName)
  let userName := (textMember? ctx "user").getD ""
  let user ← match (k.users.find? (·.name == userName)).bind (·.body) with
    | some u => pure u
    | none => throw (.findUser userName)
  match textMember? cluster "server" with
  | none => throw .missingClusterUrl
  | some server =>
    match checkUri server with
    | .ok () => pure ()
    | .error e => throw (.parseClusterUrl e)
  let roots ← certificateAuthority files cluster
  match proxyUrl env cluster with
  | some proxy =>
    match checkUri proxy with
    | .ok () => pure ()
    | .error e => throw (.parseProxyUrl e)
  | none => pure ()
  pure ⟨cluster, user, roots⟩

/-- Makes a client from its configuration: the transport, then authentication. -/
def buildClient (files : Config.Files) (s : ClientSetup) : Except BuildError Unit := do
  checkTransport s.roots (identityOf files s.user)
  (checkAuth files s.user).mapError .auth

/-- The failure of the in-cluster environment, which is never set. -/
def inClusterFailure : String :=
  "failed to read an incluster environment variable: environment variable not found"

/-- Why no client could be made: from an explicit kubeconfig file, or inferred. -/
inductive ConnectError where
  /-- The explicit file could not be read. -/
  | read (path : String) (e : KubeconfigError)
  /-- The explicit file names no usable cluster. -/
  | invalid (e : KubeconfigError)
  /-- Neither the kubeconfig nor the in-cluster environment gave a configuration. -/
  | infer (e : KubeconfigError)
  /-- The configuration, from an explicit file or inferred, gave no client. -/
  | build (inferred : Bool) (e : BuildError)
  deriving Repr, Inhabited

/-- The report chain of a client failure. -/
def ConnectError.chain : ConnectError → List String
  | .read path e => ("failed to read kubeconfig " ++ path) :: e.chain
  | .invalid e => "invalid kubeconfig" :: e.chain
  | .infer e =>
    let inner := "failed to infer config: in-cluster: (" ++ inClusterFailure ++ "), kubeconfig: (" ++
      (e.chain.headD "") ++ ")"
    ["failed to create Kubernetes client", "Failed to infer configuration: " ++ inner, inner] ++ e.chain
  | .build inferred e => (if inferred then ["failed to create Kubernetes client"] else []) ++ e.chain

/-- Reads and merges the kubeconfig files `KUBECONFIG` lists, or the home directory's
`.kube/config` when it lists none. -/
def readInferred (files : Config.Files) (env : List (String × String)) :
    Except KubeconfigError Kubeconfig :=
  let listed := ((env.lookup "KUBECONFIG").getD "").splitOn ":" |>.filter (!·.isEmpty)
  match listed with
  | [] =>
    readKubeconfigFile files
      ((env.lookup "HOME" |>.filter (!·.isEmpty) |>.getD "/root") ++ "/.kube/config")
  | paths => paths.foldlM (fun acc p => do acc.merge (← readKubeconfigFile files p)) {}

/-- Makes the cluster client: from an explicit file, or from `KUBECONFIG` or the home
directory's `.kube/config`. -/
def makeClient (files : Config.Files) (env : List (String × String)) (explicit : Option String) :
    Except ConnectError Unit :=
  match explicit with
  | some path =>
    match readKubeconfigFile files path with
    | .error e => .error (.read path e)
    | .ok k =>
      match clientSetup files env k with
      | .error e => .error (.invalid e)
      | .ok s => (buildClient files s).mapError (.build false)
  | none =>
    match readInferred files env >>= clientSetup files env with
    | .error e => .error (.infer e)
    | .ok s => (buildClient files s).mapError (.build true)

end StateMetrics.Kube
