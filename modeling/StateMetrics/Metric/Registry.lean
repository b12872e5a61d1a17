import StateMetrics.Metric.Family
import StateMetrics.Error
import StateMetrics.Text.Quoted
import StateMetrics.Text.Order

/-! # The metrics registry

Metrics collectors are registered with their descriptions before they are gathered. A
description is identified by its name, and its dimensions are its help text with its label
names in sorted order; both are kept as 64-bit FNV-1a hashes, each part followed by a `0xff`
byte. Registering checks the descriptions in order: a name registered before is a duplicate
registration; a name whose dimensions were seen before with other values is refused, and so is
a name repeated within the collector. Dimensions are remembered as they are checked, even when
a later description fails. A collector is identified by the sum of its descriptions' hashes,
and one identity registers once.

Gathering collects the families of the registered collectors, drops empty ones, merges families
of one name, orders each family's metrics by their number of labels and then their label
values, and orders the families by name. -/

namespace StateMetrics.Metric

open Text

/-- The 64-bit FNV-1a offset basis. -/
def fnvOffset : Nat := 0xcbf29ce484222325

/-- The 64-bit FNV-1a prime. -/
def fnvPrime : Nat := 0x100000001b3

/-- Hashes bytes onto a hash. -/
def fnvBytes (h : Nat) (bytes : List UInt8) : Nat :=
  bytes.foldl (fun h b => (Nat.xor h b.toNat * fnvPrime) % Nat.pow 2 64) h

/-- Hashes texts onto a hash, each followed by a separator byte. -/
def fnvTexts (h : Nat) (texts : List String) : Nat :=
  texts.foldl (fun h t => fnvBytes (fnvBytes h t.toUTF8.toList) [0xff]) h

/-- The identity of a description: the hash of its name. -/
def Desc.id (d : Desc) : Nat := fnvTexts fnvOffset [d.name]

/-- The dimensions of a description: the hash of its help and sorted label names. -/
def Desc.dimHash (d : Desc) : Nat :=
  fnvTexts fnvOffset (d.help :: d.labels.mergeSort fun a b => decide (a ≤ b))

/-- The structural form of a description. -/
def Desc.debug (d : Desc) : String :=
  "Desc \x7b fq_name: " ++ quoted d.name ++ ", help: " ++ quoted d.help ++
    ", const_label_pairs: [], variable_labels: " ++ quotedList d.labels ++ ", id: " ++
    toString d.id ++ ", dim_hash: " ++ toString d.dimHash ++ " \x7d"

/-- The registered descriptions and collectors. -/
structure MetricsRegistry where
  /-- The identities of registered descriptions. -/
  descIds : List Nat := []
  /-- The dimensions seen for each name. -/
  dims : List (String × Nat) := []
  /-- The identities of registered collectors. -/
  collectorIds : List Nat := []
  deriving Inhabited

namespace MetricsRegistry

/-- Checks the descriptions of a collector from `i` on, remembering dimensions. Returns the
registry with the dimensions seen and the identities of the collector's descriptions. -/
def checkDescs (r : MetricsRegistry) (seen : List Nat) :
    List Desc → MetricsRegistry × Except MetricsError (List Nat)
  | [] => (r, .ok seen)
  | d :: rest =>
    if r.descIds.contains d.id then (r, .error .alreadyRegistered)
    else
      let known := (r.dims.find? (·.1 == d.name)).map (·.2)
      if known.isSome && known != some d.dimHash then
        (r, .error (.other ("a previously registered descriptor with the same fully-qualified name as " ++
          d.debug ++ " has different label names or a different help string")))
      else
        let r := { r with dims := (d.name, d.dimHash) :: r.dims.filter (·.1 != d.name) }
        if seen.contains d.id then
          (r, .error (.other ("a duplicate descriptor within the same collector the same fully-qualified name: " ++
            quoted d.name)))
        else checkDescs r (seen ++ [d.id]) rest

/-- Registers a collector by its descriptions. -/
def register (r : MetricsRegistry) (descs : List Desc) : MetricsRegistry × Except MetricsError Unit :=
  match r.checkDescs [] descs with
  | (r, .error e) => (r, .error e)
  | (r, .ok ids) =>
    let cid := ids.foldl (fun a b => (a + b) % Nat.pow 2 64) 0
    if r.collectorIds.contains cid then (r, .error .alreadyRegistered)
    else ({ r with descIds := r.descIds ++ ids, collectorIds := r.collectorIds ++ [cid] }, .ok ())

end MetricsRegistry

/-- Whether one metric comes before another: fewer labels first, then by label values. -/
def pointLe (a b : Point) : Bool :=
  if a.labels.length != b.labels.length then a.labels.length < b.labels.length
  else Text.lexLe (a.labels.map (·.2)) (b.labels.map (·.2))

/-- Merges families into families by name, in ascending name order; a family keeps the help of
its first part. -/
def mergeFamilies : List Family → List Family → List Family
  | acc, [] => acc
  | acc, f :: rest =>
    let acc := match acc.find? (·.name == f.name) with
      | some _ => acc.map fun g => if g.name == f.name then { g with points := g.points ++ f.points } else g
      | none => acc ++ [f]
    mergeFamilies acc rest

/-- The families as gathered: without empty ones, merged by name, metrics in order, families by
name. -/
def gather (families : List Family) : List Family :=
  let merged := mergeFamilies [] (families.filter fun f => !f.points.isEmpty)
  let sorted := merged.map fun f => { f with points := f.points.mergeSort pointLe }
  sorted.mergeSort fun a b => decide (a.name ≤ b.name)

end StateMetrics.Metric
