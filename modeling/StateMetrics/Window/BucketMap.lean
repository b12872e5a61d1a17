import StateMetrics.Entries
import StateMetrics.Time

/-! # Bucket maps

A bucket map aggregates observations within a sliding window. Each bucket has a key, the
dimensions it stands for, a count, a set of distinct members, and the instants it was first
and last seen. Every creation, contribution and refresh stamps the bucket with the next number
of a sequence, so that of two buckets last seen at the same instant the one touched earlier is
the older. A refresh of a missing key still uses up a number.

The sequence and the stamps are 64-bit words, and so is the count: adding occurrences wraps it
past `2 ^ 64 - 1`, and the sequence wraps back to zero after `2 ^ 64` numbers. A count taken
from the members is their number, which a set held in memory never brings near `2 ^ 64`.

With a capacity, contributing to a new key while the map is full first evicts the oldest
bucket: the least by last-seen instant, then by stamp. Cleaning up removes the buckets last
seen before `now - maxIdle`; a bucket idle exactly `maxIdle` stays.

Buckets are kept in ascending key order, which the map carries, and members in ascending
order, each once. -/

namespace StateMetrics

/-- One bucket of a bucket map. -/
structure Bucket (D : Type) where
  dims : D
  count : Nat
  members : List String
  firstSeen : Instant
  lastSeen : Instant
  stamp : UInt64
  deriving Repr, Inhabited

/-- What a contribution did to the map: whether it created its bucket, and which bucket it
evicted to make room. -/
structure Contribution where
  created : Bool := false
  evicted : Option String := none
  deriving Repr, BEq, DecidableEq, Inhabited

/-- Buckets by key in ascending order, an optional capacity, and the touch sequence. -/
structure BucketMap (D : Type) where
  buckets : List (String × Bucket D) := []
  ascending : Ascending buckets := by exact ascending_nil
  capacity : Option Nat := none
  seq : UInt64 := 0

namespace BucketMap

variable {D : Type}

instance : Inhabited (BucketMap D) := ⟨{}⟩

/-- An empty map without a capacity. -/
def empty : BucketMap D := {}

/-- An empty map holding at most `capacity` buckets, and at least one. -/
def withCapacity (capacity : Nat) : BucketMap D := { capacity := some (max capacity 1) }

/-- Puts a member into a sorted member list, once. -/
def insertMember (m : String) : List String → List String
  | [] => [m]
  | x :: rest => if m < x then m :: x :: rest else if m = x then x :: rest else x :: insertMember m rest

/-- The bucket under a key. -/
def get? (bm : BucketMap D) (key : String) : Option (Bucket D) :=
  (bm.buckets.find? (·.1 == key)).map (·.2)

/-- Whether a bucket exists under a key. -/
def contains (bm : BucketMap D) (key : String) : Bool := (bm.get? key).isSome

/-- The number of buckets. -/
def size (bm : BucketMap D) : Nat := bm.buckets.length

/-- Sets the bucket under a key, keeping the keys in ascending order. -/
def setBucket (key : String) (b : Bucket D) : List (String × Bucket D) → List (String × Bucket D)
  | [] => [(key, b)]
  | (k, c) :: rest =>
    if key < k then (key, b) :: (k, c) :: rest
    else if key = k then (key, b) :: rest
    else (k, c) :: setBucket key b rest

/-- Removes the bucket under a key. -/
def eraseKey (key : String) (l : List (String × Bucket D)) : List (String × Bucket D) :=
  l.filter (·.1 != key)

theorem setBucket_eq_insertSorted (key : String) (b : Bucket D) (l : List (String × Bucket D)) :
    setBucket key b l = insertSorted key b l := by
  induction l with
  | nil => rfl
  | cons entry rest ih =>
    obtain ⟨k, c⟩ := entry
    simp only [setBucket, insertSorted, ih]

/-- Puts a bucket under a key of the map. -/
def put (bm : BucketMap D) (key : String) (b : Bucket D) : BucketMap D :=
  { bm with buckets := setBucket key b bm.buckets,
            ascending := setBucket_eq_insertSorted key b bm.buckets ▸ bm.ascending.insertSorted key b }

/-- Keeps the buckets that pass a test. -/
def retain (bm : BucketMap D) (keep : String × Bucket D → Bool) : BucketMap D :=
  { bm with buckets := bm.buckets.filter keep, ascending := bm.ascending.filter keep }

/-- Removes the bucket under a key from the map. -/
def erase (bm : BucketMap D) (key : String) : BucketMap D := bm.retain (·.1 != key)

@[simp] theorem buckets_put (bm : BucketMap D) (key : String) (b : Bucket D) :
    (bm.put key b).buckets = setBucket key b bm.buckets := rfl

@[simp] theorem capacity_put (bm : BucketMap D) (key : String) (b : Bucket D) :
    (bm.put key b).capacity = bm.capacity := rfl

@[simp] theorem seq_put (bm : BucketMap D) (key : String) (b : Bucket D) :
    (bm.put key b).seq = bm.seq := rfl

@[simp] theorem buckets_retain (bm : BucketMap D) (keep : String × Bucket D → Bool) :
    (bm.retain keep).buckets = bm.buckets.filter keep := rfl

@[simp] theorem capacity_retain (bm : BucketMap D) (keep : String × Bucket D → Bool) :
    (bm.retain keep).capacity = bm.capacity := rfl

@[simp] theorem seq_retain (bm : BucketMap D) (keep : String × Bucket D → Bool) :
    (bm.retain keep).seq = bm.seq := rfl

@[simp] theorem buckets_erase (bm : BucketMap D) (key : String) :
    (bm.erase key).buckets = eraseKey key bm.buckets := rfl

@[simp] theorem capacity_erase (bm : BucketMap D) (key : String) :
    (bm.erase key).capacity = bm.capacity := rfl

@[simp] theorem seq_erase (bm : BucketMap D) (key : String) : (bm.erase key).seq = bm.seq := rfl

/-- Whether bucket `a` is older than bucket `b`: seen last earlier, or at the same instant but
touched earlier. -/
def older (a b : Bucket D) : Bool :=
  a.lastSeen.ms < b.lastSeen.ms || (a.lastSeen.ms == b.lastSeen.ms && a.stamp < b.stamp)

/-- The key of the oldest bucket. -/
def oldestKey : List (String × Bucket D) → Option (String × Bucket D)
  | [] => none
  | (k, b) :: rest =>
    match oldestKey rest with
    | none => some (k, b)
    | some (k', b') => if older b' b then some (k', b') else some (k, b)

/-- Removes the oldest bucket and names it. -/
def evictOldest (bm : BucketMap D) : BucketMap D × Option String :=
  match oldestKey bm.buckets with
  | none => (bm, none)
  | some (k, _) => (bm.erase k, some k)

/-- Stamps the bucket under a key as seen now, creating it with `dims` if missing; a full map
first evicts its oldest bucket to make room for a new key. Returns the bucket before `change`
is applied to it. -/
def touch (bm : BucketMap D) (key : String) (dims : D) (now : Instant)
    (change : Bucket D → Bucket D) : BucketMap D × Contribution :=
  let seq := bm.seq + 1
  let bm := { bm with seq }
  let full := match bm.capacity with
    | some c => decide (bm.size ≥ c)
    | none => false
  let (bm, evicted) := if full && !bm.contains key then bm.evictOldest else (bm, none)
  let (bucket, created) := match bm.get? key with
    | some b => (b, false)
    | none => (⟨dims, 0, [], now, now, seq⟩, true)
  let bucket := change { bucket with lastSeen := now, stamp := seq }
  (bm.put key bucket, { created, evicted })

/-- Adds a member to the bucket under a key; its count becomes the number of members. -/
def addMember (bm : BucketMap D) (key : String) (dims : D) (member : String) (now : Instant) :
    BucketMap D × Contribution :=
  bm.touch key dims now fun b =>
    let members := insertMember member b.members
    { b with members, count := members.length }

/-- Marks the bucket under a key as seen now, adding a non-empty member; reports whether the
bucket exists. The touch sequence advances either way. -/
def refresh (bm : BucketMap D) (key : String) (member : String) (now : Instant) :
    BucketMap D × Bool :=
  let seq := bm.seq + 1
  match bm.get? key with
  | none => ({ bm with seq }, false)
  | some b =>
    let members := if member.isEmpty then b.members else insertMember member b.members
    let b := { b with members, lastSeen := now, stamp := seq }
    (({ bm with seq }).put key b, true)

/-- Adds occurrences to the bucket under a key, with a non-empty member; the 64-bit count wraps.
Zero occurrences only refresh the bucket and contribute nothing. -/
def addOccurrences (bm : BucketMap D) (key : String) (dims : D) (member : String)
    (occurrences : Nat) (now : Instant) : BucketMap D × Contribution :=
  if occurrences = 0 then ((bm.refresh key member now).1, {})
  else
    bm.touch key dims now fun b =>
      let members := if member.isEmpty then b.members else insertMember member b.members
      { b with members, count := (b.count + occurrences) % Nat.pow 2 64 }

/-- Removes a member from the bucket under a key; its count becomes the number of members. A
bucket left without members is removed, and only then the answer is true. -/
def removeMember (bm : BucketMap D) (key : String) (member : String) : BucketMap D × Bool :=
  match bm.get? key with
  | none => (bm, false)
  | some b =>
    let members := b.members.filter (· != member)
    if members.isEmpty then (bm.erase key, true)
    else (bm.put key { b with members, count := members.length }, false)

/-- Removes the buckets last seen before `now - maxIdle` and names them in key order. -/
def cleanup (bm : BucketMap D) (now : Instant) (maxIdle : Int) :
    Except TimeOverflow (BucketMap D × List String) :=
  match now.sub maxIdle with
  | .error e => .error e
  | .ok threshold =>
    let expired := bm.buckets.filter fun (_, b) => b.lastSeen.ms < threshold.ms
    .ok (bm.retain fun (_, b) => !(b.lastSeen.ms < threshold.ms), expired.map (·.1))

end BucketMap

/-- The longest span a retention may have: 365000 days, in seconds. -/
def retentionCapSecs : Nat := 365000 * 86400

/-- The largest number of whole seconds a duration may span. -/
def durationMaxSecs : Nat := 9223372036854775

/-- How long idle buckets are kept for a window, in seconds: twice the window, or 365000 days
when twice the window exceeds the longest duration. -/
def retentionSecs (windowSecs : Nat) : Nat :=
  if 2 * windowSecs ≤ durationMaxSecs then 2 * windowSecs else retentionCapSecs

end StateMetrics
