import Mathlib
import StateMetrics.Proofs.Window.Operations

/-! # Eviction by recency

A bucket map evicts its least bucket, by last-seen instant and then by stamp. Every call that
creates, contributes to or refreshes a bucket stamps it with the next number of the map's touch
sequence and the call's instant, and every contribution or refresh advances the sequence, even
one that finds no bucket. So each live bucket carries the number and the instant of the last
call that touched it (`Stamped`), and two live buckets never share a stamp, whatever the
instants: the least bucket is unique, and which one it is does not depend on the order the
buckets are listed in. When the instants never go back, a bucket touched later is also seen
last at a later or equal instant, so the least bucket is the one touched longest ago.

Which call touched a key last is read off the run itself (`lastTouch`): the last call that
names the key. A refresh names its key even when it finds no bucket, but a key that is live at
the end was created after any such refresh, by a later call that names it.

Main statement: `evicts_least_recently_touched`, over every run from an empty map. -/

namespace StateMetrics.BucketMap

variable {D : Type}

/-- The key a call touches and the instant it touches it at: a contribution, or a refresh,
which touches its key when a bucket is there. -/
def Op.touch? : Op D → Option (String × Instant)
  | .addMember key _ _ now => some (key, now)
  | .addOccurrences key _ _ _ now => some (key, now)
  | .refresh key _ now => some (key, now)
  | .removeMember .. | .cleanup .. | .evictOldest => none

/-- Whether a call advances the touch sequence. -/
def Op.advances (op : Op D) : Bool := op.touch?.isSome

/-- The position in a run of the last call that names `key` as the key it touches. -/
def lastTouch : List (Op D) → String → Option Nat
  | [], _ => none
  | op :: ops, key =>
    match lastTouch ops key with
    | some i => some (i + 1)
    | none => if op.touch?.map (·.1) = some key then some 0 else none

/-- The instants of a run's touching calls never go back. -/
def ClockMonotone (ops : List (Op D)) : Prop :=
  (ops.filterMap fun op => op.touch?.map (·.2)).Pairwise (· ≤ ·)

instance (ops : List (Op D)) : Decidable (ClockMonotone ops) :=
  inferInstanceAs (Decidable (List.Pairwise _ _))

/-- `key` has a bucket, and the run `ops` touched it last before it touched any other live
bucket last: the bucket a least-recently-used policy evicts. -/
def LeastRecentlyTouched (ops : List (Op D)) (bm : BucketMap D) (key : String) : Prop :=
  bm.contains key = true ∧ ∀ other, bm.contains other = true → other ≠ key →
    ∃ i j, lastTouch ops key = some i ∧ lastTouch ops other = some j ∧ i < j

/-- How far the sequence has counted at the call at position `i` of a run, when it stood at
`base` before the run: the call draws this number modulo `2 ^ 64`. -/
def stampAt (base : Nat) (ops : List (Op D)) (i : Nat) : Nat :=
  base + (ops.take (i + 1)).countP Op.advances

theorem run_concat (bm : BucketMap D) (ops : List (Op D)) (op : Op D) :
    bm.run (ops ++ [op]) = (bm.run ops).apply op := by
  simp [run, List.foldl_append]

/-! ## The last touch of a key -/

theorem lastTouch_concat (ops : List (Op D)) (op : Op D) (key : String) :
    lastTouch (ops ++ [op]) key =
      if op.touch?.map (·.1) = some key then some ops.length else lastTouch ops key := by
  induction ops with
  | nil => by_cases touches : op.touch?.map (·.1) = some key <;> simp [lastTouch, touches]
  | cons o ops ih =>
    by_cases touches : op.touch?.map (·.1) = some key
    · simp [lastTouch, ih, touches]
    · simp only [List.cons_append, lastTouch, ih, touches, if_false]

/-- The call at the last touch of a key names the key. -/
theorem touch?_of_lastTouch {ops : List (Op D)} {key : String} {i : Nat}
    (last : lastTouch ops key = some i) :
    ∃ op now, ops[i]? = some op ∧ op.touch? = some (key, now) := by
  induction ops generalizing i with
  | nil => simp [lastTouch] at last
  | cons o ops ih =>
    simp only [lastTouch] at last
    split at last
    · rename_i j later
      cases last
      obtain ⟨op, now, found, touches⟩ := ih later
      exact ⟨op, now, by simpa using found, touches⟩
    · split_ifs at last with touches
      cases last
      obtain ⟨⟨k, now⟩, found, named⟩ := Option.map_eq_some_iff.1 touches
      exact ⟨o, now, rfl, by rw [found, ← named]⟩

/-! ## Stamps along a run -/

/-- A call that advances the sequence draws a larger number than every call before it. -/
theorem stampAt_lt {base : Nat} {ops : List (Op D)} {i j : Nat} (before : i < j) {op : Op D}
    (found : ops[j]? = some op) (advances : op.advances = true) :
    stampAt base ops i < stampAt base ops j := by
  have prefixCount : (ops.take (i + 1)).countP Op.advances ≤ (ops.take j).countP Op.advances :=
    (List.take_prefix_take_left before).sublist.countP_le
  have lastCount : (ops.take (j + 1)).countP Op.advances = (ops.take j).countP Op.advances + 1 := by
    rw [List.take_add_one, found, Option.toList_some, List.countP_append, List.countP_singleton,
      if_pos advances]
  unfold stampAt
  omega

/-- No call of a run counts past the run's advancing calls. -/
theorem stampAt_le (base : Nat) (ops : List (Op D)) (i : Nat) :
    stampAt base ops i ≤ base + ops.countP Op.advances :=
  Nat.add_le_add_left (List.take_sublist _ _).countP_le _

/-- A call that touches a key advances the sequence. -/
theorem advances_of_touch? {op : Op D} {x : String × Instant} (touches : op.touch? = some x) :
    op.advances = true := by
  simp [Op.advances, touches]

/-- The instants of two touching calls of a run whose instants never go back come in order. -/
theorem ClockMonotone.le {ops : List (Op D)} (clock : ClockMonotone ops) {i j : Nat}
    (before : i < j) {o o' : Op D} (found : ops[i]? = some o) (found' : ops[j]? = some o')
    {x y : String × Instant} (touches : o.touch? = some x) (touches' : o'.touch? = some y) :
    x.2 ≤ y.2 := by
  obtain ⟨bound, rfl⟩ := List.getElem?_eq_some_iff.1 found
  obtain ⟨bound', rfl⟩ := List.getElem?_eq_some_iff.1 found'
  have ordered := List.pairwise_iff_getElem.1 (List.pairwise_filterMap.1 clock) i j bound bound'
    before
  exact ordered x.2 (by simp [touches]) y.2 (by simp [touches'])

/-! ## What one call does to the buckets -/

section Touch

variable (dims : D) (now : Instant) (change : Bucket D → Bucket D)

/-- A contribution, evicting or not, sets the bucket under its key to a changed bucket stamped
at its instant with the next sequence number; what it evicts is what `evictOldest` evicts. -/
theorem touch_stamps (bm : BucketMap D) (key : String) :
    ∃ (c : Bucket D) (kept : BucketMap D),
      (bm.touch key dims now change).1 =
        ({ kept with seq := bm.seq + 1 } : BucketMap D).put key
          (change { c with lastSeen := now, stamp := bm.seq + 1 }) ∧
      ((kept = bm ∧ (bm.touch key dims now change).2.evicted = none) ∨
        bm.evictOldest = (kept, (bm.touch key dims now change).2.evicted)) := by
  cases found : bm.get? key with
  | some b =>
    rw [touch_of_get? dims now change found]
    exact ⟨b, bm, rfl, .inl ⟨rfl, rfl⟩⟩
  | none =>
    by_cases room : ∀ c, bm.capacity = some c → bm.size < c
    · rw [touch_of_room dims now change found room]
      exact ⟨⟨dims, 0, [], now, now, bm.seq + 1⟩, bm, rfl, .inl ⟨rfl, rfl⟩⟩
    · simp only [not_forall, not_lt] at room
      obtain ⟨c, capacity, full⟩ := room
      cases oldest : oldestKey bm.buckets with
      | none =>
        have empty := oldestKey_eq_none_iff.1 oldest
        rw [touch_of_empty dims now change empty]
        exact ⟨⟨dims, 0, [], now, now, bm.seq + 1⟩, bm, rfl, .inl ⟨rfl, rfl⟩⟩
      | some entry =>
        obtain ⟨k, old⟩ := entry
        rw [touch_of_full dims now change found capacity full oldest]
        exact ⟨⟨dims, 0, [], now, now, bm.seq + 1⟩, bm.erase k, rfl,
          .inr (evictOldest_of_oldestKey oldest)⟩

/-- Evicting keeps what it does not evict. -/
theorem get?_evictOldest {bm : BucketMap D} {x : String} {b : Bucket D}
    (found : bm.evictOldest.1.get? x = some b) : bm.get? x = some b := by
  cases oldest : oldestKey bm.buckets with
  | none => rwa [evictOldest, oldest] at found
  | some entry =>
    rw [evictOldest_of_oldestKey oldest, get?_erase] at found
    split_ifs at found
    exact found

/-- A contribution stamps the bucket under its key and keeps or evicts every other one, when
its change of the bucket leaves the stamp alone. -/
theorem get?_touch {change : Bucket D → Bucket D} {bm : BucketMap D} {key x : String}
    {b' : Bucket D} (found : (bm.touch key dims now change).1.get? x = some b')
    (keeps : ∀ b, (change b).lastSeen = b.lastSeen ∧ (change b).stamp = b.stamp) :
    (x = key ∧ b'.lastSeen = now ∧ b'.stamp = bm.seq + 1) ∨ (x ≠ key ∧ bm.get? x = some b') := by
  obtain ⟨c, kept, same, unevicted | evicted⟩ := touch_stamps dims now change bm key <;>
    rw [same, get?_put] at found <;>
    split_ifs at found with self
  · cases found
    exact .inl ⟨self, (keeps _).1, (keeps _).2⟩
  · rw [unevicted.1] at found
    exact .inr ⟨self, found⟩
  · cases found
    exact .inl ⟨self, (keeps _).1, (keeps _).2⟩
  · have kept : bm.evictOldest.1 = kept := by rw [evicted]
    exact .inr ⟨self, get?_evictOldest (kept ▸ found)⟩

theorem seq_touch (bm : BucketMap D) (key : String) :
    (bm.touch key dims now change).1.seq = bm.seq + 1 := by
  obtain ⟨c, kept, same, -⟩ := touch_stamps dims now change bm key
  rw [same, seq_put]

theorem evictOldest_of_touch {bm : BucketMap D} {key k : String}
    (evicted : (bm.touch key dims now change).2.evicted = some k) : bm.evictOldest.2 = some k := by
  obtain ⟨c, kept, -, ⟨-, unevicted⟩ | same⟩ := touch_stamps dims now change bm key
  · rw [evicted] at unevicted
    cases unevicted
  · rw [same, evicted]

end Touch

/-- A refresh stamps the bucket under its key, when there is one, and keeps every other one. -/
theorem get?_refresh {bm : BucketMap D} {key member x : String} {now : Instant} {b' : Bucket D}
    (found : (bm.refresh key member now).1.get? x = some b') :
    (x = key ∧ b'.lastSeen = now ∧ b'.stamp = bm.seq + 1) ∨ (x ≠ key ∧ bm.get? x = some b') := by
  cases present : bm.get? key with
  | none =>
    rw [refresh_of_absent present] at found
    change bm.get? x = some b' at found
    refine .inr ⟨?_, found⟩
    rintro rfl
    rw [present] at found
    cases found
  | some b =>
    rw [refresh_of_get? present, get?_put] at found
    by_cases self : x = key
    · rw [if_pos self] at found
      cases found
      exact .inl ⟨self, rfl, rfl⟩
    · rw [if_neg self] at found
      exact .inr ⟨self, found⟩

theorem seq_refresh (bm : BucketMap D) (key member : String) (now : Instant) :
    (bm.refresh key member now).1.seq = bm.seq + 1 := by
  cases present : bm.get? key with
  | none => rw [refresh_of_absent present]
  | some b => simp only [refresh_of_get? present, seq_put]

theorem seq_apply (bm : BucketMap D) (op : Op D) :
    (bm.apply op).seq = bm.seq + if op.advances then 1 else 0 := by
  cases op with
  | addMember key dims member now => simp [apply, addMember, seq_touch, Op.advances, Op.touch?]
  | addOccurrences key dims member n now =>
    by_cases zero : n = 0
    · simp [apply, zero, addOccurrences_zero, seq_refresh, Op.advances, Op.touch?]
    · simp [apply, addOccurrences, zero, seq_touch, Op.advances, Op.touch?]
  | refresh key member now => simp [apply, seq_refresh, Op.advances, Op.touch?]
  | removeMember key member =>
    cases present : bm.get? key with
    | none => simp [apply, removeMember_of_absent present, Op.advances, Op.touch?]
    | some b =>
      rw [apply, removeMember_of_get? present]
      split <;> simp [Op.advances, Op.touch?]
  | cleanup now maxIdle =>
    obtain ⟨p, cleaned⟩ := apply_cleanup_eq_filter bm now maxIdle
    simp [cleaned, Op.advances, Op.touch?]
  | evictOldest =>
    obtain ⟨p, evicted⟩ := evictOldest_eq_filter bm
    simp [apply, evicted, Op.advances, Op.touch?]

/-- A bucket found in a filtered map is the bucket of the whole map. -/
theorem get?_of_filter {bm bm' : BucketMap D} {p : String × Bucket D → Bool} (filtered : bm'.buckets = bm.buckets.filter p) {x : String}
    {b : Bucket D} (found : bm'.get? x = some b) : bm.get? x = some b := by
  rw [get?_eq_findKey?, filtered] at found
  exact findKey?_of_mem bm.ascending (List.mem_of_mem_filter (mem_of_findKey? found))

/-- Removing a member keeps the instant and the stamp of every bucket that stays. -/
theorem get?_removeMember {bm : BucketMap D} {key member x : String} {b' : Bucket D}
    (found : (bm.removeMember key member).1.get? x = some b') :
    ∃ b, bm.get? x = some b ∧ b'.lastSeen = b.lastSeen ∧ b'.stamp = b.stamp := by
  cases present : bm.get? key with
  | none =>
    rw [removeMember_of_absent present] at found
    exact ⟨b', found, rfl, rfl⟩
  | some b =>
    rw [removeMember_of_get? present] at found
    split at found
    · rw [get?_erase] at found
      split_ifs at found
      exact ⟨b', found, rfl, rfl⟩
    · -- the bucket under the key keeps its instant and stamp with fewer members
      rw [get?_put] at found
      split_ifs at found with self
      · cases found
        exact ⟨b, self ▸ present, rfl, rfl⟩
      · exact ⟨b', found, rfl, rfl⟩

/-- What one call does to the bucket under a key: the key it touches gets a bucket stamped with
the next sequence number at the call's instant, and every other live bucket was live before,
with its stamp and instant. -/
theorem get?_apply {bm : BucketMap D} (op : Op D) {x : String}
    {b' : Bucket D} (found : (bm.apply op).get? x = some b') :
    (∃ now, op.touch? = some (x, now) ∧ b'.lastSeen = now ∧ b'.stamp = bm.seq + 1) ∨
      (op.touch?.map (·.1) ≠ some x ∧
        ∃ b, bm.get? x = some b ∧ b'.lastSeen = b.lastSeen ∧ b'.stamp = b.stamp) := by
  -- the calls that touch a key: the touched key is stamped, every other one kept
  have touched : ∀ {key : String} {now : Instant},
      op.touch? = some (key, now) →
      (x = key ∧ b'.lastSeen = now ∧ b'.stamp = bm.seq + 1) ∨ (x ≠ key ∧ bm.get? x = some b') →
      (∃ now, op.touch? = some (x, now) ∧ b'.lastSeen = now ∧ b'.stamp = bm.seq + 1) ∨
        (op.touch?.map (·.1) ≠ some x ∧
          ∃ b, bm.get? x = some b ∧ b'.lastSeen = b.lastSeen ∧ b'.stamp = b.stamp) := by
    rintro key now touches (⟨rfl, seen, stamped⟩ | ⟨other, old⟩)
    · exact .inl ⟨now, touches, seen, stamped⟩
    · exact .inr ⟨by simp [touches, Ne.symm other], b', old, rfl, rfl⟩
  -- the calls that touch nothing: every bucket kept
  have untouched : op.touch? = none → bm.get? x = some b' →
      (op.touch?.map (·.1) ≠ some x ∧
        ∃ b, bm.get? x = some b ∧ b'.lastSeen = b.lastSeen ∧ b'.stamp = b.stamp) :=
    fun none old => ⟨by simp [none], b', old, rfl, rfl⟩
  cases op with
  | addMember key dims member now =>
    rw [apply, addMember] at found
    exact touched rfl (get?_touch dims now found fun _ => ⟨rfl, rfl⟩)
  | addOccurrences key dims member n now =>
    by_cases zero : n = 0
    · subst zero
      rw [apply, addOccurrences_zero] at found
      exact touched rfl (get?_refresh found)
    · simp only [apply, addOccurrences, zero, if_false] at found
      exact touched rfl (get?_touch dims now found fun _ => ⟨rfl, rfl⟩)
  | refresh key member now => exact touched rfl (get?_refresh found)
  | removeMember key member => exact .inr ⟨by simp [Op.touch?], get?_removeMember found⟩
  | cleanup now maxIdle =>
    obtain ⟨p, cleaned⟩ := apply_cleanup_eq_filter bm now maxIdle
    rw [cleaned] at found
    exact .inr (untouched rfl (get?_of_filter rfl found))
  | evictOldest => exact .inr (untouched rfl (get?_evictOldest found))

/-! ## The oldest bucket -/

/-- Buckets are compared by instant, then by the value of their stamp. -/
theorem older_iff {a b : Bucket D} :
    older a b = true ↔
      a.lastSeen.ms < b.lastSeen.ms ∨
        (a.lastSeen.ms = b.lastSeen.ms ∧ a.stamp.toNat < b.stamp.toNat) := by
  simp [older, UInt64.lt_iff_toNat_lt]

theorem older_irrefl (a : Bucket D) : older a a = false := by
  rw [← Bool.not_eq_true, older_iff]
  omega

theorem older_asymm {a b : Bucket D} (h : older a b = true) : older b a = false := by
  rw [older_iff] at h
  rw [← Bool.not_eq_true, older_iff]
  omega

/-- Of two buckets with different stamps, one is older. -/
theorem older_total {a b : Bucket D} (stamps : a.stamp ≠ b.stamp) :
    older a b = true ∨ older b a = true := by
  have values : a.stamp.toNat ≠ b.stamp.toNat := mt UInt64.toNat_inj.1 stamps
  rw [older_iff, older_iff]
  omega

/-- Not being older is transitive: buckets are ordered by instant, then by stamp. -/
theorem not_older_trans {a b c : Bucket D} (h : older b a = false) (h' : older c b = false) :
    older c a = false := by
  rw [← Bool.not_eq_true, older_iff] at h h' ⊢
  omega

/-- No bucket of a list is older than its oldest one. -/
theorem oldestKey_min {l : List (String × Bucket D)} {e : String × Bucket D}
    (oldest : oldestKey l = some e) : e ∈ l ∧ ∀ e' ∈ l, older e'.2 e.2 = false := by
  induction l generalizing e with
  | nil => simp [oldestKey] at oldest
  | cons entry rest ih =>
    obtain ⟨k, b⟩ := entry
    simp only [oldestKey] at oldest
    split at oldest
    · -- a list of one bucket
      rename_i none
      cases oldest
      rw [oldestKey_eq_none_iff.1 none]
      simp [older_irrefl]
    · rename_i k' b' restOldest
      obtain ⟨member, least⟩ := ih restOldest
      split at oldest
      · -- the oldest of the rest is older than the first bucket
        rename_i older'
        cases oldest
        refine ⟨List.mem_cons_of_mem _ member, fun e' listed => ?_⟩
        rcases List.mem_cons.1 listed with rfl | later
        · exact older_asymm older'
        · exact least e' later
      · rename_i notOlder
        cases oldest
        refine ⟨List.mem_cons_self, fun e' listed => ?_⟩
        rcases List.mem_cons.1 listed with rfl | later
        · exact older_irrefl _
        · exact not_older_trans (Bool.eq_false_iff.2 notOlder) (least e' later)

/-- A bucket no other is older than is the oldest, when no two buckets share a stamp. -/
theorem oldestKey_eq_of_min {l : List (String × Bucket D)} (distinct : (l.map (·.2.stamp)).Nodup)
    {e : String × Bucket D} (member : e ∈ l) (least : ∀ e' ∈ l, older e'.2 e.2 = false) :
    oldestKey l = some e := by
  obtain ⟨e₀, oldest⟩ : ∃ e₀, oldestKey l = some e₀ := by
    apply Option.ne_none_iff_exists'.1
    rw [Ne, oldestKey_eq_none_iff]
    exact List.ne_nil_of_mem member
  obtain ⟨member₀, least₀⟩ := oldestKey_min oldest
  rw [oldest]
  by_contra different
  have stamps : e₀.2.stamp ≠ e.2.stamp := fun same =>
    different (congrArg some (List.inj_on_of_nodup_map distinct member₀ member same))
  rcases older_total stamps with older₀ | older'
  · rw [least e₀ member₀] at older₀
    cases older₀
  · rw [least₀ e member] at older'
    cases older'

/-- When no two buckets share a stamp, the oldest does not depend on the order of the list. -/
theorem oldestKey_perm {l l' : List (String × Bucket D)} (distinct : (l.map (·.2.stamp)).Nodup)
    (perm : l'.Perm l) : oldestKey l' = oldestKey l := by
  cases oldest : oldestKey l with
  | none =>
    rw [oldestKey_eq_none_iff] at oldest ⊢
    exact (oldest ▸ perm).eq_nil
  | some e =>
    obtain ⟨member, least⟩ := oldestKey_min oldest
    exact oldestKey_eq_of_min ((perm.map _).nodup_iff.2 distinct) (perm.mem_iff.2 member)
      fun e' listed => least e' (perm.mem_iff.1 listed)

theorem evictOldest_snd (bm : BucketMap D) :
    bm.evictOldest.2 = (oldestKey bm.buckets).map (·.1) := by
  cases oldest : oldestKey bm.buckets with
  | none => simp [evictOldest, oldest]
  | some entry => rw [evictOldest_of_oldestKey oldest, Option.map_some]

/-! ## Every run -/

/-- What a run `ops` keeps of every live bucket of the map it reaches, from a map whose sequence
stood at `base`: the last call of the run that named the bucket's key touched it, at the
bucket's last-seen instant, and drew the bucket's stamp. Numbers are drawn modulo `2 ^ 64`. -/
structure Stamped (base : Nat) (ops : List (Op D)) (bm : BucketMap D) : Prop where
  /-- The sequence has advanced once per touching call. -/
  seq : bm.seq.toNat = (base + ops.countP Op.advances) % 2 ^ 64
  /-- Every live bucket carries the instant and number of its key's last touch. -/
  bucket : ∀ x b, bm.get? x = some b → ∃ i, lastTouch ops x = some i ∧
    (∃ op, ops[i]? = some op ∧ op.touch? = some (x, b.lastSeen)) ∧
    b.stamp.toNat = stampAt base ops i % 2 ^ 64

theorem stamped_start {bm : BucketMap D} (empty : bm.buckets = []) :
    Stamped bm.seq.toNat [] bm where
  seq := (Nat.mod_eq_of_lt bm.seq.toNat_lt).symm
  bucket x b found := by simp [get?_eq_findKey?, empty] at found

/-- Every call keeps every live bucket stamped by its key's last touch. -/
theorem Stamped.apply {base : Nat} {ops : List (Op D)} {bm : BucketMap D}
    (inv : Stamped base ops bm) (op : Op D) : Stamped base (ops ++ [op]) (bm.apply op) where
  seq := by
    rw [seq_apply, List.countP_append, List.countP_singleton]
    split
    · rw [UInt64.toNat_add, inv.seq, UInt64.toNat_one, Nat.mod_add_mod, Nat.add_assoc]
    · rw [UInt64.add_zero, inv.seq, Nat.add_zero]
  bucket x b' found := by
    rcases get?_apply op found with
      ⟨now, touches, seen, stamped⟩ | ⟨other, b, old, seen, stamped⟩
    · -- the call itself touched the key, drawing the sequence's next number
      refine ⟨ops.length, by simp [lastTouch_concat, touches], ⟨op, by simp, by rw [touches, seen]⟩, ?_⟩
      rw [stamped, UInt64.toNat_add, inv.seq, UInt64.toNat_one, Nat.mod_add_mod, stampAt,
        List.take_of_length_le (by simp), List.countP_append, List.countP_singleton,
        if_pos (advances_of_touch? touches), Nat.add_assoc]
    · -- the bucket kept its stamp from an earlier touch
      obtain ⟨i, last, ⟨o, atJ, touches⟩, stamp⟩ := inv.bucket x b old
      have bound : i < ops.length := (List.getElem?_eq_some_iff.1 atJ).1
      refine ⟨i, by rw [lastTouch_concat, if_neg other, last], ⟨o, ?_, by rw [seen, touches]⟩, ?_⟩
      · rw [List.getElem?_append_left bound, atJ]
      · rw [stamped, stamp, stampAt, stampAt, List.take_append_of_le_length (by omega)]

theorem stamped_run {start : BucketMap D} (empty : start.buckets = []) (ops : List (Op D)) :
    Stamped start.seq.toNat ops (start.run ops) := by
  induction ops using List.reverseRecOn with
  | nil => exact stamped_start empty
  | append_singleton ops op ih =>
    rw [run_concat]
    exact ih.apply op

/-! ## Stamps of live buckets -/

section Live

variable {base : Nat} {ops : List (Op D)} {bm : BucketMap D}

/-- While the sequence has not counted to `2 ^ 64`, a live bucket's stamp is the count at its
key's last touch. -/
theorem Stamped.bucket_exact (inv : Stamped base ops bm)
    (fits : base + ops.countP Op.advances < 2 ^ 64) {x : String} {b : Bucket D}
    (found : bm.get? x = some b) :
    ∃ i, lastTouch ops x = some i ∧
      (∃ op, ops[i]? = some op ∧ op.touch? = some (x, b.lastSeen)) ∧
      b.stamp.toNat = stampAt base ops i := by
  obtain ⟨i, last, touched, stamp⟩ := inv.bucket x b found
  exact ⟨i, last, touched, stamp.trans (Nat.mod_eq_of_lt ((stampAt_le base ops i).trans_lt fits))⟩

/-- Two live keys touched last by one call are one key. -/
theorem eq_of_lastTouch {x y : String} {i : Nat} (last : lastTouch ops x = some i)
    (last' : lastTouch ops y = some i) : x = y := by
  obtain ⟨o, now, found, touches⟩ := touch?_of_lastTouch last
  obtain ⟨o', now', found', touches'⟩ := touch?_of_lastTouch last'
  rw [found] at found'
  cases found'
  rw [touches] at touches'
  cases touches'
  rfl

/-- Of two live buckets, the one whose key was touched last earlier has the smaller stamp, while
the sequence has not wrapped. -/
theorem Stamped.stamp_lt (inv : Stamped base ops bm)
    (fits : base + ops.countP Op.advances < 2 ^ 64) {x y : String} {b c : Bucket D} {i j : Nat}
    (found : bm.get? x = some b) (found' : bm.get? y = some c)
    (last : lastTouch ops x = some i) (last' : lastTouch ops y = some j) (before : i < j) :
    b.stamp.toNat < c.stamp.toNat := by
  obtain ⟨i', last₁, -, stamp⟩ := inv.bucket_exact fits found
  obtain ⟨j', last₂, ⟨o, atJ, touches⟩, stamp'⟩ := inv.bucket_exact fits found'
  rw [last] at last₁
  rw [last'] at last₂
  cases last₁
  cases last₂
  rw [stamp, stamp']
  exact stampAt_lt before atJ (advances_of_touch? touches)

/-- No two live buckets share a stamp, while the sequence has not wrapped. -/
theorem Stamped.eq_of_stamp_eq (inv : Stamped base ops bm)
    (fits : base + ops.countP Op.advances < 2 ^ 64) {x y : String} {b c : Bucket D}
    (found : bm.get? x = some b) (found' : bm.get? y = some c) (same : b.stamp = c.stamp) :
    x = y := by
  obtain ⟨i, last, -⟩ := inv.bucket x b found
  obtain ⟨j, last', -⟩ := inv.bucket y c found'
  have values := congrArg UInt64.toNat same
  rcases lt_trichotomy i j with before | rfl | after
  · exact absurd values (Nat.ne_of_lt (inv.stamp_lt fits found found' last last' before))
  · exact eq_of_lastTouch last last'
  · exact absurd values.symm (Nat.ne_of_lt (inv.stamp_lt fits found' found last' last after))

theorem Stamped.nodup_stamps (inv : Stamped base ops bm)
    (fits : base + ops.countP Op.advances < 2 ^ 64) :
    (bm.buckets.map (·.2.stamp)).Nodup := by
  have keys : (bm.buckets.map (·.1)).Nodup := bm.ascending.nodup
  refine List.Nodup.map_on (fun e member e' member' same => ?_) keys.of_map
  have found : bm.get? e.1 = some e.2 := findKey?_of_mem bm.ascending member
  have found' : bm.get? e'.1 = some e'.2 := findKey?_of_mem bm.ascending member'
  have key : e.1 = e'.1 := inv.eq_of_stamp_eq fits found found' same
  rw [key, found'] at found
  exact Prod.ext key (Option.some.inj found).symm

/-- Under a run whose instants never go back, a live bucket touched last before another is
older than it. -/
theorem Stamped.older_of_lastTouch_lt (inv : Stamped base ops bm)
    (fits : base + ops.countP Op.advances < 2 ^ 64) (clock : ClockMonotone ops) {x y : String} {b c : Bucket D} (found : bm.get? x = some b) (found' : bm.get? y = some c)
    {i j : Nat} (last : lastTouch ops x = some i) (last' : lastTouch ops y = some j)
    (before : i < j) : older b c = true := by
  have stamp := inv.stamp_lt fits found found' last last' before
  obtain ⟨i', last₁, ⟨o, atI, touches⟩, -⟩ := inv.bucket x b found
  obtain ⟨j', last₂, ⟨o', atJ, touches'⟩, -⟩ := inv.bucket y c found'
  rw [last] at last₁
  rw [last'] at last₂
  cases last₁
  cases last₂
  have seen : b.lastSeen.ms ≤ c.lastSeen.ms := clock.le before atI atJ touches touches'
  rw [older_iff]
  omega

/-- Under a run whose instants never go back, a live bucket is older than another exactly when
its key was touched last earlier. -/
theorem Stamped.older_iff_lastTouch_lt (inv : Stamped base ops bm)
    (fits : base + ops.countP Op.advances < 2 ^ 64) (clock : ClockMonotone ops) {x y : String} {b c : Bucket D} (found : bm.get? x = some b) (found' : bm.get? y = some c)
    {i j : Nat} (last : lastTouch ops x = some i) (last' : lastTouch ops y = some j) :
    older b c = true ↔ i < j := by
  refine ⟨fun older' => ?_, inv.older_of_lastTouch_lt fits clock found found' last last'⟩
  rcases lt_trichotomy i j with before | rfl | after
  · exact before
  · -- one call touched both keys last, so they are one bucket
    have same := eq_of_lastTouch last last'
    rw [same, found'] at found
    cases found
    rw [older_irrefl] at older'
    cases older'
  · rw [older_asymm (inv.older_of_lastTouch_lt fits clock found' found last' last after)] at older'
    cases older'

/-- Under a run whose instants never go back, the oldest bucket is the least recently touched
one. -/
theorem Stamped.oldestKey_iff (inv : Stamped base ops bm)
    (fits : base + ops.countP Op.advances < 2 ^ 64) (clock : ClockMonotone ops) (key : String) :
    (∃ b, oldestKey bm.buckets = some (key, b)) ↔ LeastRecentlyTouched ops bm key := by
  constructor
  · rintro ⟨b, oldest⟩
    obtain ⟨member, least⟩ := oldestKey_min oldest
    have found : bm.get? key = some b := findKey?_of_mem bm.ascending member
    refine ⟨contains_iff.2 (List.mem_map_of_mem member), fun other present different => ?_⟩
    obtain ⟨c, found'⟩ := Option.isSome_iff_exists.1 present
    obtain ⟨i, last, -⟩ := inv.bucket key b found
    obtain ⟨j, last', -⟩ := inv.bucket other c found'
    -- the other bucket is not older, and its stamp differs, so it is younger
    have notOlder : older c b = false := least (other, c) (mem_of_findKey? found')
    have stamps : b.stamp ≠ c.stamp := fun same =>
      different (inv.eq_of_stamp_eq fits found found' same).symm
    have younger : older b c = true := (older_total stamps).resolve_right (by simp [notOlder])
    exact ⟨i, j, last, last',
      (inv.older_iff_lastTouch_lt fits clock found found' last last').1 younger⟩
  · rintro ⟨present, earliest⟩
    obtain ⟨b, found⟩ := Option.isSome_iff_exists.1 present
    refine ⟨b, oldestKey_eq_of_min (inv.nodup_stamps fits) (mem_of_findKey? found)
      fun e member => ?_⟩
    have found' : bm.get? e.1 = some e.2 := findKey?_of_mem bm.ascending member
    by_cases same : e.1 = key
    · rw [same, found] at found'
      rw [← Option.some.inj found', older_irrefl]
    · obtain ⟨i, j, last, last', before⟩ :=
        earliest e.1 (by simp [contains, found']) same
      exact older_asymm (inv.older_of_lastTouch_lt fits clock found found' last last' before)

end Live

/-- Over every run from an empty map whose sequence does not wrap, that is which draws, from
where its sequence stood, fewer than `2 ^ 64` numbers, however its calls' instants go: no two
buckets share a stamp, so the least bucket by last-seen instant and stamp is unique, it is the
one evicted, and which one it is does not depend on the order the buckets are listed in. When
the instants never go back, the bucket evicted, by `evictOldest` or by a contribution to a full
map, is the one touched longest ago. -/
theorem evicts_least_recently_touched {start : BucketMap D} (fresh : start.buckets = [])
    (ops : List (Op D)) (fits : start.seq.toNat + ops.countP Op.advances < 2 ^ 64) :
    let bm := start.run ops
    (bm.buckets.map (·.2.stamp)).Nodup ∧
    (∀ e ∈ bm.buckets, (∀ e' ∈ bm.buckets, older e'.2 e.2 = false) →
      bm.evictOldest.2 = some e.1) ∧
    (∀ l, l.Perm bm.buckets → (oldestKey l).map (·.1) = bm.evictOldest.2) ∧
    (ClockMonotone ops →
      (∀ k, bm.evictOldest.2 = some k ↔ LeastRecentlyTouched ops bm k) ∧
      (∀ key dims member now k, (bm.addMember key dims member now).2.evicted = some k →
        LeastRecentlyTouched ops bm k) ∧
      (∀ key dims member n now k, (bm.addOccurrences key dims member n now).2.evicted = some k →
        LeastRecentlyTouched ops bm k)) := by
  intro bm
  have inv := stamped_run fresh ops
  have distinct := inv.nodup_stamps fits
  refine ⟨distinct, fun e member least => ?_, fun l perm => ?_, fun clock => ?_⟩
  · rw [evictOldest_snd, oldestKey_eq_of_min distinct member least, Option.map_some]
  · rw [evictOldest_snd, oldestKey_perm distinct perm]
  · have evicts : ∀ k, bm.evictOldest.2 = some k ↔ LeastRecentlyTouched ops bm k := by
      intro k
      rw [← inv.oldestKey_iff fits clock k, evictOldest_snd, Option.map_eq_some_iff]
      constructor
      · rintro ⟨⟨k', b⟩, oldest, rfl⟩
        exact ⟨b, oldest⟩
      · rintro ⟨b, oldest⟩
        exact ⟨(k, b), oldest, rfl⟩
    refine ⟨evicts, fun key dims member now k evicted => ?_,
      fun key dims member n now k evicted => ?_⟩
    · exact (evicts k).1 (evictOldest_of_touch dims now _ evicted)
    · by_cases zero : n = 0
      · simp [addOccurrences, zero] at evicted
      · simp only [addOccurrences, zero, if_false] at evicted
        exact (evicts k).1 (evictOldest_of_touch dims now _ evicted)

/-- Two buckets first touched at one instant, the first refreshed after the second was made:
the second is the one touched longest ago, and it is evicted. -/
theorem refreshed_bucket_outlives_later_one :
    let ops : List (Op Unit) :=
      [.addMember "a" () "x" ⟨0⟩, .addMember "b" () "y" ⟨0⟩, .refresh "a" "" ⟨0⟩]
    let bm := (withCapacity 2 : BucketMap Unit).run ops
    (withCapacity 2 : BucketMap Unit).buckets = [] ∧
      (withCapacity 2 : BucketMap Unit).seq.toNat + ops.countP Op.advances < 2 ^ 64 ∧
      ClockMonotone ops ∧ LeastRecentlyTouched ops bm "b" := by
  intro ops bm
  have fits : (withCapacity 2 : BucketMap Unit).seq.toNat + ops.countP Op.advances < 2 ^ 64 := by
    decide
  have clock : ClockMonotone ops := by decide
  have evicted : bm.evictOldest.2 = some "b" := by decide
  exact ⟨rfl, fits, clock,
    (((evicts_least_recently_touched rfl ops fits).2.2.2 clock).1 "b").1 evicted⟩

/-! ## When the sequence wraps -/

/-- Refreshing a missing key, again and again, only advances the sequence. -/
theorem run_replicate_refresh_absent {bm : BucketMap D} {key : String}
    (absent : bm.get? key = none) (member : String) (now : Instant) (n : Nat) :
    bm.run (List.replicate n (.refresh key member now)) = { bm with seq := bm.seq + UInt64.ofNat n } := by
  induction n generalizing bm with
  | zero => simp
  | succ n ih =>
    have still : ({ bm with seq := bm.seq + 1 } : BucketMap D).get? key = none := absent
    have count : bm.seq + 1 + UInt64.ofNat n = bm.seq + UInt64.ofNat (n + 1) := by
      rw [UInt64.ofNat_add, UInt64.ofNat_one, add_assoc, add_comm 1]
    rw [List.replicate_succ, run_cons, apply, refresh_of_absent absent]
    dsimp only
    rw [ih still]
    dsimp only
    rw [count]

/-- A bucket made, `2 ^ 64 - 1` refreshes of a missing key, and a second bucket made: the
sequence has wrapped, and the two buckets share the stamp 1. -/
theorem wrapped_sequence_repeats_stamp :
    let ops : List (Op Unit) := .addMember "a" () "x" ⟨0⟩ ::
      (List.replicate (2 ^ 64 - 1) (.refresh "z" "" ⟨0⟩) ++ [.addMember "b" () "y" ⟨0⟩])
    (empty : BucketMap Unit).buckets = [] ∧
      ((empty : BucketMap Unit).run ops).buckets.map (fun e => (e.1, e.2.stamp)) =
        [("a", 1), ("b", 1)] ∧
      ¬(((empty : BucketMap Unit).run ops).buckets.map (·.2.stamp)).Nodup := by
  intro ops
  let made := (empty : BucketMap Unit).apply (.addMember "a" () "x" ⟨0⟩)
  -- after the first bucket the refreshes of `z` find nothing and only count on
  have absent : made.get? "z" = none := by decide
  have reduced : (empty : BucketMap Unit).run ops =
      ({ made with seq := made.seq + UInt64.ofNat (2 ^ 64 - 1) } : BucketMap Unit).apply
        (.addMember "b" () "y" ⟨0⟩) := by
    rw [run_cons, run_concat, run_replicate_refresh_absent absent]
  have stamps : ((empty : BucketMap Unit).run ops).buckets.map (fun e => (e.1, e.2.stamp)) =
      [("a", 1), ("b", 1)] := by
    rw [reduced]
    decide
  have shared : ((empty : BucketMap Unit).run ops).buckets.map (·.2.stamp) = [1, 1] := by
    rw [reduced]
    decide
  refine ⟨rfl, stamps, fun distinct => ?_⟩
  rw [shared] at distinct
  exact absurd distinct (by decide)

end StateMetrics.BucketMap
