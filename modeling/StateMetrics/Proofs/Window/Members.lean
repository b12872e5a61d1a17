import Mathlib
import StateMetrics.Proofs.Window.Operations

/-! # Bucket counts are member numbers

The pod aggregator drives its bucket map by four calls: adding a member, removing a member,
cleaning up and evicting (`Op.byMembers`). Each of them keeps every live bucket counting its
members (`CountsMembers`): the members are distinct, kept ascending, there is one at least, and
the count is their number. Adding recounts after inserting the member, even the empty name;
removing recounts after taking it out and deletes a bucket left without members; cleaning up
and evicting only drop whole buckets.

Adding occurrences and refreshing are left out on purpose: they add to the count without a
member, or a member without a count.

So removing a member answers `true` exactly when it deletes the bucket under its key, and that
happens exactly when the member was the bucket's only one.

Main statement: `member_calls_count_members`. -/

namespace StateMetrics.BucketMap

variable {D : Type}

/-- Whether a call is one the pod aggregator makes: adding or removing a member, cleaning up,
or evicting. -/
def Op.byMembers : Op D → Bool
  | .addMember .. => true
  | .removeMember .. => true
  | .cleanup .. => true
  | .evictOldest => true
  | .addOccurrences .. => false
  | .refresh .. => false

/-- A bucket counts its members: they are distinct and ascending, there is one at least, and
the count is their number. -/
structure CountsMembers (b : Bucket D) : Prop where
  sorted : b.members.Pairwise (· < ·)
  nonempty : b.members ≠ []
  count : b.count = b.members.length

/-- Every bucket of a map counts its members. -/
def MembersCounted (bm : BucketMap D) : Prop := ∀ e ∈ bm.buckets, CountsMembers e.2

theorem MembersCounted.of_get? {bm : BucketMap D} (inv : MembersCounted bm) {key : String}
    {b : Bucket D} (found : bm.get? key = some b) : CountsMembers b :=
  inv (key, b) (mem_of_findKey? ((get?_eq_findKey? bm key) ▸ found))

theorem MembersCounted.filter {bm bm' : BucketMap D} (inv : MembersCounted bm)
    {p : String × Bucket D → Bool} (filtered : bm'.buckets = bm.buckets.filter p) :
    MembersCounted bm' := by
  intro e member
  rw [filtered] at member
  exact inv e (List.mem_of_mem_filter member)

theorem MembersCounted.setBucket {bm bm' : BucketMap D} (inv : MembersCounted bm) {key : String}
    {b : Bucket D} (set : bm'.buckets = BucketMap.setBucket key b bm.buckets)
    (counts : CountsMembers b) : MembersCounted bm' := by
  intro e member
  rw [set, setBucket_eq_insertSorted] at member
  rcases mem_insertSorted member with rfl | old
  · exact counts
  · exact inv e old

/-! ## One call -/

/-- Adding a member recounts the bucket after inserting it, into the members found or into a
fresh bucket's empty ones. -/
theorem MembersCounted.addMember {bm : BucketMap D} (inv : MembersCounted bm) (key : String)
    (dims : D) (member : String) (now : Instant) :
    MembersCounted (bm.addMember key dims member now).1 := by
  have inserted : ∀ {b : Bucket D}, b.members.Pairwise (· < ·) →
      CountsMembers { b with members := insertMember member b.members,
                             count := (insertMember member b.members).length } :=
    fun sorted => ⟨pairwise_insertMember member sorted, insertMember_ne_nil _ _, rfl⟩
  exact forall_mem_touch (P := fun e => CountsMembers e.2) inv
    (fun b found => inserted (inv.of_get? found).sorted) (inserted List.Pairwise.nil)

theorem MembersCounted.removeMember {bm : BucketMap D} (inv : MembersCounted bm)
    (key member : String) : MembersCounted (bm.removeMember key member).1 := by
  cases present : bm.get? key with
  | none =>
    rw [removeMember_of_absent present]
    exact inv
  | some b =>
    rw [removeMember_of_get? present]
    split_ifs with emptied
    · exact inv.filter rfl
    · -- the members left are still ascending, and there is one at least
      refine inv.setBucket rfl ⟨(inv.of_get? present).sorted.filter _, ?_, rfl⟩
      simpa only [List.isEmpty_iff] using emptied

theorem MembersCounted.apply {bm : BucketMap D} (inv : MembersCounted bm) {op : Op D}
    (byMembers : op.byMembers = true) : MembersCounted (bm.apply op) := by
  cases op with
  | addMember key dims member now => exact inv.addMember key dims member now
  | removeMember key member => exact inv.removeMember key member
  | cleanup now maxIdle =>
    obtain ⟨p, cleaned⟩ := apply_cleanup_eq_filter bm now maxIdle
    rw [cleaned]
    exact inv.filter rfl
  | evictOldest =>
    obtain ⟨p, evicted⟩ := evictOldest_eq_filter bm
    rw [BucketMap.apply, evicted]
    exact inv.filter rfl
  | addOccurrences => cases byMembers
  | refresh => cases byMembers

/-- Every run of the pod aggregator's calls keeps every bucket counting its members. -/
theorem MembersCounted.run {bm : BucketMap D} (inv : MembersCounted bm) {ops : List (Op D)}
    (byMembers : ∀ op ∈ ops, op.byMembers = true) : MembersCounted (bm.run ops) := by
  induction ops generalizing bm with
  | nil => exact inv
  | cons op rest ih =>
    rw [run_cons]
    exact ih (inv.apply (byMembers op List.mem_cons_self)) fun o member =>
      byMembers o (List.mem_cons_of_mem op member)

/-! ## What removing a member answers -/

/-- Removing a member answers true exactly when it deletes the bucket under the key. -/
theorem removeMember_snd_iff_deletes (bm : BucketMap D) (key member : String) :
    (bm.removeMember key member).2 = true ↔
      bm.contains key = true ∧ (bm.removeMember key member).1.contains key = false := by
  cases present : bm.get? key with
  | none =>
    rw [removeMember_of_absent present]
    simp [contains, present]
  | some b =>
    have known : bm.contains key = true := by simp [contains, present]
    rw [removeMember_of_get? present]
    split_ifs
    · refine iff_of_true rfl ⟨known, ?_⟩
      simp [contains, get?_eq_findKey?, eraseKey, findKey?_filter_ne]
    · refine iff_of_false (by simp) fun deleted => ?_
      have gone := deleted.2
      simp [contains, get?_eq_findKey?, setBucket_eq_insertSorted, findKey?_insertSorted] at gone

/-- A bucket that counts its members loses them all to the removal of `m` exactly when `m` is
its only member. -/
theorem CountsMembers.filter_ne_isEmpty_iff {b : Bucket D} (counts : CountsMembers b)
    (m : String) : (b.members.filter (· != m)).isEmpty ↔ b.members = [m] := by
  constructor
  · intro emptied
    have allM : ∀ x ∈ b.members, x = m := by
      simpa [List.isEmpty_iff, List.filter_eq_nil_iff] using emptied
    obtain ⟨first, rest, split⟩ := List.exists_cons_of_ne_nil counts.nonempty
    have sorted := counts.sorted
    rw [split] at sorted allM ⊢
    have head : first = m := allM first List.mem_cons_self
    -- a second member would be both `m` and above `m`
    have tail : rest = [] := List.eq_nil_iff_forall_not_mem.2 fun y later => by
      have above := List.rel_of_pairwise_cons sorted later
      rw [head, allM y (List.mem_cons_of_mem _ later)] at above
      exact lt_irrefl m above
    rw [head, tail]
  · intro only
    simp [only]

/-- In a map whose buckets count their members, removing `m` answers true exactly when `m` is
the only member of the bucket under the key. -/
theorem MembersCounted.removeMember_snd_iff {bm : BucketMap D} (inv : MembersCounted bm)
    (key member : String) :
    (bm.removeMember key member).2 = true ↔
      ∃ b, bm.get? key = some b ∧ b.members = [member] := by
  cases present : bm.get? key with
  | none =>
    rw [removeMember_of_absent present]
    simp
  | some b =>
    have sole : (∃ c, some b = some c ∧ c.members = [member]) ↔ b.members = [member] := by
      simp
    rw [removeMember_of_get? present, sole, ← (inv.of_get? present).filter_ne_isEmpty_iff member]
    split_ifs with emptied <;> simp [emptied]

/-- Over every run of the pod aggregator's calls from an empty map, every live bucket's count is
the number of its members, which are distinct and one at least; and removing a member then
answers true exactly when it deletes the bucket under the key, which is exactly when the member
was the bucket's only one. -/
theorem member_calls_count_members {start : BucketMap D} (empty : start.buckets = [])
    (ops : List (Op D)) (byMembers : ∀ op ∈ ops, op.byMembers = true) :
    let bm := start.run ops
    (∀ k b, bm.get? k = some b →
      b.count = b.members.length ∧ b.members.Nodup ∧ 0 < b.count) ∧
    ∀ key member,
      ((bm.removeMember key member).2 = true ↔
        bm.contains key = true ∧ (bm.removeMember key member).1.contains key = false) ∧
      ((bm.removeMember key member).2 = true ↔
        ∃ b, bm.get? key = some b ∧ b.members = [member]) := by
  intro bm
  have start_counted : MembersCounted start := by
    intro e member
    rw [empty] at member
    cases member
  have inv : MembersCounted bm := start_counted.run byMembers
  refine ⟨fun k b found => ?_, fun key member =>
    ⟨removeMember_snd_iff_deletes bm key member, inv.removeMember_snd_iff key member⟩⟩
  have counts := inv.of_get? found
  have positive : 0 < b.members.length := List.length_pos_iff.2 counts.nonempty
  exact ⟨counts.count, counts.sorted.imp ne_of_lt, counts.count ▸ positive⟩

/-- The calls of the member-count tests: `a` and `b` join `ns/Running`, `a` joins again, and
`a` leaves. -/
def memberTestCalls : List (Op Unit) :=
  [.addMember "ns/Running" () "a" ⟨0⟩, .addMember "ns/Running" () "b" ⟨0⟩,
   .addMember "ns/Running" () "a" ⟨0⟩, .removeMember "ns/Running" "a"]

theorem member_test_calls_count_members :
    (empty : BucketMap Unit).buckets = [] ∧ (∀ op ∈ memberTestCalls, op.byMembers = true) ∧
      let bm := (empty : BucketMap Unit).run memberTestCalls
      (∀ k b, bm.get? k = some b →
        b.count = b.members.length ∧ b.members.Nodup ∧ 0 < b.count) ∧
      ∀ key member,
        ((bm.removeMember key member).2 = true ↔
          bm.contains key = true ∧ (bm.removeMember key member).1.contains key = false) ∧
        ((bm.removeMember key member).2 = true ↔
          ∃ b, bm.get? key = some b ∧ b.members = [member]) :=
  ⟨rfl, by decide, member_calls_count_members rfl memberTestCalls (by decide)⟩

end StateMetrics.BucketMap
