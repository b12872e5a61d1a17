import Mathlib
import StateMetrics.Json.Path

/-! # Dotted paths resolve segment by segment

A dotted path is cut at every dot into its segments, the empty ones included, and a value is
looked up by following the segments one object at a time. Cutting commutes with joining at a
dot: the segments of `p.q` are those of `p` followed by those of `q` (`splitDots_append_dot`),
whatever dots `p` and `q` hold themselves, so an empty segment such as the middle one of `a..b`
is followed like any other. Looking up `p.q` is then looking up `p` and `q` in turn, a path
without a dot is one member of an object, and anything but an object on the way ends the
lookup with nothing.

Both parts must be non-empty for the first law: the empty path names nothing, while `.q` and
`p.` name the empty key before or after the other part.

Main statement: `lookup_resolves_segmentwise`. -/

namespace StateMetrics.Json

/-! ## Cutting at dots -/

theorem splitDots_ne_nil (cs : List Char) : splitDots cs ≠ [] := by
  cases cs with
  | nil => simp [splitDots]
  | cons c rest =>
    unfold splitDots
    split_ifs
    · simp
    · split <;> simp

/-- Cutting a text joined at a dot gives the cuts of both sides. -/
theorem splitDots_append_dot (a b : List Char) :
    splitDots (a ++ '.' :: b) = splitDots a ++ splitDots b := by
  induction a with
  | nil => simp [splitDots]
  | cons c rest ih =>
    by_cases dot : c = '.'
    · simp [splitDots, dot, ih]
    · -- the first segment of `rest` grows by `c` on both sides
      obtain ⟨s, ss, cut⟩ := List.exists_cons_of_ne_nil (splitDots_ne_nil rest)
      simp [splitDots, dot, ih, cut]

/-- A text without a dot is one segment. -/
theorem splitDots_of_not_mem {cs : List Char} (noDot : '.' ∉ cs) : splitDots cs = [cs] := by
  induction cs with
  | nil => rfl
  | cons c rest ih =>
    simp only [List.mem_cons, not_or] at noDot
    have notDot : c ≠ '.' := fun same => noDot.1 same.symm
    simp [splitDots, notDot, ih noDot.2]

theorem segments_append_dot (p q : String) :
    segments (p ++ "." ++ q) = segments p ++ segments q := by
  simp [segments, String.toList_append, splitDots_append_dot]

example : segments "a..b" = ["a", "", "b"] := by decide

theorem segments_of_not_mem {p : String} (noDot : '.' ∉ p.toList) : segments p = [p] := by
  simp [segments, splitDots_of_not_mem noDot]

/-! ## Following segments -/

/-- Following two runs of keys is following the first, then the second from where it ends. -/
theorem follow_append (v : Json) (keys keys' : List String) :
    follow v (keys ++ keys') = (follow v keys).bind (follow · keys') := by
  simp only [follow, List.foldlM_append]
  rfl

theorem follow_cons (v : Json) (key : String) (keys : List String) :
    follow v (key :: keys) = (v.get? key).bind (follow · keys) := by
  simp only [follow, List.foldlM_cons]
  rfl

theorem lookup_of_ne_empty (v : Json) {path : String} (nonempty : path ≠ "") :
    lookup v path = follow v (segments path) := by
  have notEmpty : path.isEmpty = false := by
    cases empty : path.isEmpty
    · rfl
    · exact absurd (String.isEmpty_iff.1 empty) nonempty
  simp [lookup, notEmpty]

/-! ## Lookup -/

/-- Looking up `p.q` is looking up `p`, then `q` in what was found. -/
theorem lookup_append_dot (v : Json) {p q : String} (hp : p ≠ "") (hq : q ≠ "") :
    lookup v (p ++ "." ++ q) = (lookup v p).bind (lookup · q) := by
  have joined : p ++ "." ++ q ≠ "" := by
    intro empty
    have chars := congrArg String.length empty
    simp at chars
  have inner : (fun w => lookup w q) = fun w => follow w (segments q) :=
    funext fun w => lookup_of_ne_empty w hq
  rw [lookup_of_ne_empty v joined, segments_append_dot, follow_append, lookup_of_ne_empty v hp,
    inner]

/-- A path without a dot is one member of an object. -/
theorem lookup_of_not_mem_dot (v : Json) {p : String} (hp : p ≠ "") (noDot : '.' ∉ p.toList) :
    lookup v p = v.asObject?.bind (lookupMember p) := by
  rw [lookup_of_ne_empty v hp, segments_of_not_mem noDot, follow_cons]
  cases v <;> simp [get?, asObject?, follow]

/-- Nothing lies behind a value that is not an object. -/
theorem lookup_of_not_object {v : Json} (notObject : v.asObject? = none) {path : String}
    (nonempty : path ≠ "") : lookup v path = none := by
  obtain ⟨key, keys, cut⟩ := List.exists_cons_of_ne_nil (splitDots_ne_nil path.toList)
  have stuck : ∀ key, v.get? key = none := by
    intro key
    cases v <;> simp_all [get?, asObject?]
  rw [lookup_of_ne_empty v nonempty, segments, cut, List.map_cons, follow_cons, stuck,
    Option.bind_none]

/-- A dotted path is resolved segment by segment: `p.q` is `p` and then `q`, a path without a
dot is one member of an object, and a value on the way that is not an object ends the lookup. -/
theorem lookup_resolves_segmentwise (v : Json) {p : String} (hp : p ≠ "") :
    (∀ q, q ≠ "" → lookup v (p ++ "." ++ q) = (lookup v p).bind (lookup · q)) ∧
      ('.' ∉ p.toList → lookup v p = v.asObject?.bind (lookupMember p)) ∧
      (∀ q, q ≠ "" → ∀ w, lookup v p = some w → w.asObject? = none →
        lookup v (p ++ "." ++ q) = none) := by
  refine ⟨fun q hq => lookup_append_dot v hp hq, lookup_of_not_mem_dot v hp, ?_⟩
  intro q hq w found notObject
  rw [lookup_append_dot v hp hq, found, Option.bind_some, lookup_of_not_object notObject hq]

/-- The resource of the extraction tests: a replica count and a list of tags under `spec`. -/
def sampleResource : Json :=
  .obj [("metadata", .obj [("name", .str "web"), ("namespace", .str "prod")]),
        ("spec", .obj [("replicas", .ofNat 3), ("tags", .arr [.str "a", .str "b"])])]

theorem sample_spec_resolves_segmentwise :
    "spec" ≠ "" ∧
      (∀ q, q ≠ "" → lookup sampleResource ("spec" ++ "." ++ q) =
          (lookup sampleResource "spec").bind (lookup · q)) ∧
      ('.' ∉ "spec".toList →
        lookup sampleResource "spec" = sampleResource.asObject?.bind (lookupMember "spec")) ∧
      (∀ q, q ≠ "" → ∀ w, lookup sampleResource "spec" = some w → w.asObject? = none →
        lookup sampleResource ("spec" ++ "." ++ q) = none) :=
  ⟨by decide, lookup_resolves_segmentwise sampleResource (by decide)⟩

end StateMetrics.Json
