import Mathlib
import StateMetrics.Proofs.Entries
import StateMetrics.Json.Ordered
import StateMetrics.Crd.Samples

/-! # Samples of map and condition metrics

A map-state metric and a conditions metric each read a collection inside a resource and give
one sample for every item of it that qualifies, and nothing for any other.

A map-state metric reads the map at its path. An entry qualifies when it is an object holding a
non-empty string at the value path, a dotted path inside the entry; the sample is labelled with
the entry's key and that string, at value one. The members of every object a watch hands over
come in strictly ascending key order at every depth (`Json.isOrdered`, shown of every read and
watched object in `Proofs/Kube/Ordered` and `Proofs/Watch/Ordered`), so the samples come in
ascending key order, one for each qualifying key (`mapState_samples_follow_entries`).

A conditions metric reads the array at its path. An item qualifies when it is an object whose
type field, a member of the item itself and not a path, is a non-empty string; the sample is
labelled with the type, status and reason members (empty when absent or not strings), at value
one when the status is `true` in any mix of ASCII letter case and zero otherwise
(`isTrueStatus_iff`). The field names default to `type`, `status` and `reason` where the
configuration leaves them out or empty (`conditions_samples_follow_items`). -/

namespace StateMetrics

open StateMetrics.Metric

namespace Json

/-! ## Ordered values -/

/-- The value of a member of an ordered object is ordered. -/
theorem isOrdered_of_lookupMember {members : List (String × Json)} {key : String} {v : Json}
    (ordered : membersOrdered members = true) (found : lookupMember key members = some v) :
    v.isOrdered = true := by
  induction members with
  | nil => cases found
  | cons entry rest ih =>
    obtain ⟨k, w⟩ := entry
    simp only [membersOrdered, Bool.and_eq_true] at ordered
    simp only [lookupMember] at found
    split_ifs at found
    · cases found
      exact ordered.1
    · exact ih ordered.2 found

theorem isOrdered_get? {v w : Json} {key : String} (ordered : v.isOrdered = true)
    (found : v.get? key = some w) : w.isOrdered = true := by
  cases v with
  | obj members => exact isOrdered_of_lookupMember (isOrdered_obj.1 ordered).2 found
  | _ => cases found

/-- Whatever keys lead to inside an ordered value is ordered. -/
theorem isOrdered_follow {v w : Json} {keys : List String} (ordered : v.isOrdered = true)
    (found : follow v keys = some w) : w.isOrdered = true := by
  induction keys generalizing v with
  | nil =>
    cases found
    exact ordered
  | cons key rest ih =>
    -- one step through an object at each key
    rw [follow, List.foldlM_cons] at found
    cases step : v.get? key with
    | none => simp [step] at found
    | some u =>
      simp only [step, Option.bind_eq_bind, Option.bind_some] at found
      exact ih (isOrdered_get? ordered step) found

theorem isOrdered_lookup {v w : Json} {path : String} (ordered : v.isOrdered = true)
    (found : lookup v path = some w) : w.isOrdered = true := by
  unfold lookup at found
  split_ifs at found
  exact isOrdered_follow ordered found

/-- The map a path leads to inside an ordered value has its keys in strictly ascending order. -/
theorem ascending_extractMap {v : Json} {path : String} {members : List (String × Json)}
    (ordered : v.isOrdered = true) (found : extractMap v path = some members) :
    Ascending members := by
  obtain ⟨w, reached, isMap⟩ := Option.bind_eq_some_iff.1 found
  cases w with
  | obj ms =>
    cases isMap
    exact (isOrdered_obj.1 (isOrdered_lookup ordered reached)).1
  | _ => cases isMap

/-! ## Strings at paths -/

@[simp] theorem lookup_empty (v : Json) : lookup v "" = none := rfl

@[simp] theorem extractString_empty (v : Json) : extractString v "" = "" := rfl

theorem extractString_of_lookup {v : Json} {path s : String}
    (found : lookup v path = some (.str s)) : extractString v path = s := by
  simp [extractString, found, asString?]

/-- A non-empty string read at a path is the string the path leads to. -/
theorem lookup_of_extractString_ne {v : Json} {path : String}
    (nonempty : extractString v path ≠ "") :
    lookup v path = some (.str (extractString v path)) := by
  unfold extractString at nonempty ⊢
  cases reached : lookup v path with
  | none => simp [reached] at nonempty
  | some w =>
    cases w <;> simp_all [asString?]

theorem extractString_ne_empty_iff {v : Json} {path s : String} :
    extractString v path = s ∧ s ≠ "" ↔ lookup v path = some (.str s) ∧ s ≠ "" := by
  constructor
  · rintro ⟨rfl, nonempty⟩
    exact ⟨lookup_of_extractString_ne nonempty, nonempty⟩
  · rintro ⟨found, nonempty⟩
    exact ⟨extractString_of_lookup found, nonempty⟩

end Json

namespace Descriptor

/-! ## Map states -/

/-- The map entries a map-state metric samples, in the map's order, with their states. -/
theorem mapStateSamples_eq (valuePath : String) (common : List String)
    (entries : List (String × Json)) :
    mapStateSamples valuePath common entries =
      ((entries.filter fun e => e.2.isObject && Json.extractString e.2 valuePath != "").map
        fun e => (e.1, Json.extractString e.2 valuePath)).map
          fun s => ⟨common ++ [s.1, s.2], 1.0⟩ := by
  induction entries with
  | nil => rfl
  | cons entry rest ih =>
    obtain ⟨key, entry⟩ := entry
    by_cases kept : entry.isObject = true ∧ Json.extractString entry valuePath ≠ ""
    · simp [mapStateSamples, kept, ih]
    · simp only [not_and_or, Bool.not_eq_true, ne_eq, not_not] at kept
      rcases kept with notObject | empty <;> simp [mapStateSamples, *]

theorem resourceSamples_of_mapState {d : Descriptor} (kind : d.kind = .mapState) (obj : Json)
    (common : List String) :
    d.resourceSamples obj common =
      mapStateSamples d.spec.valuePath common ((Json.extractMap obj d.spec.path).getD []) := by
  simp [resourceSamples, kind]

/-- For a map-state metric, a resource whose objects are ordered gives one sample for each
entry of the map at the metric's path that is an object with a non-empty string at the value
path: labelled with the common values, the key and that string, at value one, in ascending key
order, and nothing else. So a map of which `K` entries qualify gives `K` samples, and there are
none when the value path is empty or the path leads to no map. -/
theorem mapState_samples_follow_entries (d : Descriptor) (kind : d.kind = .mapState) (obj : Json)
    (ordered : obj.isOrdered = true) (common : List String) :
    (∃ states : List (String × String),
      d.resourceSamples obj common = states.map (fun s => ⟨common ++ [s.1, s.2], 1.0⟩) ∧
      Ascending states ∧
      (∀ key state, (key, state) ∈ states ↔
        ∃ entries entry, Json.extractMap obj d.spec.path = some entries ∧ (key, entry) ∈ entries ∧
          entry.isObject = true ∧ Json.lookup entry d.spec.valuePath = some (.str state) ∧
          state ≠ "") ∧
      states.length = ((Json.extractMap obj d.spec.path).getD []).countP
        fun e => e.2.isObject && Json.extractString e.2 d.spec.valuePath != "") ∧
    (d.spec.valuePath = "" → d.resourceSamples obj common = []) ∧
    (Json.extractMap obj d.spec.path = none → d.resourceSamples obj common = []) := by
  rw [resourceSamples_of_mapState kind, mapStateSamples_eq]
  set entries := (Json.extractMap obj d.spec.path).getD []
  set qualifies := fun e : String × Json =>
    e.2.isObject && Json.extractString e.2 d.spec.valuePath != ""
  -- the map's entries ascend, and the qualifying ones with them
  have sorted : Ascending entries := by
    cases found : Json.extractMap obj d.spec.path with
    | none => simp [entries, found]
    | some members => simpa [entries, found] using Json.ascending_extractMap ordered found
  have statesSorted : Ascending ((entries.filter qualifies).map
      fun e => (e.1, Json.extractString e.2 d.spec.valuePath)) := by
    simpa [Ascending, Function.comp_def] using sorted.filter qualifies
  refine ⟨⟨_, rfl, statesSorted, fun key state => ?_, by simp [List.countP_eq_length_filter]⟩,
    fun empty => ?_, fun missing => ?_⟩
  · simp only [List.mem_map, List.mem_filter, Prod.mk.injEq]
    constructor
    · rintro ⟨⟨k, entry⟩, ⟨listed, kept⟩, rfl, rfl⟩
      simp only [qualifies, Bool.and_eq_true, bne_iff_ne, ne_eq] at kept
      cases found : Json.extractMap obj d.spec.path with
      | none => simp [entries, found] at listed
      | some members =>
        refine ⟨members, entry, rfl, by simpa [entries, found] using listed, kept.1, ?_, kept.2⟩
        exact (Json.extractString_ne_empty_iff.1 ⟨rfl, kept.2⟩).1
    · rintro ⟨members, entry, found, listed, isObject, reached, nonempty⟩
      refine ⟨(key, entry), ⟨by simpa [entries, found] using listed, ?_⟩, rfl,
        Json.extractString_of_lookup reached⟩
      simp [qualifies, isObject, Json.extractString_of_lookup reached, nonempty]
  · simp [qualifies, empty]
  · simp [entries, missing]

/-- Of the components of a resource, the two with a phase give samples: an entry that is no
object, an empty phase and an entry without one give none. -/
theorem component_phases_sampled :
    let d : Descriptor := ⟨"t_component_status", "component_status map_state of test", .mapState,
      ["c", "component", "state"],
      { kind := "map_state", name := "component_status", path := "status.components",
        valuePath := "phase", keyLabel := "component" }⟩
    let obj := Json.obj [("status", .obj [("components", .obj [("broken", .str "not-a-map"),
      ("cache", .obj [("phase", .str "")]), ("db", .obj [("phase", .str "Ready")]),
      ("queue", .obj []), ("web", .obj [("phase", .str "Running")])])])]
    d.kind = .mapState ∧ obj.isOrdered = true ∧
    ((∃ states : List (String × String),
      d.resourceSamples obj ["c"] = states.map (fun s => ⟨["c"] ++ [s.1, s.2], 1.0⟩) ∧
      Ascending states ∧
      (∀ key state, (key, state) ∈ states ↔
        ∃ entries entry, Json.extractMap obj d.spec.path = some entries ∧ (key, entry) ∈ entries ∧
          entry.isObject = true ∧ Json.lookup entry d.spec.valuePath = some (.str state) ∧
          state ≠ "") ∧
      states.length = ((Json.extractMap obj d.spec.path).getD []).countP
        fun e => e.2.isObject && Json.extractString e.2 d.spec.valuePath != "") ∧
    (d.spec.valuePath = "" → d.resourceSamples obj ["c"] = []) ∧
    (Json.extractMap obj d.spec.path = none → d.resourceSamples obj ["c"] = [])) := by
  intro d obj
  exact ⟨rfl, by decide, mapState_samples_follow_entries d rfl obj (by decide) ["c"]⟩

/-! ## Conditions -/

/-- The items of an array that a conditions metric samples, in array order. -/
theorem conditionSamples_eq (names : ConditionNames) (common : List String) (items : List Json) :
    conditionSamples names common items =
      (items.filter fun e => e.isObject && memberString e names.typeField != "").map fun e =>
        ⟨common ++ [memberString e names.typeField, memberString e names.statusField,
            memberString e names.reasonField],
          if isTrueStatus (memberString e names.statusField) then 1.0 else 0.0⟩ := by
  induction items with
  | nil => rfl
  | cons e rest ih =>
    by_cases kept : e.isObject = true ∧ memberString e names.typeField ≠ ""
    · simp [conditionSamples, kept, ih]
    · simp only [not_and_or, Bool.not_eq_true, ne_eq, not_not] at kept
      rcases kept with notObject | empty <;> simp [conditionSamples, *]

theorem resourceSamples_of_conditions {d : Descriptor} (kind : d.kind = .conditions) (obj : Json)
    (common : List String) :
    d.resourceSamples obj common =
      conditionSamples d.spec.conditionNames common (Json.extractSlice obj d.spec.path) := by
  simp [resourceSamples, kind]

/-- A path that leads to no array gives no items. -/
theorem extractSlice_of_not_array {obj : Json} {path : String}
    (notArray : ∀ items, Json.lookup obj path ≠ some (.arr items)) :
    Json.extractSlice obj path = [] := by
  unfold Json.extractSlice
  cases reached : Json.lookup obj path with
  | none => rfl
  | some v =>
    cases v with
    | arr items => exact absurd reached (notArray items)
    | _ => rfl

end Descriptor

/-! ## Letter case -/

/-- Lowering the letter case of a character gives a lowercase ASCII letter exactly from that
letter and from its capital, 32 code points below. -/
theorem toLower_eq_lower_iff {c l : Char} (lower : 97 ≤ l.toNat ∧ l.toNat ≤ 122) :
    c.toLower = l ↔ c.toNat = l.toNat ∨ c.toNat + 32 = l.toNat := by
  have capitals : 'A'.val = 65 ∧ 'Z'.val = 90 := ⟨rfl, rfl⟩
  simp only [Char.toLower, capitals]
  split <;> rename_i capital <;>
    simp only [Char.ext_iff, ← UInt32.toNat_inj, UInt32.le_iff_toNat_le, UInt32.toNat_add,
      Char.toNat_val] at capital ⊢ <;> simp at capital ⊢ <;> omega

/-- A character lowers to a lowercase ASCII letter exactly when it is that letter or the
capital `u` of it. -/
theorem toLower_eq_iff_of_capital {c l u : Char} (lower : 97 ≤ l.toNat ∧ l.toNat ≤ 122)
    (capital : u.toNat + 32 = l.toNat) : c.toLower = l ↔ c = l ∨ c = u := by
  simp only [toLower_eq_lower_iff lower, ← Char.toNat_inj]
  omega

/-- A status reads `true` in any letter case exactly when its four characters are the letters
of `true`, each lowercase or capital: the comparison ignores ASCII case and nothing else. -/
theorem isTrueStatus_iff (s : String) :
    isTrueStatus s = true ↔ ∃ a b c e, s.toList = [a, b, c, e] ∧ (a = 't' ∨ a = 'T') ∧
      (b = 'r' ∨ b = 'R') ∧ (c = 'u' ∨ c = 'U') ∧ (e = 'e' ∨ e = 'E') := by
  have word : "true".toList = ['t', 'r', 'u', 'e'] := rfl
  simp only [isTrueStatus, beq_iff_eq, word, List.map_eq_cons_iff, List.map_eq_nil_iff,
    toLower_eq_iff_of_capital (l := 't') (u := 'T') (by decide) (by decide),
    toLower_eq_iff_of_capital (l := 'r') (u := 'R') (by decide) (by decide),
    toLower_eq_iff_of_capital (l := 'u') (u := 'U') (by decide) (by decide),
    toLower_eq_iff_of_capital (l := 'e') (u := 'E') (by decide) (by decide)]
  constructor
  · rintro ⟨a, _, listed, ha, b, _, rfl, hb, c, _, rfl, hc, e, _, rfl, he, rfl⟩
    exact ⟨a, b, c, e, listed, ha, hb, hc, he⟩
  · rintro ⟨a, b, c, e, listed, ha, hb, hc, he⟩
    exact ⟨a, _, listed, ha, b, _, rfl, hb, c, _, rfl, hc, e, _, rfl, he, rfl⟩

example : isTrueStatus "TrUe" = true ∧ isTrueStatus "true " = false ∧
    isTrueStatus "yes" = false := by
  decide

/-! ## Condition field names -/

namespace MetricSpec

theorem conditionNames_of_none {m : MetricSpec} (unset : m.condition = none) :
    m.conditionNames = ⟨"type", "status", "reason"⟩ := by
  simp [conditionNames, fieldOr, unset]

theorem conditionNames_of_some {m : MetricSpec} {cf : ConditionFields}
    (set : m.condition = some cf) :
    m.conditionNames =
      ⟨if cf.typeField = "" then "type" else cf.typeField,
       if cf.statusField = "" then "status" else cf.statusField,
       if cf.reasonField = "" then "reason" else cf.reasonField⟩ := by
  simp [conditionNames, fieldOr, set, String.isEmpty_iff]

end MetricSpec

namespace Descriptor

/-- For a conditions metric, a resource gives, in array order, one sample for each item of the
array at the metric's path that is an object whose type member is a non-empty string, and
nothing for any other item or when the path leads to no array. The sample is labelled with the
common values and the type, status and reason members (empty when absent or not strings), at
value one when the status reads `true` in any mix of ASCII letter case and zero otherwise. The
members read are the configured ones, each defaulting to `type`, `status` and `reason` when the
configuration leaves it out or empty. -/
theorem conditions_samples_follow_items (d : Descriptor) (kind : d.kind = .conditions)
    (obj : Json) (common : List String) :
    let names := d.spec.conditionNames
    d.resourceSamples obj common =
      ((Json.extractSlice obj d.spec.path).filter fun e =>
          e.isObject && memberString e names.typeField != "").map (fun e =>
        ⟨common ++ [memberString e names.typeField, memberString e names.statusField,
            memberString e names.reasonField],
          if isTrueStatus (memberString e names.statusField) then 1.0 else 0.0⟩) ∧
    ((∀ items, Json.lookup obj d.spec.path ≠ some (.arr items)) →
      d.resourceSamples obj common = []) ∧
    (d.spec.condition = none → names = ⟨"type", "status", "reason"⟩) ∧
    (∀ cf, d.spec.condition = some cf →
      names = ⟨if cf.typeField = "" then "type" else cf.typeField,
        if cf.statusField = "" then "status" else cf.statusField,
        if cf.reasonField = "" then "reason" else cf.reasonField⟩) ∧
    (∀ s, isTrueStatus s = true ↔ ∃ a b c e, s.toList = [a, b, c, e] ∧ (a = 't' ∨ a = 'T') ∧
      (b = 'r' ∨ b = 'R') ∧ (c = 'u' ∨ c = 'U') ∧ (e = 'e' ∨ e = 'E')) := by
  intro names
  refine ⟨by rw [resourceSamples_of_conditions kind, conditionSamples_eq], fun notArray => ?_,
    MetricSpec.conditionNames_of_none, fun cf set => MetricSpec.conditionNames_of_some set,
    isTrueStatus_iff⟩
  rw [resourceSamples_of_conditions kind, extractSlice_of_not_array notArray]
  rfl

/-- Conditions read through custom field names: `name`, `ok` and `why`. -/
theorem custom_condition_fields_read :
    let d : Descriptor := ⟨"t_condition", "condition conditions of test", .conditions,
      ["c", "type", "status", "reason"],
      { kind := "conditions", name := "condition", path := "status.checks",
        condition := some ⟨"name", "ok", "why"⟩ }⟩
    let obj := Json.obj [("status", .obj [("checks", .arr [.obj [("name", .str "dns"),
      ("ok", .str "true"), ("why", .str "resolved")], .str "garbage"])])]
    let names := d.spec.conditionNames
    d.kind = .conditions ∧
    (d.resourceSamples obj ["c"] =
      ((Json.extractSlice obj d.spec.path).filter fun e =>
          e.isObject && memberString e names.typeField != "").map (fun e =>
        ⟨["c"] ++ [memberString e names.typeField, memberString e names.statusField,
            memberString e names.reasonField],
          if isTrueStatus (memberString e names.statusField) then 1.0 else 0.0⟩) ∧
    ((∀ items, Json.lookup obj d.spec.path ≠ some (.arr items)) →
      d.resourceSamples obj ["c"] = []) ∧
    (d.spec.condition = none → names = ⟨"type", "status", "reason"⟩) ∧
    (∀ cf, d.spec.condition = some cf →
      names = ⟨if cf.typeField = "" then "type" else cf.typeField,
        if cf.statusField = "" then "status" else cf.statusField,
        if cf.reasonField = "" then "reason" else cf.reasonField⟩) ∧
    (∀ s, isTrueStatus s = true ↔ ∃ a b c e, s.toList = [a, b, c, e] ∧ (a = 't' ∨ a = 'T') ∧
      (b = 'r' ∨ b = 'R') ∧ (c = 'u' ∨ c = 'U') ∧ (e = 'e' ∨ e = 'E'))) := by
  intro d obj names
  exact ⟨rfl, conditions_samples_follow_items d rfl obj ["c"]⟩

end Descriptor

end StateMetrics
