import Mathlib
import StateMetrics.Proofs.Entries
import StateMetrics.Crd.Collector

/-! # Updates replace in place

A collector stores an updated resource under the key of its new version and never looks at
the old one. Deleting the old version and adding the new one instead differs exactly when the
two versions have different keys and the cache holds something under the old key: the update
leaves that entry standing, the deletion takes it out. In every other case the two give the
same cache, and both always leave the new version under its key.

Caches are compared whole: since a cache keeps its keys ascending, it is determined by what it
stores under each key (`ResourceCache.ext_get?`).

Main statement: `update_eq_delete_then_add_iff`. -/

namespace StateMetrics.CrdCollector

/-- After an update the cache holds the new version under its key and is otherwise unchanged. -/
theorem get?_updated (c : CrdCollector) (old new : Json) (x : String) :
    (c.apply (.updated old new)).cache.get? x =
      if x = resourceKey new then some new else c.cache.get? x :=
  ResourceCache.get?_upsert c.cache new x

/-- After deleting the old version and adding the new one, the cache holds the new version
under its key, nothing under the old key, and is otherwise unchanged. -/
theorem get?_deleted_added (c : CrdCollector) (old new : Json) (x : String) :
    ((c.apply (.deleted old)).apply (.added new)).cache.get? x =
      if x = resourceKey new then some new
      else if x = resourceKey old then none else c.cache.get? x := by
  simp only [apply]
  rw [ResourceCache.get?_upsert, ResourceCache.get?_remove]

/-- An update equals deleting the old version and adding the new one exactly when both
versions share a key or the cache holds nothing under the old key; either way the new version
ends up under its key. -/
theorem update_eq_delete_then_add_iff (c : CrdCollector) (old new : Json) :
    ((c.apply (.updated old new)).cache = ((c.apply (.deleted old)).apply (.added new)).cache ↔
      resourceKey old = resourceKey new ∨ c.cache.get? (resourceKey old) = none) ∧
    (c.apply (.updated old new)).cache.get? (resourceKey new) = some new ∧
    ((c.apply (.deleted old)).apply (.added new)).cache.get? (resourceKey new) = some new := by
  refine ⟨⟨fun same => ?_, fun agree => ?_⟩, by simp [get?_updated],
    by simp [get?_deleted_added]⟩
  · -- under a different old key the update keeps what the deletion took out
    by_cases keys : resourceKey old = resourceKey new
    · exact .inl keys
    · have atOld := congrArg (·.get? (resourceKey old)) same
      simp only [get?_updated, get?_deleted_added, if_neg keys, if_true] at atOld
      exact .inr atOld
  · refine ResourceCache.ext_get? fun x => ?_
    rw [get?_updated, get?_deleted_added]
    by_cases atNew : x = resourceKey new
    · rw [if_pos atNew, if_pos atNew]
    · rw [if_neg atNew, if_neg atNew]
      by_cases atOld : x = resourceKey old
      · subst atOld
        rcases agree with same | absent
        · exact absurd same atNew
        · rw [if_pos rfl, absent]
      · rw [if_neg atOld]

/-- A resource `<namespace>/<name>` as the watch delivers it. -/
def namedResource (ns name : String) : Json :=
  .obj [("metadata", .obj [("name", .str name), ("namespace", .str ns)])]

/-- A collector caching the resource `default/web`. -/
def cachingWeb : CrdCollector :=
  { (default : CrdCollector) with
    cache := ⟨[("default/web", namedResource "default" "web")], by decide⟩ }

/-- Renaming `default/web` to `default/api` by an update keeps `default/web` cached, which
deleting the old version and adding the new one would drop. -/
theorem renamed_update_keeps_old_entry :
    (cachingWeb.apply (.updated (namedResource "default" "web")
        (namedResource "default" "api"))).cache ≠
      ((cachingWeb.apply (.deleted (namedResource "default" "web"))).apply
        (.added (namedResource "default" "api"))).cache := by
  intro same
  have renamed : resourceKey (namedResource "default" "web") ≠
      resourceKey (namedResource "default" "api") := by decide
  have cached : cachingWeb.cache.get? (resourceKey (namedResource "default" "web")) ≠ none := by
    decide
  rcases (update_eq_delete_then_add_iff cachingWeb _ _).1.1 same with sameKey | absent
  · exact renamed sameKey
  · exact cached absent

end StateMetrics.CrdCollector
