import Mathlib
import StateMetrics.Proofs.Crd.Labels

/-! # Counting resources by value

A count metric tallies resources by the string at its path. The tally is a list of entries in
ascending value order, and one more occurrence of a value inserts its count plus one
(`bump_eq_insertSorted`). So after any sequence of resources the tally is ascending and finds,
under each non-empty value that some resource holds at the path, the number of resources
holding it, and nothing under any other value (`findKey?_countValues`). The empty value, and
resources whose path leads to no string, are counted nowhere, so the counts add up to the
resources with a non-empty string at the path (`sum_countValues`).

Main statement: `countSamples_tally`. -/

namespace StateMetrics.Descriptor

/-! ## One occurrence -/

/-- One more occurrence of a value in an ascending tally inserts its count plus one. -/
theorem bump_eq_insertSorted (v : String) {counts : List (String × Nat)}
    (sorted : Ascending counts) :
    bump v counts = insertSorted v ((findKey? v counts).getD 0 + 1) counts := by
  fun_induction bump v counts with
  | case1 => rfl
  | case2 w n rest below =>
    -- a value below the first counted one is not counted yet
    have absent : findKey? v rest = none :=
      findKey?_eq_none_iff.2 (not_mem_keys_of_lt sorted below.le)
    simp [insertSorted, below, (ne_of_lt below).symm, absent]
  | case3 n rest => simp [insertSorted]
  | case4 w n rest notBelow different ih =>
    simp [insertSorted, notBelow, different, Ne.symm different, ih (ascending_cons.1 sorted).2]

theorem findKey?_bump (x v : String) {counts : List (String × Nat)} (sorted : Ascending counts) :
    findKey? x (bump v counts) =
      if x = v then some ((findKey? v counts).getD 0 + 1) else findKey? x counts := by
  rw [bump_eq_insertSorted v sorted, findKey?_insertSorted]

theorem ascending_bump (v : String) {counts : List (String × Nat)} (sorted : Ascending counts) :
    Ascending (bump v counts) := by
  rw [bump_eq_insertSorted v sorted]
  exact sorted.insertSorted _ _

theorem sum_bump (v : String) (counts : List (String × Nat)) :
    ((bump v counts).map (·.2)).sum = (counts.map (·.2)).sum + 1 := by
  fun_induction bump v counts with
  | case1 => rfl
  | case2 w n rest _ =>
    simp only [List.map_cons, List.sum_cons]
    omega
  | case3 n rest =>
    simp only [List.map_cons, List.sum_cons]
    omega
  | case4 w n rest _ _ ih =>
    simp only [List.map_cons, List.sum_cons, ih]
    omega

/-! ## A sequence of resources -/

theorem ascending_countValues (path : String) (objs : List Json) :
    Ascending (countValues path objs) := by
  induction objs using List.reverseRecOn with
  | nil => exact ascending_nil
  | append_singleton objs o ih =>
    rw [countValues_concat]
    split_ifs
    · exact ih
    · exact ascending_bump _ ih

/-- The tally finds under a non-empty value that some resource holds the number of resources
holding it, and nothing under any other value. -/
theorem findKey?_countValues (path v : String) (objs : List Json) :
    findKey? v (countValues path objs) =
      if v = "" ∨ objs.countP (Json.extractString · path = v) = 0 then none
      else some (objs.countP (Json.extractString · path = v)) := by
  induction objs using List.reverseRecOn with
  | nil => simp [countValues]
  | append_singleton objs o ih =>
    have single : [o].countP (Json.extractString · path = v) =
        if Json.extractString o path = v then 1 else 0 := by
      simp
    rw [countValues_concat, List.countP_append, single]
    generalize Json.extractString o path = w
    by_cases empty : w = ""
    · -- a resource without a value leaves the tally as it was
      subst empty
      by_cases blank : v = ""
      · subst blank
        simp [ih]
      · simp [ih, Ne.symm blank]
    · have isEmpty : w.isEmpty = false := by simpa using empty
      rw [isEmpty, if_neg Bool.false_ne_true, findKey?_bump _ _ (ascending_countValues path objs)]
      by_cases held : v = w
      · -- the value gains one occurrence on top of what lookup found before
        subst held
        have before : (findKey? v (countValues path objs)).getD 0 =
            objs.countP (Json.extractString · path = v) := by
          rw [ih]
          split_ifs with skipped
          · simp only [empty, false_or] at skipped
            simp [skipped]
          · rfl
        simp [before, empty]
      · simp [held, Ne.symm held, ih]

/-- An entry of the tally is a non-empty value with the number of resources holding it, one at
least. -/
theorem count_of_mem_countValues {path : String} {objs : List Json} {e : String × Nat}
    (member : e ∈ countValues path objs) :
    e.1 ≠ "" ∧ e.2 = objs.countP (Json.extractString · path = e.1) ∧ 0 < e.2 := by
  have found := findKey?_of_mem (ascending_countValues path objs) member
  rw [findKey?_countValues] at found
  by_cases skipped : e.1 = "" ∨ objs.countP (Json.extractString · path = e.1) = 0
  · rw [if_pos skipped] at found
    cases found
  · rw [if_neg skipped] at found
    simp only [not_or] at skipped
    have counted := Option.some.inj found
    exact ⟨skipped.1, counted.symm, counted ▸ Nat.pos_of_ne_zero skipped.2⟩

/-- A value is in the tally exactly when it is non-empty and some resource holds it. -/
theorem mem_keys_countValues {path v : String} {objs : List Json} :
    v ∈ (countValues path objs).map (·.1) ↔
      v ≠ "" ∧ ∃ o ∈ objs, Json.extractString o path = v := by
  rw [← findKey?_isSome_iff, findKey?_countValues]
  split_ifs with skipped
  · simp only [Option.isSome_none, Bool.false_eq_true, false_iff, not_and, not_exists, not_and]
    intro nonEmpty o listed held
    have counted : 0 < objs.countP (Json.extractString · path = v) :=
      List.countP_pos_iff.2 ⟨o, listed, by simpa using held⟩
    simp only [nonEmpty, false_or] at skipped
    omega
  · simp only [not_or] at skipped
    obtain ⟨o, listed, held⟩ := List.countP_pos_iff.1 (Nat.pos_of_ne_zero skipped.2)
    simp only [Option.isSome_some, true_iff]
    exact ⟨skipped.1, o, listed, by simpa using held⟩

/-- The counts add up to the resources with a non-empty string at the path. -/
theorem sum_countValues (path : String) (objs : List Json) :
    ((countValues path objs).map (·.2)).sum = objs.countP (Json.extractString · path ≠ "") := by
  induction objs using List.reverseRecOn with
  | nil => rfl
  | append_singleton objs o ih =>
    rw [countValues_concat, List.countP_append]
    split_ifs with empty
    · simp_all
    · have held : Json.extractString o path ≠ "" := by simpa using empty
      rw [sum_bump, ih]
      simp [held]

/-! ## Count samples -/

/-- A count metric gives one sample for each distinct non-empty string that some resource holds
at its path, in strictly ascending order of the string (the order of code points, which is
that of UTF-8 bytes), labelled with the string alone and valued at the number of resources
holding it. Resources without a non-empty string there give nothing, so the counts add up to
the resources that have one; and the samples do not depend on the order of the resources. -/
theorem countSamples_tally (d : Descriptor) (objs : List Json) :
    ∃ values : List String, values.Pairwise (· < ·) ∧
      (∀ v, v ∈ values ↔ v ≠ "" ∧ ∃ o ∈ objs, Json.extractString o d.spec.path = v) ∧
      d.countSamples objs = values.map (fun v =>
        ⟨[v], floatOfInt (objs.countP (Json.extractString · d.spec.path = v))⟩) ∧
      (values.map fun v => objs.countP (Json.extractString · d.spec.path = v)).sum =
        objs.countP (Json.extractString · d.spec.path ≠ "") ∧
      ∀ objs', objs'.Perm objs → d.countSamples objs' = d.countSamples objs := by
  refine ⟨(countValues d.spec.path objs).map fun (e : String × Nat) => e.1,
    ascending_countValues _ _,
    fun v => mem_keys_countValues, ?_, ?_, fun objs' perm => countSamples_perm d perm⟩
  · -- each entry of the tally carries the number of resources holding its value
    rw [countSamples, List.map_map]
    refine List.map_congr_left fun e member => ?_
    obtain ⟨v, n⟩ := e
    have counted : n = objs.countP (Json.extractString · d.spec.path = v) :=
      (count_of_mem_countValues member).2.1
    simp [counted]
  · rw [← sum_countValues, List.map_map]
    congr 1
    refine List.map_congr_left fun e member => ?_
    exact (count_of_mem_countValues member).2.1.symm

end StateMetrics.Descriptor
