import PayloadLedger.Store.Table

namespace PayloadLedger
namespace Table

/-!
Tables as maps from keys to rows.

Writing a row changes what is found under its key and nothing else, and a table whose keys are
distinct keeps them distinct.
-/

variable {table : Table} {row : Row} {key : Key}

theorem find?_put (table : Table) (row : Row) (key : Key) :
    (table.put row).find? key = if key = row.key then some row else table.find? key := by
  induction table with
  | nil =>
      simp only [put, find?, List.find?_cons, List.find?_nil]
      by_cases same : row.key = key
      · rw [if_pos same.symm, decide_eq_true same]
      · rw [if_neg (Ne.symm same), decide_eq_false same]
  | cons head tail ih =>
      unfold find? at ih
      unfold put find?
      by_cases here : head.key = row.key
      · rw [if_pos here, List.find?_cons, List.find?_cons, here]
        by_cases same : row.key = key
        · rw [if_pos same.symm, decide_eq_true same]
        · rw [if_neg (Ne.symm same), decide_eq_false same]
      · rw [if_neg here, List.find?_cons, List.find?_cons, ih]
        by_cases found : head.key = key
        · have elsewhere : key ≠ row.key := fun same => here (found.trans same)
          simp only [decide_eq_true found, if_neg elsewhere]
        · rw [decide_eq_false found]

theorem find?_erase (table : Table) (erased key : Key) :
    (table.erase erased).find? key = if key = erased then none else table.find? key := by
  unfold find? erase
  rw [List.find?_filter]
  by_cases same : key = erased
  · rw [if_pos same, List.find?_eq_none]
    intro row _ found
    simp only [ne_eq, decide_not, Bool.not_eq_true', decide_eq_false_iff_not,
      decide_eq_true_eq] at found
    exact found.1 (found.2.trans same)
  · rw [if_neg same]
    congr 1
    funext row
    by_cases found : row.key = key
    · simp [found, same]
    · simp [found]

/-- The rows with other keys stay as they are. -/
theorem erase_put (table : Table) (row : Row) :
    (table.put row).erase row.key = table.erase row.key := by
  unfold erase
  induction table with
  | nil => simp [put]
  | cons head tail ih =>
      rw [put]
      by_cases here : head.key = row.key
      · simp [here]
      · rw [if_neg here, List.filter_cons, List.filter_cons, ih]

theorem map_key_put (table : Table) (row : Row) :
    (table.put row).map Row.key =
      if row.key ∈ table.map Row.key then table.map Row.key
      else table.map Row.key ++ [row.key] := by
  induction table with
  | nil => simp [put]
  | cons head tail ih =>
      rw [put]
      by_cases here : head.key = row.key
      · rw [if_pos here, List.map_cons, List.map_cons, here, if_pos List.mem_cons_self]
      · have elsewhere : row.key ∈ List.map Row.key (head :: tail) ↔
            row.key ∈ tail.map Row.key := by
          rw [List.map_cons, List.mem_cons]
          exact or_iff_right (Ne.symm here)
        rw [if_neg here, List.map_cons, ih]
        by_cases later : row.key ∈ tail.map Row.key
        · rw [if_pos later, if_pos (elsewhere.mpr later), List.map_cons]
        · rw [if_neg later, if_neg (mt elsewhere.mp later), List.map_cons, List.cons_append]

/-- No two rows have the same key. -/
def IsDistinct (table : Table) : Prop :=
  (table.map Row.key).Nodup

theorem IsDistinct.put (distinct : table.IsDistinct) (row : Row) : (table.put row).IsDistinct := by
  unfold IsDistinct at *
  rw [map_key_put]
  split
  · exact distinct
  · next absent =>
      rw [List.nodup_append]
      refine ⟨distinct, List.pairwise_singleton _ _, ?_⟩
      intro key member other last same
      rw [same, List.mem_singleton.mp last] at member
      exact absent member

theorem IsDistinct.erase (distinct : table.IsDistinct) (key : Key) :
    (table.erase key).IsDistinct :=
  List.Nodup.sublist (List.Sublist.map Row.key List.filter_sublist) distinct

theorem mem_of_find? (found : table.find? key = some row) : row ∈ table ∧ row.key = key := by
  have kept := List.find?_some found
  exact ⟨List.mem_of_find?_eq_some found, of_decide_eq_true kept⟩

/-- In a table with distinct keys every row is found under its key. -/
theorem IsDistinct.find?_key (distinct : table.IsDistinct) (member : row ∈ table) :
    table.find? row.key = some row := by
  induction table with
  | nil => cases member
  | cons head tail ih =>
      unfold IsDistinct at distinct ih
      rw [List.map_cons, List.nodup_cons] at distinct
      unfold find? at *
      rw [List.find?_cons]
      rcases List.mem_cons.mp member with rfl | later
      · rw [decide_eq_true rfl]
      · have other : head.key ≠ row.key := by
          intro same
          exact distinct.1 (same ▸ List.mem_map_of_mem later)
        rw [decide_eq_false other]
        exact ih distinct.2 later

end Table
end PayloadLedger
