import Mathlib.Data.List.Dedup
import PayloadLedger.Proofs.Distinct
import PayloadLedger.Proofs.Store.Slice
import PayloadLedger.Store

namespace PayloadLedger

/-!
Batches of keys.

A batch look-up puts its keys in order, each once, and asks for them in batches.  Every batch takes
the rows whose keys it holds from the table, which are the rows that are found under its keys one
by one.
-/

namespace Key

/-! ## The order of keys -/

theorem before_eq (one other : Key) :
    one.before other = Filter.precedes { ascending := true } (one.partition, one.itemIds)
      (other.partition, other.itemIds) := rfl

theorem eq_of_not_before {one other : Key} (forth : other.before one = false)
    (back : one.before other = false) : one = other := by
  rw [before_eq] at forth back
  by_cases same : (one.partition, one.itemIds) = (other.partition, other.itemIds)
  · cases one
    cases other
    cases same
    rfl
  · rcases Filter.precedes_total { ascending := true } same with less | greater
    · rw [less] at back
      cases back
    · rw [greater] at forth
      cases forth

/-- What is sorted by its keys stands in their order. -/
theorem pairwise_mergeSort (key : α → Key) (items : List α) :
    (items.mergeSort fun one other => !(key other).before (key one)).Pairwise
      fun one other => (!(key other).before (key one)) = true := by
  apply List.pairwise_mergeSort
  · intro one other third first second
    rw [Bool.not_eq_true', before_eq] at first second ⊢
    exact Filter.not_precedes_trans first second
  · intro one other
    rw [before_eq, before_eq]
    exact Filter.not_precedes_total _ _ _

end Key

namespace Store

/-! ## Distinct keys -/

theorem mem_distinctKeys {key : Key} {keys : List Key} : key ∈ distinctKeys keys ↔ key ∈ keys := by
  rw [distinctKeys, List.mem_eraseDups, (List.mergeSort_perm _ _).mem_iff]

theorem nodup_distinctKeys (keys : List Key) : (distinctKeys keys).Nodup :=
  nodup_eraseDups _

/-- Neither the order of some keys nor repetitions among them matter. -/
theorem distinctKeys_congr {one other : List Key} (same : ∀ key, key ∈ one ↔ key ∈ other) :
    distinctKeys one = distinctKeys other := by
  have sorted (keys : List Key) : (distinctKeys keys).Pairwise
      fun one other => (!other.before one) = true :=
    (Key.pairwise_mergeSort id keys).sublist (eraseDups_sublist _)
  refine List.Perm.eq_of_pairwise ?_ (sorted one) (sorted other) ?_
  · intro first second _ _ forth back
    rw [Bool.not_eq_true'] at forth back
    exact Key.eq_of_not_before forth back
  · rw [List.perm_ext_iff_of_nodup (nodup_distinctKeys one) (nodup_distinctKeys other)]
    intro key
    rw [mem_distinctKeys, mem_distinctKeys]
    exact same key

theorem distinctKeys_perm_dedup (keys : List Key) : (distinctKeys keys).Perm keys.dedup := by
  rw [List.perm_ext_iff_of_nodup (nodup_distinctKeys keys) (List.nodup_dedup keys)]
  intro key
  rw [mem_distinctKeys, List.mem_dedup]

/-! ## Batches -/

/-- No key is lost at the end of a batch, and none is asked for twice. -/
theorem flatten_batches (size : Nat) (keys : List Key) : (batches size keys).flatten = keys := by
  induction keys using batches.induct size with
  | case1 => rw [batches, List.flatten_nil]
  | case2 key keys ih =>
      rw [batches, List.flatten_cons, ih, List.cons_append, List.take_append_drop]

end Store

namespace Table

variable {table other : Table}

theorem mem_rowsOf {row : Row} {keys : List Key} :
    row ∈ table.rowsOf keys ↔ row ∈ table ∧ row.key ∈ keys := by
  rw [rowsOf, (List.mergeSort_perm _ _).mem_iff, List.mem_filter, decide_eq_true_eq]

/-- The rows of a batch are those found under its keys one by one. -/
theorem IsDistinct.rowsOf_perm_filterMap (distinct : table.IsDistinct) {keys : List Key}
    (once : keys.Nodup) : (table.rowsOf keys).Perm (keys.filterMap table.find?) := by
  have nodup : (table.rowsOf keys).Nodup := by
    rw [rowsOf, (List.mergeSort_perm _ _).nodup_iff]
    exact distinct.nodup.sublist List.filter_sublist
  have otherNodup : (keys.filterMap table.find?).Nodup := by
    refine List.Nodup.filterMap ?_ once
    intro one second row found again
    exact (mem_of_find? found).2.symm.trans (mem_of_find? again).2
  rw [List.perm_ext_iff_of_nodup nodup otherNodup]
  intro row
  rw [mem_rowsOf, List.mem_filterMap]
  constructor
  · rintro ⟨member, asked⟩
    exact ⟨row.key, asked, distinct.find?_key member⟩
  · rintro ⟨key, asked, found⟩
    rcases mem_of_find? found with ⟨member, rfl⟩
    exact ⟨member, asked⟩

/-- The order of a table does not matter for the rows of a batch. -/
theorem IsDistinct.rowsOf_perm (distinct : table.IsDistinct) (perm : List.Perm table other)
    (keys : List Key) : table.rowsOf keys = other.rowsOf keys := by
  have sorted (table : Table) : (table.rowsOf keys).Pairwise
      fun one other => (!other.key.before one.key) = true :=
    Key.pairwise_mergeSort Row.key _
  refine List.Perm.eq_of_pairwise ?_ (sorted table) (sorted other) ?_
  · intro first second member otherMember forth back
    rw [Bool.not_eq_true'] at forth back
    have same := Key.eq_of_not_before forth back
    have here := (mem_rowsOf.mp member).1
    have there := perm.mem_iff.mpr (mem_rowsOf.mp otherMember).1
    have found := distinct.find?_key here
    rw [same, distinct.find?_key there] at found
    exact (Option.some.inj found).symm
  · exact (List.mergeSort_perm _ _).trans ((perm.filter _).trans (List.mergeSort_perm _ _).symm)

end Table
end PayloadLedger
