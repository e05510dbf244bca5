import Mathlib.Data.List.Nodup

namespace PayloadLedger

/-!
Lists without repetitions.

Repetitions are taken out of a list and it is sorted, so that the same values come out as the same
list, however often and in which order they stood there.
-/

section

variable {α : Type u} [BEq α] [LawfulBEq α]

theorem nodup_eraseDups (values : List α) : values.eraseDups.Nodup := by
  match values with
  | [] => exact List.nodup_nil
  | value :: values =>
      rw [List.eraseDups_cons, List.nodup_cons]
      constructor
      · intro repeated
        have kept := (List.mem_filter.mp (List.mem_eraseDups.mp repeated)).2
        rw [beq_self_eq_true] at kept
        cases kept
      · exact nodup_eraseDups _
termination_by values.length
decreasing_by exact Nat.lt_succ_of_le (List.length_filter_le _ _)

omit [LawfulBEq α] in
/-- Only repetitions go, and the rest stays in order. -/
theorem eraseDups_sublist (values : List α) : values.eraseDups.Sublist values := by
  match values with
  | [] => exact List.nil_sublist []
  | value :: values =>
      rw [List.eraseDups_cons]
      exact ((eraseDups_sublist _).trans List.filter_sublist).cons_cons value
termination_by values.length
decreasing_by exact Nat.lt_succ_of_le (List.length_filter_le _ _)

theorem eraseDups_perm {one other : List α} (same : one.Perm other) :
    one.eraseDups.Perm other.eraseDups := by
  rw [List.perm_ext_iff_of_nodup (nodup_eraseDups one) (nodup_eraseDups other)]
  intro value
  rw [List.mem_eraseDups, List.mem_eraseDups]
  exact same.mem_iff

end

theorem mergeSort_eq_of_perm {α : Type u} {before : α → α → Bool}
    (trans : ∀ one other third, before one other → before other third → before one third)
    (total : ∀ one other, before one other || before other one)
    (antisymm : ∀ one other, before one other → before other one → one = other)
    {one other : List α} (same : one.Perm other) :
    one.mergeSort before = other.mergeSort before := by
  have sorted (values : List α) := List.pairwise_mergeSort trans total values
  apply List.Perm.eq_of_pairwise (fun first second _ _ => antisymm first second)
    (sorted one) (sorted other)
  calc
    (one.mergeSort before).Perm one := List.mergeSort_perm _ _
    one.Perm other := same
    other.Perm (other.mergeSort before) := (List.mergeSort_perm _ _).symm

end PayloadLedger
