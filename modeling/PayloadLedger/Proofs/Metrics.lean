import Mathlib.Algebra.BigOperators.Group.List.Lemmas
import Mathlib.Algebra.Ring.Nat
import PayloadLedger.Metrics

namespace PayloadLedger

/-!
What a scraper reads.

A scraper reads the series of a family, and may add up those that carry certain labels.  Equal
samples are one series and no sample belongs to two, so that the sum is the number of samples that
carry the labels.
-/

namespace Sample

/-- A message that the publisher took, or one that it did not take. -/
def isNotification (published : Bool) : Sample → Bool
  | notification _ taken => taken == published
  | _ => false

def isStoreError : Sample → Bool
  | storeError _ _ => true
  | _ => false

end Sample

namespace Metrics

/-! ## Different samples -/

section

variable {metrics : Metrics} {sample : Sample}

theorem mem_distinct : sample ∈ distinct metrics ↔ sample ∈ metrics := by
  induction metrics with
  | nil => exact Iff.rfl
  | cons first rest ih =>
      rw [distinct, List.mem_cons, List.mem_cons, List.mem_filter, decide_eq_true_eq, ih]
      by_cases same : sample = first
      · exact ⟨fun _ => .inl same, fun _ => .inl same⟩
      · exact or_congr_right (and_iff_left same)

theorem nodup_distinct (metrics : Metrics) : (distinct metrics).Nodup := by
  induction metrics with
  | nil => exact List.nodup_nil
  | cons first rest ih =>
      rw [distinct, List.nodup_cons, List.mem_filter, decide_eq_true_eq]
      exact ⟨fun member => member.2 rfl, ih.filter _⟩

theorem distinct_perm_dedup (metrics : Metrics) : (distinct metrics).Perm metrics.dedup := by
  rw [List.perm_ext_iff_of_nodup (nodup_distinct metrics) (List.nodup_dedup metrics)]
  intro sample
  rw [mem_distinct, List.mem_dedup]

end

/-! ## Sums of series -/

/-- All labels that are wanted are among some labels. -/
def areAmong (wanted labels : List (String × String)) : Bool :=
  wanted.all fun label => labels.any fun other => decide (other = label)

/-- The samples of a family that carry certain labels. -/
def Family.carries (family : Family) (wanted : List (String × String)) (sample : Sample) : Bool :=
  (family.labels sample).any (areAmong wanted)

/-- The sum of the series that carry certain labels. -/
def sumOf (wanted : List (String × String)) (series : List (List (String × String) × Nat)) : Nat :=
  ((series.filter fun entry => areAmong wanted entry.1).map Prod.snd).sum

/-- What a scraper makes of a family that it knows by name. -/
def total (metrics : Metrics) (name : String) (wanted : List (String × String)) : Nat :=
  match families.find? fun family => family.name = name with
  | none => 0
  | some family => sumOf wanted (family.series metrics)

variable {wanted : List (String × String)}

theorem sumOf_perm {one other : List (List (String × String) × Nat)} (same : one.Perm other) :
    sumOf wanted one = sumOf wanted other :=
  ((same.filter _).map _).sum_eq

/-- Each of some samples adds its count if it carries the labels. -/
theorem sumOf_filterMap (wanted : List (String × String)) (family : Family) (metrics : Metrics)
    (samples : List Sample) :
    sumOf wanted (samples.filterMap fun sample =>
        (family.labels sample).map fun labels => (labels, metrics.count sample)) =
      ((samples.filter (family.carries wanted)).map metrics.count).sum := by
  unfold sumOf
  induction samples with
  | nil => rfl
  | cons sample samples ih =>
      rw [List.filterMap_cons, List.filter_cons, Family.carries]
      cases labels : family.labels sample with
      | none => exact ih
      | some labels =>
          rw [Option.map_some, Option.any_some, List.filter_cons]
          split
          · rw [List.map_cons, List.map_cons, List.sum_cons, List.sum_cons, ih]
          · exact ih

theorem sumOf_series (family : Family) (metrics : Metrics) :
    sumOf wanted (family.series metrics) = metrics.countP (family.carries wanted) := by
  have found := sumOf_filterMap wanted family metrics (distinct metrics)
  have counted : (((distinct metrics).filter (family.carries wanted)).map metrics.count).sum =
      metrics.countP (family.carries wanted) := by
    rw [((distinct_perm_dedup metrics).filter _).map _ |>.sum_eq]
    exact List.sum_map_count_dedup_filter_eq_countP _ metrics
  rw [counted, sumOf_perm (List.mergeSort_perm _ _).symm] at found
  rw [← found, Family.series]
  split
  · next shown =>
      -- A family that is always shown is shown as zero.
      rw [Bool.and_eq_true, List.isEmpty_iff] at shown
      rw [shown.1, sumOf, List.filter_cons]
      split <;> rfl
  · rfl

theorem total_eq_countP {name : String} {family : Family}
    (known : families.find? (fun family => family.name = name) = some family)
    {counts : Sample → Bool} (agree : ∀ sample, family.carries wanted sample = counts sample)
    (metrics : Metrics) : metrics.total name wanted = metrics.countP counts := by
  rw [total, known, ← funext agree]
  exact sumOf_series family metrics

theorem total_eq_count {name : String} {family : Family}
    (known : families.find? (fun family => family.name = name) = some family) {sample : Sample}
    (alone : ∀ other, family.carries wanted other = (other == sample)) (metrics : Metrics) :
    metrics.total name wanted = metrics.count sample :=
  total_eq_countP known alone metrics

/-! ## Families -/

variable (metrics : Metrics)

theorem total_transitions (state : State) :
    metrics.total "flowstate_state_transitions_total" [("state", state.name)] =
      metrics.count (.transition state) := by
  refine total_eq_count rfl ?_ metrics
  intro sample
  cases sample with
  | transition other => cases state <;> cases other <;> decide
  | _ => rfl

theorem total_claimConflicts :
    metrics.total "flowstate_claim_conflicts_total" [] = metrics.count .claimConflict := by
  refine total_eq_count rfl ?_ metrics
  intro sample
  cases sample <;> rfl

theorem total_logWrites (outcome : LogOutcome) :
    metrics.total "flowstate_event_log_writes_total" [("outcome", outcome.name)] =
      metrics.count (.logWrite outcome) := by
  refine total_eq_count rfl ?_ metrics
  intro sample
  cases sample with
  | logWrite other => cases other <;> cases outcome <;> decide
  | _ => rfl

theorem total_storeErrors :
    metrics.total "flowstate_store_errors_total" [] =
      metrics.countP Sample.isStoreError := by
  refine total_eq_countP rfl ?_ metrics
  intro sample
  cases sample <;> rfl

theorem total_notifications (published : Bool) :
    metrics.total "flowstate_notifications_total"
        [("outcome", if published then "published" else "failed")] =
      metrics.countP (Sample.isNotification published) := by
  refine total_eq_countP rfl ?_ metrics
  intro sample
  cases sample with
  | notification event taken => cases event <;> cases taken <;> cases published <;> decide
  | _ => rfl

end Metrics
end PayloadLedger
