import PayloadLedger.Proofs.Time.Stored

namespace PayloadLedger
namespace Time
namespace Instant

/-!
The order of stored instants.

Stored texts are compared like the instants that are kept.  Each field is wider than its greatest
value, so that the first field that differs decides, and a later instant is greater in that field.
-/

/-- The fields of one written instant come before those of another. -/
def WrittenBefore (one other : Instant) : Prop :=
  one.date.year.toNat < other.date.year.toNat ∨ one.date.year.toNat = other.date.year.toNat ∧
    (one.date.month < other.date.month ∨ one.date.month = other.date.month ∧
      (one.date.day < other.date.day ∨ one.date.day = other.date.day ∧
        (one.secondOfDay / 3600 < other.secondOfDay / 3600 ∨
          one.secondOfDay / 3600 = other.secondOfDay / 3600 ∧
          (one.secondOfDay / 60 % 60 < other.secondOfDay / 60 % 60 ∨
            one.secondOfDay / 60 % 60 = other.secondOfDay / 60 % 60 ∧
            (one.writtenSecond < other.writtenSecond ∨
              one.writtenSecond = other.writtenSecond ∧
                one.writtenMicros < other.writtenMicros)))))

variable {one other : Instant}

theorem stored_lt_iff_writtenBefore (storable : one.IsStorable) (alsoStorable : other.IsStorable) :
    one.stored < other.stored ↔ WrittenBefore one other := by
  have dated := one.isDateOf_date
  have alsoDated := other.isDateOf_date
  have month := dated.month_le
  have alsoMonth := alsoDated.month_le
  have day := dated.day_le_31
  have alsoDay := alsoDated.day_le_31
  have seconds := one.secondOfDay_lt
  have alsoSeconds := other.secondOfDay_lt
  have year := storable.year_le
  have alsoYear := alsoStorable.year_le
  have written : one.writtenSecond ≤ 60 := by
    unfold writtenSecond
    split <;> omega
  have alsoWritten : other.writtenSecond ≤ 60 := by
    unfold writtenSecond
    split <;> omega
  have micros := one.writtenMicros_lt
  have alsoMicros := other.writtenMicros_lt
  rw [String.lt_iff, toList_stored storable, toList_stored alsoStorable,
    Text.fixed_append_lt_iff (by omega) (by omega), List.cons_lt_cons_self,
    Text.fixed_append_lt_iff (by omega) (by omega), List.cons_lt_cons_self,
    Text.fixed_append_lt_iff (by omega) (by omega), List.cons_lt_cons_self,
    Text.fixed_append_lt_iff (by omega) (by omega), List.cons_lt_cons_self,
    Text.fixed_append_lt_iff (by omega) (by omega), List.cons_lt_cons_self,
    Text.fixed_append_lt_iff (by omega) (by omega), List.cons_lt_cons_self,
    Text.fixed_append_lt_iff (by omega) (by omega)]
  simp only [List.lt_irrefl, and_false, or_false, WrittenBefore]

theorem writtenBefore_of_truncate_lt (storable : one.IsStorable) (ends : one.LeapEndsMinute)
    (alsoStorable : other.IsStorable) (earlier : one.truncate < other.truncate) :
    WrittenBefore one other := by
  have year := storable.year_nonneg
  have alsoYear := alsoStorable.year_nonneg
  have nanos := alsoStorable.nanos_lt
  unfold LeapEndsMinute at ends
  have ordered : one.seconds < other.seconds ∨ (one.seconds = other.seconds ∧
      one.nanos / 1000 < other.nanos / 1000) := by
    rcases earlier with less | ⟨same, less⟩
    · exact Or.inl less
    · refine Or.inr ⟨same, ?_⟩
      simp only [truncate] at less
      omega
  rcases Int.lt_or_eq_of_le (show one.seconds / day ≤ other.seconds / day by
    unfold day; omega) with earlierDay | sameDay
  · -- The dates differ, and the time of day is not looked at.
    have dates := Date.ofDayNumber_lt earlierDay
    unfold WrittenBefore date at *
    omega
  · have sameDate : one.date = other.date := by rw [date, date, sameDay]
    unfold WrittenBefore
    rw [sameDate]
    unfold writtenSecond writtenMicros subsecond secondOfDay second day at *
    split <;> split <;> omega

theorem lt_trichotomy (one other : Instant) : one < other ∨ one = other ∨ other < one := by
  rcases Int.lt_trichotomy one.seconds other.seconds with less | same | greater
  · exact Or.inl (Or.inl less)
  · rcases Nat.lt_trichotomy one.nanos other.nanos with less | equal | greater
    · exact Or.inl (Or.inr ⟨same, less⟩)
    · exact Or.inr (Or.inl ((mk.injEq _ _ _ _).mpr ⟨same, equal⟩))
    · exact Or.inr (Or.inr (Or.inr ⟨same.symm, greater⟩))
  · exact Or.inr (Or.inr (Or.inl greater))

theorem stored_lt_of_kept_lt (storable : one.IsStorable) (alsoStorable : other.IsStorable)
    (earlier : one.kept < other.kept) : one.stored < other.stored := by
  rw [← truncate_kept one, ← truncate_kept other] at earlier
  rw [← storable.stored_kept, ← alsoStorable.stored_kept,
    stored_lt_iff_writtenBefore storable.kept alsoStorable.kept]
  exact writtenBefore_of_truncate_lt storable.kept storable.kept_leapEndsMinute alsoStorable.kept
    earlier

/-- Stored texts are in the order of the times that are kept. -/
theorem stored_lt_iff (storable : one.IsStorable) (alsoStorable : other.IsStorable) :
    one.stored < other.stored ↔ one.kept < other.kept := by
  constructor
  · intro before
    rcases lt_trichotomy one.kept other.kept with less | same | greater
    · exact less
    · rw [← storable.stored_kept, same, alsoStorable.stored_kept] at before
      exact absurd before (String.lt_irrefl _)
    · have after := stored_lt_of_kept_lt alsoStorable storable greater
      exact absurd (String.lt_trans before after) (String.lt_irrefl _)
  · exact stored_lt_of_kept_lt storable alsoStorable

/-- Stored texts are the same where the times that are kept are. -/
theorem stored_eq_iff (storable : one.IsStorable) (alsoStorable : other.IsStorable) :
    one.stored = other.stored ↔ one.kept = other.kept := by
  constructor
  · intro text
    rcases lt_trichotomy one.kept other.kept with less | same | greater
    · have before := stored_lt_of_kept_lt storable alsoStorable less
      rw [text] at before
      exact absurd before (String.lt_irrefl _)
    · exact same
    · have before := stored_lt_of_kept_lt alsoStorable storable greater
      rw [text] at before
      exact absurd before (String.lt_irrefl _)
  · intro same
    rw [← storable.stored_kept, same, alsoStorable.stored_kept]

theorem lt_of_le_of_lt {one other third : Instant} (least : one ≤ other) (less : other < third) :
    one < third := by
  have notGreater : ¬ (other.seconds < one.seconds ∨
      (other.seconds = one.seconds ∧ other.nanos < one.nanos)) := least
  have before : other.seconds < third.seconds ∨
      (other.seconds = third.seconds ∧ other.nanos < third.nanos) := less
  change one.seconds < third.seconds ∨ (one.seconds = third.seconds ∧ one.nanos < third.nanos)
  omega

end Instant
end Time
end PayloadLedger
