import PayloadLedger.Proofs.Text.Digits
import PayloadLedger.Time.Calendar

namespace PayloadLedger
namespace Time

/-!
Days and their dates.

Every day number has a date of the calendar, the date leads back to the number, and later
days have later dates.
-/

theorem daysBeforeYear_mono {first second : Int} (ordered : first ≤ second) :
    daysBeforeYear first ≤ daysBeforeYear second := by
  unfold daysBeforeYear
  omega

namespace Date

/-! ## The year of a day -/

theorem daysBeforeYear_yearOfDay (days : Int) :
    daysBeforeYear (yearOfDay days) ≤ days ∧ days < daysBeforeYear (yearOfDay days + 1) := by
  -- The average length of a year bounds the guess on both sides.
  have low : 146097 * (400 * days / 146097) ≤ 400 * days := by omega
  have high : 400 * days < 146097 * (400 * days / 146097) + 146097 := by omega
  have below : daysBeforeYear (400 * days / 146097 - 1) ≤ days := by
    unfold daysBeforeYear
    omega
  have above : days < daysBeforeYear (400 * days / 146097 + 1 + 1) := by
    unfold daysBeforeYear
    omega
  unfold yearOfDay
  dsimp only
  split
  · next late => exact ⟨late, above⟩
  · next late =>
      split
      · next early =>
          rw [Int.sub_add_cancel]
          exact ⟨below, early⟩
      · next early => exact ⟨Int.not_lt.mp early, Int.not_le.mp late⟩

/-! ## The month and day of a day -/

theorem sum_monthLengths (year : Int) :
    ((monthLengths year).sum : Int) = if isLeapYear year then 366 else 365 := by
  unfold monthLengths
  cases isLeapYear year <;> rfl

/-- A day inside the months that are given falls into one of them, and it is counted by the
days before that month and its own number in it. -/
theorem ofDayOfYear_spec (month : Nat) (lengths : List Nat) (days : Nat)
    (inside : days < lengths.sum) :
    ∃ passed day, ofDayOfYear month lengths days = (month + passed, day + 1) ∧
      (lengths.take passed).sum + day = days ∧ day < lengths.getD passed 0 := by
  induction lengths generalizing month days with
  | nil => exact absurd inside (Nat.not_lt_zero _)
  | cons length lengths ih =>
      by_cases here : days < length
      · exact ⟨0, days, by rw [ofDayOfYear, if_pos here]; rfl, Nat.zero_add days, here⟩
      · rw [List.sum_cons] at inside
        rcases ih (month + 1) (days - length) (by omega) with ⟨passed, day, found, counted, fits⟩
        refine ⟨passed + 1, day, ?_, ?_, fits⟩
        · rw [ofDayOfYear, if_neg here, found, Nat.add_assoc, Nat.add_comm 1]
        · rw [List.take_succ_cons, List.sum_cons]
          omega

theorem ofDayOfYear_month_le (month : Nat) (lengths : List Nat) (days : Nat) :
    month ≤ (ofDayOfYear month lengths days).1 := by
  induction lengths generalizing month days with
  | nil => exact Nat.le_refl _
  | cons length lengths ih =>
      rw [ofDayOfYear]
      split
      · exact Nat.le_refl _
      · exact Nat.le_of_succ_le (ih (month + 1) (days - length))

/-- Later days of a year have later months, or later days in the same month. -/
theorem ofDayOfYear_lt (month : Nat) (lengths : List Nat) {first second : Nat}
    (earlier : first < second) :
    (ofDayOfYear month lengths first).1 < (ofDayOfYear month lengths second).1 ∨
      ((ofDayOfYear month lengths first).1 = (ofDayOfYear month lengths second).1 ∧
        (ofDayOfYear month lengths first).2 < (ofDayOfYear month lengths second).2) := by
  induction lengths generalizing month first second with
  | nil => exact Or.inr ⟨rfl, Nat.succ_lt_succ earlier⟩
  | cons length lengths ih =>
      simp only [ofDayOfYear]
      by_cases here : first < length
      · rw [if_pos here]
        by_cases alsoHere : second < length
        · rw [if_pos alsoHere]
          exact Or.inr ⟨rfl, Nat.succ_lt_succ earlier⟩
        · rw [if_neg alsoHere]
          exact Or.inl (ofDayOfYear_month_le (month + 1) lengths (second - length))
      · rw [if_neg here, if_neg (by omega)]
        exact ih (month + 1) (by omega)

/-! ## Dates -/

theorem getD_monthLengths_le (year : Int) {index : Nat} (small : index < 12) :
    (monthLengths year).getD index 0 ≤ 31 := by
  unfold monthLengths
  revert index
  cases isLeapYear year <;> decide

/-- What the date of a day is made of. -/
structure IsDateOf (date : Date) (number : Int) : Prop where
  counted : date.dayNumber = number
  month_pos : 1 ≤ date.month
  month_le : date.month ≤ 12
  day_pos : 1 ≤ date.day
  day_le : date.day ≤ (monthLengths date.year).getD (date.month - 1) 0

theorem isDateOf_ofDayNumber (number : Int) : IsDateOf (ofDayNumber number) number := by
  have year := daysBeforeYear_yearOfDay (number + daysBeforeEpoch)
  have length := sum_monthLengths (yearOfDay (number + daysBeforeEpoch))
  rw [daysBeforeYear_succ] at year
  rcases ofDayOfYear_spec 1 (monthLengths (yearOfDay (number + daysBeforeEpoch)))
    (number + daysBeforeEpoch - daysBeforeYear (yearOfDay (number + daysBeforeEpoch))).toNat
    (by omega) with ⟨passed, day, found, counted, fits⟩
  have date : ofDayNumber number =
      ⟨yearOfDay (number + daysBeforeEpoch), 1 + passed, day + 1⟩ := by
    simp only [ofDayNumber, found]
  have month : passed < 12 := by
    rcases Nat.lt_or_ge passed 12 with small | large
    · exact small
    · have none := List.getElem?_eq_none
        (l := monthLengths (yearOfDay (number + daysBeforeEpoch))) (i := passed) large
      rw [List.getD_eq_getElem?_getD, none] at fits
      exact absurd fits (Nat.not_lt_zero _)
  rw [date]
  refine ⟨?_, Nat.le_add_right 1 passed, by dsimp only; omega, Nat.le_add_left 1 day, ?_⟩
  · simp only [dayNumber, daysBeforeMonth, Nat.add_sub_cancel_left]
    rw [← List.sum_eq_foldr]
    omega
  · simp only [Nat.add_sub_cancel_left]
    omega

namespace IsDateOf

variable {date : Date} {number : Int}

theorem day_le_31 (dated : IsDateOf date number) : date.day ≤ 31 :=
  Nat.le_trans dated.day_le
    (getD_monthLengths_le date.year (by have := dated.month_le; have := dated.month_pos; omega))

/-- The date of a day occurs in the calendar if the calendar has its year. -/
theorem isValid (dated : IsDateOf date number) (early : firstYear ≤ date.year)
    (late : date.year ≤ lastYear) : date.isValid = true := by
  simp only [Date.isValid, early, late, dated.month_pos, dated.day_pos, dated.day_le, decide_true,
    Bool.and_self]

end IsDateOf

theorem yearOfDay_mono {first second : Int} (ordered : first ≤ second) :
    yearOfDay first ≤ yearOfDay second := by
  have start := (daysBeforeYear_yearOfDay first).1
  have finish := (daysBeforeYear_yearOfDay second).2
  apply Int.not_lt.mp
  intro later
  have mono := daysBeforeYear_mono (show yearOfDay second + 1 ≤ yearOfDay first by omega)
  omega

/-- Later days have later dates. -/
theorem ofDayNumber_lt {first second : Int} (earlier : first < second) :
    (ofDayNumber first).year < (ofDayNumber second).year ∨
      ((ofDayNumber first).year = (ofDayNumber second).year ∧
        ((ofDayNumber first).month < (ofDayNumber second).month ∨
          ((ofDayNumber first).month = (ofDayNumber second).month ∧
            (ofDayNumber first).day < (ofDayNumber second).day))) := by
  have ordered := yearOfDay_mono
    (show first + daysBeforeEpoch ≤ second + daysBeforeEpoch by omega)
  rcases Int.lt_or_eq_of_le ordered with less | same
  · exact Or.inl less
  · have start := (daysBeforeYear_yearOfDay (first + daysBeforeEpoch)).1
    refine Or.inr ⟨same, ?_⟩
    simp only [ofDayNumber, ← same]
    exact ofDayOfYear_lt 1 _ (by omega)

end Date
end Time
end PayloadLedger
