import PayloadLedger.Proofs.Time.Calendar
import PayloadLedger.Time.Timestamp

namespace PayloadLedger
namespace Time

/-!
Stored instants.

The text in which an instant is stored has fields of fixed width as long as its year has four
digits.  Such a text is read back as the instant, cut to microseconds.

A leap second ends a minute, and no clock and no text gives another.  Yet an instant may be built
with a fraction of a whole second or more anywhere.  It is written in the second that follows, so
that it is read back as the same count of microseconds with a fraction below one second.
-/

namespace Instant

/-- The instant has a text of fixed width: its year has four digits, and its fraction is below two
seconds. -/
structure IsStorable (moment : Instant) : Prop where
  year_nonneg : 0 ≤ moment.date.year
  year_le : moment.date.year ≤ 9999
  nanos_lt : moment.nanos < 2 * second

instance (moment : Instant) : Decidable moment.IsStorable :=
  decidable_of_iff
    (0 ≤ moment.date.year ∧ moment.date.year ≤ 9999 ∧ moment.nanos < 2 * second)
    ⟨fun ⟨nonneg, le, nanos⟩ => ⟨nonneg, le, nanos⟩, fun ⟨nonneg, le, nanos⟩ => ⟨nonneg, le, nanos⟩⟩

/-- A leap second, if the instant lies in one, ends a minute. -/
def LeapEndsMinute (moment : Instant) : Prop :=
  second ≤ moment.nanos → moment.secondOfDay % 60 = 59

instance (moment : Instant) : Decidable moment.LeapEndsMinute :=
  inferInstanceAs (Decidable (_ → _))

/-- The instant that its stored text names: cut to microseconds, with a fraction of a whole second or
more at the end of a minute only. -/
def kept (moment : Instant) : Instant :=
  if moment.LeapEndsMinute then moment.truncate
  else ⟨moment.seconds + 1, (moment.nanos - second) / 1000 * 1000⟩

/-- The second of the minute that is written, sixty in a leap second. -/
def writtenSecond (moment : Instant) : Nat :=
  moment.secondOfDay % 60 + if second ≤ moment.nanos then 1 else 0

/-- The microseconds that are written. -/
def writtenMicros (moment : Instant) : Nat :=
  moment.subsecond / 1000

theorem isDateOf_date (moment : Instant) : Date.IsDateOf moment.date (moment.seconds / day) :=
  Date.isDateOf_ofDayNumber _

theorem secondOfDay_lt (moment : Instant) : moment.secondOfDay < 86400 := by
  unfold secondOfDay day
  omega

theorem writtenMicros_lt (moment : Instant) : moment.writtenMicros < 1000000 := by
  unfold writtenMicros subsecond second
  omega

/-! ## The instant that is kept -/

section

variable {moment : Instant}

theorem kept_of_leapEndsMinute (ends : moment.LeapEndsMinute) : moment.kept = moment.truncate :=
  if_pos ends

theorem leap_of_not_leapEndsMinute (inside : ¬ moment.LeapEndsMinute) :
    second ≤ moment.nanos ∧ moment.secondOfDay % 60 ≠ 59 := by
  unfold LeapEndsMinute at inside
  omega

theorem truncate_leapEndsMinute (ends : moment.LeapEndsMinute) :
    moment.truncate.LeapEndsMinute := by
  intro leap
  refine ends ?_
  change second ≤ moment.nanos / 1000 * 1000 at leap
  omega

theorem IsStorable.kept_leapEndsMinute (storable : moment.IsStorable) :
    moment.kept.LeapEndsMinute := by
  by_cases ends : moment.LeapEndsMinute
  · rw [kept_of_leapEndsMinute ends]
    exact truncate_leapEndsMinute ends
  · intro leap
    have nanos := storable.nanos_lt
    rw [kept, if_neg ends] at leap
    change second ≤ (moment.nanos - second) / 1000 * 1000 at leap
    omega

/-- The next second is in the same minute, and so on the same day. -/
theorem seconds_succ (inside : ¬ moment.LeapEndsMinute) :
    (moment.seconds + 1) / day = moment.seconds / day ∧
      ((moment.seconds + 1) % day).toNat = moment.secondOfDay + 1 := by
  have ends := (leap_of_not_leapEndsMinute inside).2
  unfold secondOfDay day at *
  omega

theorem date_kept (moment : Instant) : moment.kept.date = moment.date := by
  by_cases ends : moment.LeapEndsMinute
  · rw [kept_of_leapEndsMinute ends]
    rfl
  · rw [kept, if_neg ends, date, (seconds_succ ends).1, date]

theorem secondOfDay_kept (inside : ¬ moment.LeapEndsMinute) :
    moment.kept.secondOfDay = moment.secondOfDay + 1 := by
  rw [kept, if_neg inside]
  exact (seconds_succ inside).2

theorem IsStorable.kept (storable : moment.IsStorable) : moment.kept.IsStorable where
  year_nonneg := moment.date_kept ▸ storable.year_nonneg
  year_le := moment.date_kept ▸ storable.year_le
  nanos_lt := by
    have nanos := storable.nanos_lt
    rw [Instant.kept]
    split
    · change moment.nanos / 1000 * 1000 < 2 * second
      omega
    · change (moment.nanos - second) / 1000 * 1000 < 2 * second
      omega

theorem truncate_kept (moment : Instant) : moment.kept.truncate = moment.kept := by
  rw [kept]
  split
  · simp only [truncate, mk.injEq, true_and]
    omega
  · simp only [truncate, mk.injEq, true_and]
    omega

@[simp] theorem stored_truncate (moment : Instant) : moment.truncate.stored = moment.stored := by
  have leap : second ≤ moment.nanos / 1000 * 1000 ↔ second ≤ moment.nanos := by
    unfold second
    omega
  have micros : moment.nanos / 1000 * 1000 % second / 1000 = moment.nanos % second / 1000 := by
    unfold second
    omega
  simp only [stored, textWith, truncate, subsecond, date, secondOfDay, leap, micros]

/-- An instant and what is kept of it have one text. -/
theorem IsStorable.stored_kept (storable : moment.IsStorable) :
    moment.kept.stored = moment.stored := by
  by_cases ends : moment.LeapEndsMinute
  · rw [kept_of_leapEndsMinute ends, stored_truncate]
  · have nanos := storable.nanos_lt
    rcases leap_of_not_leapEndsMinute ends with ⟨leap, inside⟩
    have fraction : moment.kept.nanos = (moment.nanos - second) / 1000 * 1000 := by
      rw [Instant.kept, if_neg ends]
    have small : ¬ second ≤ (moment.nanos - second) / 1000 * 1000 := by
      unfold second at *
      omega
    have hour : (moment.secondOfDay + 1) / 3600 = moment.secondOfDay / 3600 := by omega
    have minute : (moment.secondOfDay + 1) / 60 % 60 = moment.secondOfDay / 60 % 60 := by omega
    have written : (moment.secondOfDay + 1) % 60 = moment.secondOfDay % 60 + 1 := by omega
    have micros : (moment.nanos - second) / 1000 * 1000 % second / 1000 =
        moment.nanos % second / 1000 := by
      unfold second at *
      omega
    simp only [stored, textWith, subsecond, date_kept, secondOfDay_kept ends, fraction, hour, minute,
      written, micros, if_pos leap, if_neg small, Nat.add_zero]

/-- What is kept is the same point in time, cut to microseconds. -/
theorem microseconds_kept (moment : Instant) :
    moment.kept.seconds * 1000000 + moment.kept.nanos / 1000 =
      moment.seconds * 1000000 + moment.nanos / 1000 := by
  rw [Instant.kept]
  split
  · simp only [truncate]
    omega
  · rename_i inside
    have leap := (leap_of_not_leapEndsMinute inside).1
    simp only []
    unfold second at *
    omega

end

/-! ## The written text -/

/-- The written text, field by field. -/
theorem toList_stored {moment : Instant} (storable : moment.IsStorable) :
    moment.stored.toList =
      Text.fixed 4 moment.date.year.toNat ++ '-' ::
        (Text.fixed 2 moment.date.month ++ '-' ::
          (Text.fixed 2 moment.date.day ++ 'T' ::
            (Text.fixed 2 (moment.secondOfDay / 3600) ++ ':' ::
              (Text.fixed 2 (moment.secondOfDay / 60 % 60) ++ ':' ::
                (Text.fixed 2 moment.writtenSecond ++ '.' ::
                  (Text.fixed 6 moment.writtenMicros ++ ['Z'])))))) := by
  rw [stored, textWith, String.toList_ofList, Date.text, Date.text.yearText,
    if_pos ⟨storable.year_nonneg, storable.year_le⟩]
  simp only [List.append_assoc, List.cons_append, writtenSecond, writtenMicros]

end Instant

namespace Timestamp

/-! ## Steps of reading -/

/-- A step of reading hands its value and the rest of the text to the next step. -/
theorem bind_of_ok {step : Reader α} {next : α → Reader β} {text rest : List Char} {value : α}
    (read : step text = .ok (value, rest)) : (step >>= next) text = next value rest := by
  simp only [bind, StateT.bind, read, Except.bind]

theorem digits_fixed_of_le {least width : Nat} (enough : least ≤ width) {value : Nat}
    (fits : value < 10 ^ width) (rest : List Char) :
    digits least (some width) (Text.fixed width value ++ rest) = .ok (value, rest) := by
  have window : (Text.fixed width value ++ rest).take width = Text.fixed width value :=
    List.take_left' (Text.length_fixed width value)
  have run : (Text.fixed width value).takeWhile Char.isDigit = Text.fixed width value := by
    have whole := Text.takeWhile_isDigit_fixed width value []
    rw [List.append_nil] at whole
    rw [whole, List.takeWhile_nil, List.append_nil]
  unfold digits
  simp only [window, run, Text.length_fixed, if_neg (Nat.not_lt.mpr enough),
    Text.ofDigitChars_fixed fits, List.drop_left' (Text.length_fixed width value)]

theorem digits_fixed (width : Nat) {value : Nat} (fits : value < 10 ^ width) (rest : List Char) :
    digits width (some width) (Text.fixed width value ++ rest) = .ok (value, rest) :=
  digits_fixed_of_le (Nat.le_refl width) fits rest

theorem literal_cons (c : Char) (rest : List Char) : literal c (c :: rest) = .ok ((), rest) := by
  simp only [literal, if_true]

theorem separator_cons (rest : List Char) : separator ('T' :: rest) = .ok ((), rest) := rfl

theorem offset_utc (colon : Reader Unit) : offset colon ['Z'] = .ok (0, []) := rfl

theorem within_of_le {low high value : Nat} (reached : low ≤ value) (bounded : value ≤ high)
    (rest : List Char) : within low high value rest = .ok (value, rest) := by
  rw [within, if_pos ⟨reached, bounded⟩]
  rfl

theorem fraction_fixed {micros : Nat} (fits : micros < 10 ^ 6) :
    fraction ('.' :: (Text.fixed 6 micros ++ ['Z'])) = .ok (micros * 1000, ['Z']) := by
  have window : (Text.fixed 6 micros ++ ['Z']).take 9 = Text.fixed 6 micros ++ ['Z'] :=
    List.take_of_length_le (by rw [List.length_append, Text.length_fixed]; decide)
  have run : (Text.fixed 6 micros ++ ['Z']).takeWhile Char.isDigit = Text.fixed 6 micros := by
    rw [Text.takeWhile_isDigit_fixed]
    exact List.append_nil _
  have filled : Text.fixed 6 micros ≠ [] := List.ne_nil_of_length_pos (by
    rw [Text.length_fixed]
    decide)
  unfold fraction fractionDigits
  simp only [window, run, if_neg filled, Text.length_fixed, Text.ofDigitChars_fixed fits,
    List.drop_left' (Text.length_fixed 6 micros)]
  rfl

/-! ## The stored text -/

variable {moment : Instant}

theorem strict_stored (storable : moment.IsStorable) :
    strict moment.stored.toList =
      .ok ((⟨moment.date, moment.secondOfDay / 3600, moment.secondOfDay / 60 % 60,
        moment.writtenSecond, moment.writtenMicros * 1000⟩, 0), []) := by
  have dated := moment.isDateOf_date
  have day := dated.day_le_31
  have month := dated.month_le
  have seconds := moment.secondOfDay_lt
  have micros := moment.writtenMicros_lt
  have year : (moment.date.year.toNat : Int) = moment.date.year :=
    Int.toNat_of_nonneg storable.year_nonneg
  have yearFits := storable.year_le
  have second : moment.writtenSecond ≤ 60 := by
    unfold Instant.writtenSecond
    split <;> omega
  rw [Instant.toList_stored storable, strict]
  rw [bind_of_ok (digits_fixed 4 (by omega) _), bind_of_ok (literal_cons '-' _),
    bind_of_ok (digits_fixed 2 (by omega) _),
    bind_of_ok (within_of_le dated.month_pos dated.month_le _), bind_of_ok (literal_cons '-' _),
    bind_of_ok (digits_fixed 2 (by omega) _),
    bind_of_ok (within_of_le dated.day_pos dated.day_le_31 _),
    bind_of_ok (separator_cons _),
    bind_of_ok (digits_fixed 2 (by omega) _),
    bind_of_ok (within_of_le (Nat.zero_le _) (by omega) _), bind_of_ok (literal_cons ':' _),
    bind_of_ok (digits_fixed 2 (by omega) _),
    bind_of_ok (within_of_le (Nat.zero_le _) (by omega) _), bind_of_ok (literal_cons ':' _),
    bind_of_ok (digits_fixed 2 (by omega) _),
    bind_of_ok (within_of_le (Nat.zero_le _) second _), bind_of_ok (fraction_fixed (by omega)),
    bind_of_ok (offset_utc _), year]
  rfl

/-- A storable instant lies well inside the calendar. -/
theorem seconds_bounds (storable : moment.IsStorable) :
    Instant.first.seconds ≤ moment.seconds ∧ moment.seconds ≤ Instant.lastSecond := by
  have year := Date.daysBeforeYear_yearOfDay (moment.seconds / Instant.day + daysBeforeEpoch)
  have low := daysBeforeYear_mono storable.year_nonneg
  have high := daysBeforeYear_mono (Int.add_le_add_right storable.year_le 1)
  change daysBeforeYear 0 ≤ daysBeforeYear (Date.yearOfDay _) at low
  change daysBeforeYear (Date.yearOfDay _ + 1) ≤ daysBeforeYear (9999 + 1) at high
  have start : daysBeforeYear 0 = 0 := by decide
  have finish : daysBeforeYear (9999 + 1) = 3652425 := by decide
  have first : Instant.first.seconds = -8334601228800 := by decide +kernel
  have last : Instant.lastSecond = 8210266876799 := by decide +kernel
  rw [first, last]
  unfold Instant.day daysBeforeEpoch at year
  unfold Instant.day daysBeforeEpoch at low high
  omega

/-- The fields that are written name the instant, cut to microseconds. -/
theorem instantAt_written (storable : moment.IsStorable) (ends : moment.LeapEndsMinute) :
    Fields.instantAt ⟨moment.date, moment.secondOfDay / 3600, moment.secondOfDay / 60 % 60,
      moment.writtenSecond, moment.writtenMicros * 1000⟩ 0 = .ok moment.truncate := by
  have dated := moment.isDateOf_date
  have valid := dated.isValid (Int.le_trans (by decide) storable.year_nonneg)
    (Int.le_trans storable.year_le (by decide))
  have bounds := seconds_bounds storable
  have nanos := storable.nanos_lt
  have ofDay : (moment.secondOfDay : Int) = moment.seconds % 86400 := by
    unfold Instant.secondOfDay Instant.day
    omega
  have whole : moment.seconds / 86400 * 86400 + moment.seconds % 86400 = moment.seconds :=
    Int.ediv_mul_add_emod _ _
  have kept : Instant.ofDate moment.date (moment.secondOfDay / 3600 * 3600 +
        moment.secondOfDay / 60 % 60 * 60 +
          (moment.writtenSecond - if moment.writtenSecond = 60 then 1 else 0))
      (moment.writtenMicros * 1000 + (if moment.writtenSecond = 60 then 1 else 0) * Instant.second) =
      moment.truncate := by
    rw [Instant.ofDate, dated.counted, Instant.truncate]
    unfold Instant.writtenSecond Instant.writtenMicros Instant.subsecond
    unfold Instant.second at *
    unfold Instant.day
    by_cases leap : 1000000000 ≤ moment.nanos
    · have minute := ends leap
      simp only [if_pos leap, minute, Nat.reduceAdd, if_true, Instant.mk.injEq]
      constructor <;> omega
    · have small : ¬ moment.secondOfDay % 60 + 0 = 60 := by omega
      simp only [if_neg leap, if_neg small, Nat.sub_zero, Nat.zero_mul, Instant.mk.injEq]
      constructor <;> omega
  rw [Fields.instantAt, Fields.instant, if_pos valid]
  simp only [bind, Except.bind, kept]
  rw [if_neg (by decide)]
  simp only [Instant.truncate, pure, Except.pure, Int.sub_zero, if_pos bounds]

theorem ofUtc?_stored_of_leapEndsMinute (storable : moment.IsStorable)
    (ends : moment.LeapEndsMinute) : ofUtc? moment.stored = .ok moment.truncate := by
  have read : ofStrict? moment.stored = .ok (moment.truncate, 0) := by
    simp only [ofStrict?, whole, StateT.run, strict_stored storable, bind, Except.bind,
      List.isEmpty_nil, if_true, pure, Except.pure, instantAt_written storable ends]
  rw [ofUtc?, read]
  rfl

/-- A stored text is read as what is kept of its instant. -/
theorem ofUtc?_stored (storable : moment.IsStorable) : ofUtc? moment.stored = .ok moment.kept := by
  rw [← storable.stored_kept,
    ofUtc?_stored_of_leapEndsMinute storable.kept storable.kept_leapEndsMinute,
    Instant.truncate_kept]

end Timestamp
end Time
end PayloadLedger
