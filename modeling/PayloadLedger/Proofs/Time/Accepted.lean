import PayloadLedger.Proofs.Time.Stored

namespace PayloadLedger
namespace Time

/-!
Instants that are accepted, and instants that are read back.

Callers may give years of any length in a local timestamp.  An accepted instant whose year has
four digits is read back from its stored text.  Any other year is stored behind a sign, which
strict timestamps do not have, and before the letter of an offset, which local ones do not have,
so that the text of such an instant is never read back.
-/

namespace Timestamp

/-! ## What reading yields -/

/-- Whatever the reader takes has a property. -/
def Yields (reader : Reader α) (holds : α → Prop) : Prop :=
  ∀ text value rest, reader text = .ok (value, rest) → holds value

theorem yields_any (reader : Reader α) : Yields reader fun _ => True :=
  fun _ _ _ _ => trivial

theorem yields_throw (fault : TimestampFault) (holds : α → Prop) :
    Yields (throw fault) holds := by
  intro text value rest read
  cases read

theorem Yields.pure {value : α} {holds : α → Prop} (known : holds value) :
    Yields (pure value) holds := by
  intro text other rest read
  cases read
  exact known

theorem Yields.bind {step : Reader α} {next : α → Reader β} {known : α → Prop} {holds : β → Prop}
    (first : Yields step known) (later : ∀ value, known value → Yields (next value) holds) :
    Yields (step >>= next) holds := by
  intro text result rest read
  cases taken : step text with
  | error fault =>
      simp only [Bind.bind, StateT.bind, taken, Except.bind] at read
      cases read
  | ok pair =>
      rcases pair with ⟨value, others⟩
      rw [bind_of_ok taken] at read
      exact later value (first text value others taken) others result rest read

theorem fraction_yields : Yields fraction (· < Instant.second) := by
  intro text value rest read
  unfold fraction at read
  split at read
  · next tail =>
      rw [fractionDigits] at read
      split at read
      · cases read
      · -- The digits that count are at most nine, and zeros fill up to nine.
        obtain ⟨rfl, rfl⟩ := Prod.mk.inj (Except.ok.inj read)
        have decimal : ∀ c ∈ (tail.take 9).takeWhile Char.isDigit, c.isDigit = true :=
          List.all_eq_true.mp List.all_takeWhile
        have short : ((tail.take 9).takeWhile Char.isDigit).length ≤ 9 :=
          Nat.le_trans (List.takeWhile_prefix _).length_le (List.length_take_le 9 tail)
        have bound := Text.ofDigitChars_lt decimal 0
        generalize (tail.take 9).takeWhile Char.isDigit = run at short bound
        have filled : 10 ^ run.length * 10 ^ (9 - run.length) = Instant.second := by
          rw [← Nat.pow_add, Nat.add_sub_cancel' short]
          rfl
        rw [Nat.zero_add, Nat.one_mul] at bound
        rw [← filled]
        exact Nat.mul_lt_mul_of_pos_right bound (Nat.pow_pos (by decide))
  · cases read
    decide

theorem strict_yields : Yields strict fun read => read.1.nanos < Instant.second := by
  unfold strict
  iterate 16
    refine (yields_any _).bind ?_
    intro _ _
  refine fraction_yields.bind ?_
  intro nanos small
  refine (yields_any _).bind ?_
  intro seconds _
  split
  · exact (yields_throw _ fun _ => False).bind fun _ never => never.elim
  · exact .pure small

theorem localTime_yields (gap : Reader Unit) (date : Date) :
    Yields (localTime gap date) fun fields => fields.nanos < Instant.second := by
  unfold localTime
  iterate 7
    refine (yields_any _).bind ?_
    intro _ _
  refine fraction_yields.bind ?_
  intro nanos small
  exact .pure small

theorem localFields_yields : Yields localFields fun fields => fields.nanos < Instant.second := by
  unfold localFields
  iterate 2
    refine (yields_any _).bind ?_
    intro _ _
  exact localTime_yields _ _

theorem whole_yields {reader : Reader α} {holds : α → Prop} (yields : Yields reader holds)
    {trailing : List Char → Bool} {text : String} {value : α}
    (read : whole reader trailing text = .ok value) : holds value := by
  rw [whole] at read
  cases taken : reader text.toList with
  | error fault =>
      simp only [StateT.run, taken, bind, Except.bind] at read
      cases read
  | ok pair =>
      simp only [StateT.run, taken, bind, Except.bind] at read
      split at read
      · cases read
        exact yields _ _ _ taken
      · cases read

/-! ## Accepted instants -/

/-- The fraction is that of one second or of a leap second, which ends a minute. -/
structure IsRegular (moment : Instant) : Prop where
  nanos_lt : moment.nanos < 2 * Instant.second
  leap : moment.LeapEndsMinute

theorem IsRegular.isStorable {moment : Instant} (regular : IsRegular moment)
    (nonneg : 0 ≤ moment.date.year) (le : moment.date.year ≤ 9999) : moment.IsStorable :=
  ⟨nonneg, le, regular.nanos_lt⟩

theorem instant_isRegular {fields : Fields} (small : fields.nanos < Instant.second)
    {moment : Instant} (named : fields.instant = .ok moment) : IsRegular moment := by
  rw [Fields.instant] at named
  split at named
  · cases named
    unfold Instant.second at small
    constructor
    · simp only [Instant.ofDate, Instant.second]
      split <;> omega
    · simp only [Instant.LeapEndsMinute, Instant.ofDate, Instant.secondOfDay, Instant.second,
        Instant.day]
      split
      · next sixty =>
          intro _
          omega
      · intro large
        omega
  · cases named

theorem instantAt_isRegular {fields : Fields} (small : fields.nanos < Instant.second)
    {moment : Instant} (named : fields.instantAt 0 = .ok moment) : IsRegular moment := by
  rw [Fields.instantAt] at named
  cases plain : fields.instant with
  | error fault =>
      rw [plain] at named
      cases named
  | ok other =>
      rw [plain] at named
      simp only [bind, Except.bind, pure, Except.pure, Int.sub_zero] at named
      rw [if_neg (by decide)] at named
      split at named
      · cases named
        exact instant_isRegular small plain
      · cases named

theorem isRegular_of_strict {text : String} {moment : Instant}
    (read : ofStrict? text = .ok (moment, 0)) : IsRegular moment := by
  rw [ofStrict?] at read
  cases taken : whole strict List.isEmpty text with
  | error fault =>
      rw [taken] at read
      cases read
  | ok pair =>
      rcases pair with ⟨fields, seconds⟩
      cases named : fields.instantAt seconds with
      | error fault =>
          simp only [taken, named, bind, Except.bind] at read
          cases read
      | ok other =>
          simp only [taken, named, bind, Except.bind] at read
          cases read
          exact instantAt_isRegular (whole_yields strict_yields taken) named

theorem isRegular_of_local {text : String} {moment : Instant}
    (read : ofLocal? text = .ok moment) : IsRegular moment := by
  rw [ofLocal?] at read
  cases taken : whole localFields List.isEmpty text with
  | error fault =>
      rw [taken] at read
      cases read
  | ok fields =>
      rw [taken] at read
      exact instant_isRegular (whole_yields localFields_yields taken) read

/-- Every accepted instant has a fraction that is written and read. -/
theorem isRegular_of_accepted {text : String} {moment : Instant}
    (accepted : ofUtc? text = .ok moment) : IsRegular moment := by
  rw [ofUtc?] at accepted
  cases read : ofStrict? text with
  | ok pair =>
      rcases pair with ⟨other, offset⟩
      simp only [read] at accepted
      by_cases utc : offset = 0
      · rw [if_pos utc] at accepted
        cases accepted
        exact isRegular_of_strict (utc ▸ read)
      · rw [if_neg utc] at accepted
        cases accepted
  | error fault =>
      simp only [read] at accepted
      cases read : ofLocal? text with
      | error fault =>
          rw [read] at accepted
          cases accepted
      | ok other =>
          rw [read] at accepted
          cases accepted
          exact isRegular_of_local read

/-! ## Years that are written behind a sign -/

theorem bind_of_error {step : Reader α} {next : α → Reader β} {text : List Char}
    {fault : TimestampFault} (failed : step text = .error fault) :
    (step >>= next) text = .error fault := by
  simp only [bind, StateT.bind, failed, Except.bind]

theorem isBlank_of_isDigit {c : Char} (digit : c.isDigit = true) : Text.isBlank c = false := by
  rw [Char.isDigit, Bool.and_eq_true, decide_eq_true_eq, decide_eq_true_eq] at digit
  have low : 48 ≤ c.toNat := UInt32.le_iff_toNat_le.mp digit.1
  have high : c.toNat ≤ 57 := UInt32.le_iff_toNat_le.mp digit.2
  simp only [Text.isBlank, Bool.or_eq_false_iff, Bool.and_eq_false_iff, decide_eq_false_iff_not,
    beq_eq_false_iff_ne]
  omega

theorem blanks_cons {c : Char} (filled : Text.isBlank c = false) (rest : List Char) :
    blanks (c :: rest) = .ok ((), c :: rest) := by
  rw [blanks, Text.trimStart, List.dropWhile_cons_of_neg (ne_true_of_eq_false filled)]

/-- A field of two digits is read behind no white space. -/
theorem field_fixed {low high value : Nat} (reached : low ≤ value) (bounded : value ≤ high)
    (fits : value < 100) (rest : List Char) :
    field low high (Text.fixed 2 value ++ rest) = .ok (value, rest) := by
  have first : Text.fixed 2 value ++ rest =
      Nat.digitChar (value / 10 % 10) :: ([Nat.digitChar (value % 10)] ++ rest) := rfl
  have member : Nat.digitChar (value / 10 % 10) ∈ Text.fixed 2 value := List.mem_cons_self
  have digit : (Nat.digitChar (value / 10 % 10)).isDigit = true :=
    Text.isDigit_of_mem_fixed member
  have filled : blanks (Text.fixed 2 value ++ rest) = .ok ((), Text.fixed 2 value ++ rest) := by
    rw [first]
    exact blanks_cons (isBlank_of_isDigit digit) _
  rw [field, bind_of_ok filled, bind_of_ok (digits_fixed_of_le (by decide) fits rest)]
  exact within_of_le reached bounded rest

theorem digits_all {run : List Char} (decimal : ∀ c ∈ run, c.isDigit = true) (filled : run ≠ [])
    (rest : List Char) :
    digits 1 none (run ++ '-' :: rest) = .ok (Nat.ofDigitChars 10 run 0, '-' :: rest) := by
  have taken : (run ++ '-' :: rest).takeWhile Char.isDigit = run := by
    rw [List.takeWhile_append_of_pos decimal, List.takeWhile_cons_of_neg (by decide),
      List.append_nil]
  have enough : ¬ run.length < 1 := Nat.not_lt.mpr (List.length_pos_iff.mpr filled)
  unfold digits
  simp only [taken, if_neg enough, List.drop_left]

/-- A signed year is read up to the next mark, unless it is too great. -/
theorem year_signed {sign : Char} (signed : sign = '-' ∨ sign = '+') {run : List Char}
    (decimal : ∀ c ∈ run, c.isDigit = true) (filled : run ≠ []) (rest : List Char) :
    (∃ value, year (sign :: (run ++ '-' :: rest)) = .ok (value, '-' :: rest)) ∨
      ∃ fault, year (sign :: (run ++ '-' :: rest)) = .error fault := by
  have value := digits_all decimal filled rest
  have got (text : List Char) : (get : Reader (List Char)) text = .ok (text, text) := rfl
  have left (text others : List Char) : (set others : Reader PUnit) text = .ok ((), others) := rfl
  rcases signed with rfl | rfl
  all_goals
    rw [year, bind_of_ok (blanks_cons (by decide) _), bind_of_ok (got _)]
    simp only
    rw [bind_of_ok (left _ _), bind_of_ok value]
    split
    · exact .inr ⟨_, bind_of_error rfl⟩
    · exact .inl ⟨_, rfl⟩

variable {moment : Instant}

theorem toList_stored_signed
    (outside : ¬ (0 ≤ moment.date.year ∧ moment.date.year ≤ 9999)) :
    ∃ sign run, (sign = '-' ∨ sign = '+') ∧ (∀ c ∈ run, c.isDigit = true) ∧ run ≠ [] ∧
      moment.stored.toList =
        sign :: (run ++ '-' ::
          (Text.fixed 2 moment.date.month ++ '-' ::
            (Text.fixed 2 moment.date.day ++ 'T' ::
              (Text.fixed 2 (moment.secondOfDay / 3600) ++ ':' ::
                (Text.fixed 2 (moment.secondOfDay / 60 % 60) ++ ':' ::
                  (Text.fixed 2 moment.writtenSecond ++ '.' ::
                    (Text.fixed 6 moment.writtenMicros ++ ['Z']))))))) := by
  refine ⟨if moment.date.year < 0 then '-' else '+', Text.padded 4 moment.date.year.natAbs, ?_,
    fun c member => Text.isDigit_of_mem_padded member, Text.padded_ne_nil _ _, ?_⟩
  · by_cases negative : moment.date.year < 0
    · exact .inl (if_pos negative)
    · exact .inr (if_neg negative)
  · rw [Instant.stored, Instant.textWith, String.toList_ofList, Date.text, Date.text.yearText,
      if_neg outside]
    simp only [List.append_assoc, List.cons_append, Instant.writtenSecond, Instant.writtenMicros]

/-- A strict timestamp does not start with a sign. -/
theorem strict_signed {sign : Char} (signed : sign = '-' ∨ sign = '+') (rest : List Char) :
    ∃ fault, strict (sign :: rest) = .error fault := by
  have other : ¬ sign.isDigit = true := by
    rcases signed with rfl | rfl <;> decide
  have failed : ∃ fault, digits 4 (some 4) (sign :: rest) = .error fault := by
    unfold digits
    simp only [List.take_succ_cons, List.takeWhile_cons_of_neg other]
    exact ⟨_, rfl⟩
  rcases failed with ⟨fault, failed⟩
  exact ⟨fault, bind_of_error failed⟩

/-- A local timestamp that is read behind a signed year ends before the letter of the offset. -/
theorem localFields_signed (outside : ¬ (0 ≤ moment.date.year ∧ moment.date.year ≤ 9999)) :
    (∃ fields, localFields moment.stored.toList = .ok (fields, ['Z'])) ∨
      ∃ fault, localFields moment.stored.toList = .error fault := by
  have dated := moment.isDateOf_date
  have day := dated.day_le_31
  have month := dated.month_le
  have seconds := moment.secondOfDay_lt
  have micros := moment.writtenMicros_lt
  have second : moment.writtenSecond ≤ 60 := by
    unfold Instant.writtenSecond
    split <;> omega
  rcases toList_stored_signed outside with ⟨sign, run, signed, decimal, filled, text⟩
  rw [text, localFields, localDate]
  have skipped (text : List Char) : (pure () : Reader Unit) text = .ok ((), text) := rfl
  simp only [bind_assoc]
  rcases year_signed signed decimal filled _ with ⟨value, read⟩ | ⟨fault, failed⟩
  · left
    rw [bind_of_ok read, bind_of_ok (skipped _), bind_of_ok (literal_cons '-' _),
      bind_of_ok (field_fixed dated.month_pos month (by omega) _), bind_of_ok (skipped _),
      bind_of_ok (literal_cons '-' _),
      bind_of_ok (field_fixed dated.day_pos day (by omega) _), pure_bind,
      bind_of_ok (literal_cons 'T' _), localTime,
      bind_of_ok (field_fixed (Nat.zero_le _) (by omega) (by omega) _), bind_of_ok (skipped _),
      bind_of_ok (literal_cons ':' _),
      bind_of_ok (field_fixed (Nat.zero_le _) (by omega) (by omega) _), bind_of_ok (skipped _),
      bind_of_ok (literal_cons ':' _),
      bind_of_ok (field_fixed (Nat.zero_le _) second (by omega) _),
      bind_of_ok (fraction_fixed (by omega))]
    exact ⟨_, rfl⟩
  · exact .inr ⟨fault, bind_of_error failed⟩

/-- An instant whose year is written behind a sign is not read back. -/
theorem ofUtc?_stored_signed (outside : ¬ (0 ≤ moment.date.year ∧ moment.date.year ≤ 9999)) :
    ∃ fault, ofUtc? moment.stored = .error (.unreadableTimestamp moment.stored fault) := by
  have strict : ∃ fault, ofStrict? moment.stored = .error fault := by
    rcases toList_stored_signed outside with ⟨sign, run, signed, _, _, text⟩
    rcases strict_signed signed _ with ⟨fault, failed⟩
    rw [← text] at failed
    refine ⟨fault, ?_⟩
    simp only [ofStrict?, whole, StateT.run, failed, bind, Except.bind]
  have plain : ∃ fault, ofLocal? moment.stored = .error fault := by
    rcases localFields_signed outside with ⟨fields, read⟩ | ⟨fault, failed⟩
    · refine ⟨.tooLong, ?_⟩
      simp only [ofLocal?, whole, StateT.run, read, bind, Except.bind]
      rfl
    · refine ⟨fault, ?_⟩
      simp only [ofLocal?, whole, StateT.run, failed, bind, Except.bind]
  rcases strict with ⟨_, strict⟩
  rcases plain with ⟨fault, plain⟩
  refine ⟨fault, ?_⟩
  rw [ofUtc?, strict]
  simp only [plain, Except.mapError]

/-- An instant that is read from its own text has a year of four digits. -/
theorem isStorable_of_accepted_stored (accepted : ofUtc? moment.stored = .ok moment) :
    moment.IsStorable := by
  have inside : 0 ≤ moment.date.year ∧ moment.date.year ≤ 9999 := by
    by_contra outside
    rcases ofUtc?_stored_signed outside with ⟨fault, failed⟩
    rw [accepted] at failed
    cases failed
  exact (isRegular_of_accepted accepted).isStorable inside.1 inside.2

end Timestamp
end Time
end PayloadLedger
