import PayloadLedger.Proofs.Json.Strings
import PayloadLedger.Proofs.Text.Digits

namespace PayloadLedger

/-!
Whole numbers read back.

A whole number is written with its digits alone.  It is read back where nothing follows that a
number could go on with, if it fits in 64 bits with or without a sign.
-/

namespace Text

private theorem digitChar_ne_zero : ∀ value < 10, value ≠ 0 → Nat.digitChar value ≠ '0' := by
  decide

/-- No digit stands before the digits of a number but zero's own. -/
theorem decimal_leading {value : Nat} (positive : value ≠ 0) :
    ∃ c tail, decimal value = c :: tail ∧ c ≠ '0' := by
  induction value using Nat.strongRecOn with
  | ind value ih =>
      by_cases single : value < 10
      · exact ⟨Nat.digitChar value, [], Nat.toDigits_of_lt_base single,
          digitChar_ne_zero value single positive⟩
      · have shorter : value / 10 < value := by omega
        rcases ih (value / 10) shorter (by omega) with ⟨c, tail, written, leading⟩
        refine ⟨c, tail ++ [Nat.digitChar (value % 10)], ?_, leading⟩
        rw [decimal, Nat.toDigits_of_base_le (by decide) (Nat.not_lt.mp single)]
        exact congrArg (· ++ [Nat.digitChar (value % 10)]) written

theorem isDigit_of_mem_decimal {value : Nat} {c : Char} (member : c ∈ decimal value) :
    c.isDigit = true :=
  Nat.isDigit_of_mem_toDigits (by decide) (by decide) member

theorem ofDigitChars_decimal (value : Nat) : Nat.ofDigitChars 10 (decimal value) 0 = value :=
  Nat.ofDigitChars_toDigits (by decide) (by decide)

theorem le_ofDigitChars (run : List Char) (start : Nat) :
    start ≤ Nat.ofDigitChars 10 run start := by
  induction run generalizing start with
  | nil => exact Nat.le_refl start
  | cons c run ih =>
      rw [Nat.ofDigitChars_cons]
      exact Nat.le_trans (by omega) (ih (10 * start + (c.toNat - '0'.toNat)))

end Text

namespace Json

/-- No number goes on here: what follows is no digit, no point and no exponent. -/
def Source.EndsNumber (rest : Source) : Prop :=
  ∀ c, rest.head? = some (some c) → c.isDigit = false ∧ c ≠ '.' ∧ c ≠ 'e' ∧ c ≠ 'E'

theorem Source.endsNumber_cons {c : Char}
    (ends : c.isDigit = false ∧ c ≠ '.' ∧ c ≠ 'e' ∧ c ≠ 'E') (rest : Source) :
    EndsNumber (some c :: rest) := by
  rintro other ⟨⟩
  exact ends

section

variable {rest : Source} (ends : rest.EndsNumber)

include ends

theorem Source.digits_append {run : List Char} (decimal : ∀ c ∈ run, c.isDigit = true) :
    Source.digits (run.map some ++ rest) = (run, rest) := by
  induction run with
  | nil =>
      rw [List.map_nil, List.nil_append]
      unfold digits
      split
      · next c tail =>
          rw [if_neg (ne_true_of_eq_false (ends c rfl).1)]
      · rfl
  | cons c run ih =>
      have others := ih fun other member => decimal other (List.mem_cons_of_mem _ member)
      rw [List.map_cons, List.cons_append, digits, if_pos (decimal c List.mem_cons_self), others]

theorem Source.digit?_of_endsNumber : Source.digit? rest = none := by
  unfold digit?
  split
  · next c tail => rw [if_neg (ne_true_of_eq_false (ends c rfl).1)]
  · rfl

/-- A significand is a whole number where no number goes on. -/
theorem numberRest_of_endsNumber (negative : Bool) (significand : Nat) :
    numberRest negative significand [] rest =
      if negative = false then .ok (.int significand, rest)
      else if significand = 0 ∨ 0x8000000000000000 < significand then
        scaled negative significand 0 rest
      else .ok (.int (-significand), rest) := by
  unfold numberRest
  split
  · exact absurd rfl (ends _ rfl).2.1
  · exact absurd rfl (ends _ rfl).2.2.1
  · exact absurd rfl (ends _ rfl).2.2.2
  · rw [if_neg (by simp)]

omit ends in
/-- Digits are taken into a significand as long as it stays small enough. -/
theorem absorb_of_le {run : List Char} {significand : Nat}
    (fits : Nat.ofDigitChars 10 run significand ≤ largestSignificand) :
    absorb significand run = (Nat.ofDigitChars 10 run significand, []) := by
  induction run generalizing significand with
  | nil => rfl
  | cons c run ih =>
      rw [Nat.ofDigitChars_cons, Nat.mul_comm] at fits ⊢
      have small := Nat.le_trans (Text.le_ofDigitChars run _) fits
      rw [absorb, if_neg (Nat.not_lt.mpr small), ih fits]

theorem number_decimal (negative : Bool) {value : Nat} (fits : value ≤ largestSignificand) :
    number negative ((Text.decimal value).map some ++ rest) =
      numberRest negative value [] rest := by
  by_cases zero : value = 0
  · subst zero
    have single : (Text.decimal 0).map some ++ rest = some '0' :: rest := rfl
    rw [single, number, Source.digit?_of_endsNumber ends]
    rfl
  · have taken : Source.digits ((Text.decimal value).map some ++ rest) =
        (Text.decimal value, rest) :=
      Source.digits_append ends fun c => Text.isDigit_of_mem_decimal
    have absorbed : absorb 0 (Text.decimal value) = (value, []) := by
      have read := Text.ofDigitChars_decimal value
      rw [absorb_of_le (by rwa [read]), read]
    rcases Text.decimal_leading zero with ⟨c, tail, written, leading⟩
    rw [written] at taken absorbed ⊢
    rw [List.map_cons, List.cons_append] at taken ⊢
    rw [number]
    · rw [taken]
      simp only [absorbed]
    · exact nofun
    · intro after same
      exact leading (Option.some.inj (List.cons.inj same).1)

end

/-! ## What is read as a number -/

/-- The whole numbers that a document can hold. -/
def IsWhole (value : Int) : Prop :=
  -0x8000000000000000 ≤ value ∧ value ≤ 0xFFFFFFFFFFFFFFFF

instance (value : Int) : Decidable (IsWhole value) :=
  inferInstanceAs (Decidable (_ ∧ _))

/-- The value is a double. -/
def IsDouble (read : Json) : Prop :=
  ∃ bits, read = .float bits

theorem scaled_ok {negative : Bool} {significand : Nat} {exponent : Int} {source rest : Source}
    {read : Json} (ok : scaled negative significand exponent source = .ok (read, rest)) :
    IsDouble read := by
  unfold scaled at ok
  split at ok
  · cases ok
    exact ⟨_, rfl⟩
  · cases ok

theorem exponentDigits_ok {negative down : Bool} {significand : Nat} {start : Int}
    {source rest : Source} {read : Json}
    (ok : exponentDigits negative significand start down source = .ok (read, rest)) :
    IsDouble read := by
  unfold exponentDigits at ok
  split at ok
  · cases ok
  · dsimp only at ok
    split at ok
    · cases ok
    · split at ok
      · split at ok
        · cases ok
        · exact scaled_ok ok
      · exact scaled_ok ok

theorem exponentPart_ok {negative : Bool} {significand : Nat} {start : Int}
    {source rest : Source} {read : Json}
    (ok : exponentPart negative significand start source = .ok (read, rest)) : IsDouble read := by
  unfold exponentPart at ok
  split at ok
  · exact exponentDigits_ok ok
  · exact exponentDigits_ok ok
  · exact exponentDigits_ok ok

theorem decimalPart_ok {negative : Bool} {significand : Nat} {start : Int}
    {source rest : Source} {read : Json}
    (ok : decimalPart negative significand start source = .ok (read, rest)) : IsDouble read := by
  unfold decimalPart at ok
  split at ok
  · cases ok
  · cases ok
  · dsimp only at ok
    unfold exponent? at ok
    split at ok
    · exact exponentPart_ok ok
    · exact exponentPart_ok ok
    · exact scaled_ok ok

theorem absorb_le {significand : Nat} (fits : significand ≤ largestSignificand)
    (run : List Char) : (absorb significand run).1 ≤ largestSignificand := by
  induction run generalizing significand with
  | nil => exact fits
  | cons c run ih =>
      rw [absorb]
      split
      · exact fits
      · next small => exact ih (Nat.not_lt.mp small)

theorem numberRest_ok {negative : Bool} {significand : Nat}
    (fits : significand ≤ largestSignificand) {unused : List Char} {source rest : Source}
    {read : Json} (ok : numberRest negative significand unused source = .ok (read, rest)) :
    IsDouble read ∨ ∃ value, IsWhole value ∧ read = .int value := by
  unfold largestSignificand at fits
  unfold numberRest at ok
  split at ok
  · exact .inl (decimalPart_ok ok)
  · exact .inl (exponentPart_ok ok)
  · exact .inl (exponentPart_ok ok)
  · split at ok
    · exact .inl (scaled_ok ok)
    · split at ok
      · cases ok
        exact .inr ⟨significand, ⟨by omega, by omega⟩, rfl⟩
      · split at ok
        · exact .inl (scaled_ok ok)
        · next small =>
            cases ok
            exact .inr ⟨-significand, ⟨by omega, by omega⟩, rfl⟩

/-- A number that was read is a double or a whole number that documents can hold. -/
theorem number_ok {negative : Bool} {source rest : Source} {read : Json}
    (ok : number negative source = .ok (read, rest)) :
    IsDouble read ∨ ∃ value, IsWhole value ∧ read = .int value := by
  unfold number at ok
  split at ok
  · cases ok
  · split at ok
    · cases ok
    · exact numberRest_ok (Nat.zero_le _) ok
  · split at ok
    · cases ok
    · exact numberRest_ok (absorb_le (Nat.zero_le _) _) ok

/-! ## Whole numbers as values -/

theorem isSpace_of_isDigit {c : Char} (digit : c.isDigit = true) :
    Source.isSpace (some c) = false := by
  unfold Source.isSpace
  split
  · next same => cases same; cases digit
  · next same => cases same; cases digit
  · next same => cases same; cases digit
  · next same => cases same; cases digit
  · rfl

/-- A value that starts with a digit is a number without a sign. -/
theorem value_digit {c : Char} (digit : c.isDigit = true) (depth fuel : Nat) (rest : Source) :
    value depth (fuel + 1) (some c :: rest) = number false (some c :: rest) := by
  have starts : (Source.digit? (some c :: rest)).isSome = true := by
    rw [Source.digit?, if_pos digit]
    rfl
  have other {special : Char} (plain : special.isDigit = false) (after : Source) :
      some c :: rest ≠ some special :: after := by
    intro same
    rw [Option.some.inj (List.cons.inj same).1, plain] at digit
    cases digit
  rw [value, skipSpace_cons (isSpace_of_isDigit digit)]
  split
  · next same => cases same
  · next same => exact absurd same (other rfl _)
  · next same => exact absurd same (other rfl _)
  · next same => exact absurd same (other rfl _)
  · next same => exact absurd same (other rfl _)
  · next same => exact absurd same (other rfl _)
  · next same => exact absurd same (other rfl _)
  · next same => exact absurd same (other rfl _)
  · rw [if_pos starts]

/-- A whole number is read as the value that it was written for. -/
theorem value_signed {written : Int} (whole : IsWhole written) {rest : Source}
    (ends : rest.EndsNumber) (depth fuel : Nat) :
    value depth (fuel + 1) ((Text.signed written).map some ++ rest) = .ok (.int written, rest) := by
  rcases whole with ⟨least, greatest⟩
  unfold Text.signed
  split
  · next negative =>
      have fits : written.natAbs ≤ largestSignificand := by
        unfold largestSignificand
        omega
      have signed : ¬ (written.natAbs = 0 ∨ 0x8000000000000000 < written.natAbs) := by omega
      have back : -(written.natAbs : Int) = written := by omega
      have read := number_decimal ends true fits
      rw [numberRest_of_endsNumber ends, if_neg (by decide), if_neg signed, back] at read
      exact read
  · next positive =>
      have fits : written.natAbs ≤ largestSignificand := by
        unfold largestSignificand
        omega
      have back : (written.natAbs : Int) = written := by omega
      have read := number_decimal ends false fits
      rw [numberRest_of_endsNumber ends, if_pos rfl, back] at read
      cases digits : Text.decimal written.natAbs with
      | nil => exact absurd digits Nat.toDigits_ne_nil
      | cons c tail =>
          have digit : c.isDigit = true :=
            Text.isDigit_of_mem_decimal (digits ▸ List.mem_cons_self)
          rw [digits, List.map_cons, List.cons_append] at read
          rw [List.map_cons, List.cons_append, value_digit digit, read]

end Json
end PayloadLedger
