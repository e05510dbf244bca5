import Mathlib.Algebra.Ring.Nat
import Mathlib.Data.List.Induction
import PayloadLedger.Text.Decimal

namespace PayloadLedger
namespace Text

/-!
Digits.

A number that fits in a fixed width is read back from its digits, and texts that start with digits
of one width compare like the numbers do.  Digits of any width are read as the number that they
stand for.
-/

theorem isDigit_of_mem_fixed {width value : Nat} {c : Char} (member : c ∈ fixed width value) :
    c.isDigit = true := by
  induction width generalizing value with
  | zero => cases member
  | succ width ih =>
      rcases List.mem_append.mp member with earlier | last
      · exact ih earlier
      · rw [List.mem_singleton.mp last, Nat.isDigit_digitChar]
        exact decide_eq_true (Nat.mod_lt _ (by decide))

theorem takeWhile_isDigit_fixed (width value : Nat) (rest : List Char) :
    (fixed width value ++ rest).takeWhile Char.isDigit =
      fixed width value ++ rest.takeWhile Char.isDigit :=
  List.takeWhile_append_of_pos fun _ member => isDigit_of_mem_fixed member

theorem ofDigitChars_fixed {width value : Nat} (fits : value < 10 ^ width) :
    Nat.ofDigitChars 10 (fixed width value) 0 = value := by
  induction width generalizing value with
  | zero => exact (Nat.lt_one_iff.mp fits).symm
  | succ width ih =>
      have shorter : value / 10 < 10 ^ width := by
        rw [Nat.pow_succ] at fits
        exact Nat.div_lt_of_lt_mul (by omega)
      rw [fixed, Nat.ofDigitChars_append, ih shorter,
        Nat.ofDigitChars_cons_digitChar_of_lt_ten (Nat.mod_lt _ (by decide)),
        Nat.ofDigitChars_nil]
      exact Nat.div_add_mod value 10

theorem ofDigitChars_lt {digits : List Char} (decimal : ∀ c ∈ digits, c.isDigit = true)
    (start : Nat) : Nat.ofDigitChars 10 digits start < (start + 1) * 10 ^ digits.length := by
  induction digits generalizing start with
  | nil => exact Nat.lt_of_lt_of_eq (Nat.lt_succ_self start) (Nat.mul_one _).symm
  | cons c digits ih =>
      have digit : c.toNat - '0'.toNat < 10 := by
        have bounds := decimal c List.mem_cons_self
        rw [Char.isDigit, Bool.and_eq_true, decide_eq_true_eq, decide_eq_true_eq] at bounds
        have large : c.toNat ≤ 57 := UInt32.le_iff_toNat_le.mp bounds.2
        have zero : '0'.toNat = 48 := rfl
        omega
      have rest := ih (fun other member => decimal other (List.mem_cons_of_mem _ member))
        (10 * start + (c.toNat - '0'.toNat))
      rw [Nat.ofDigitChars_cons, List.length_cons, Nat.pow_succ]
      calc Nat.ofDigitChars 10 digits (10 * start + (c.toNat - '0'.toNat))
          < (10 * start + (c.toNat - '0'.toNat) + 1) * 10 ^ digits.length := rest
        _ ≤ ((start + 1) * 10) * 10 ^ digits.length := Nat.mul_le_mul_right _ (by omega)
        _ = (start + 1) * (10 ^ digits.length * 10) := by
            rw [Nat.mul_assoc, Nat.mul_comm 10]

theorem isDigit_of_mem_padded {width value : Nat} {c : Char} (member : c ∈ padded width value) :
    c.isDigit = true := by
  rw [padded, List.mem_append] at member
  rcases member with filler | digit
  · rw [List.eq_of_mem_replicate filler]
    rfl
  · exact Nat.isDigit_of_mem_toDigits (by decide) (by decide) digit

theorem padded_ne_nil (width value : Nat) : padded width value ≠ [] := by
  intro empty
  rw [padded, List.append_eq_nil_iff] at empty
  exact Nat.toDigits_ne_nil empty.2

private theorem digitChar_lt_iff : ∀ first < 10, ∀ second < 10,
    (Nat.digitChar first < Nat.digitChar second ↔ first < second) := by
  decide

private theorem digitChar_eq_iff : ∀ first < 10, ∀ second < 10,
    (Nat.digitChar first = Nat.digitChar second ↔ first = second) := by
  decide

/-- Digits of one width are compared as numbers, and what follows them decides between equal
numbers. -/
theorem fixed_append_lt_iff {width first second : Nat} (fits : first < 10 ^ width)
    (alsoFits : second < 10 ^ width) (rest others : List Char) :
    fixed width first ++ rest < fixed width second ++ others ↔
      first < second ∨ (first = second ∧ rest < others) := by
  induction width generalizing first second rest others with
  | zero =>
      have equal : first = 0 ∧ second = 0 := by omega
      rw [equal.1, equal.2]
      simp [fixed]
  | succ width ih =>
      have shorter : first / 10 < 10 ^ width := by
        rw [Nat.pow_succ] at fits
        exact Nat.div_lt_of_lt_mul (by omega)
      have alsoShorter : second / 10 < 10 ^ width := by
        rw [Nat.pow_succ] at alsoFits
        exact Nat.div_lt_of_lt_mul (by omega)
      have small : first % 10 < 10 := Nat.mod_lt _ (by decide)
      have smaller : second % 10 < 10 := Nat.mod_lt _ (by decide)
      simp only [fixed, List.append_assoc, List.singleton_append]
      rw [ih shorter alsoShorter, List.cons_lt_cons_iff, digitChar_lt_iff _ small _ smaller,
        digitChar_eq_iff _ small _ smaller]
      constructor
      · rintro (earlier | ⟨same, earlier | ⟨sameDigit, later⟩⟩)
        · exact Or.inl (by omega)
        · exact Or.inl (by omega)
        · exact Or.inr ⟨by omega, later⟩
      · rintro (earlier | ⟨rfl, later⟩)
        · by_cases same : first / 10 = second / 10
          · exact Or.inr ⟨same, Or.inl (by omega)⟩
          · exact Or.inl (by omega)
        · exact Or.inr ⟨rfl, Or.inr ⟨rfl, later⟩⟩

/-! ## Digits of any width -/

/-- The number that a run of digits stands for in base ten, leading zeros included. -/
inductive Denotes : List Char → Nat → Prop
  | digit {value : Nat} (small : value < 10) : Denotes [Nat.digitChar value] value
  | append {digits : List Char} {number value : Nat} (front : Denotes digits number)
      (small : value < 10) :
      Denotes (digits ++ [Nat.digitChar value]) (10 * number + value)

theorem exists_digitChar {c : Char} (digit : c.isDigit = true) :
    ∃ value < 10, c = Nat.digitChar value := by
  rw [Char.isDigit, Bool.and_eq_true, decide_eq_true_eq, decide_eq_true_eq] at digit
  have low : 48 ≤ c.toNat := UInt32.le_iff_toNat_le.mp digit.1
  have high : c.toNat ≤ 57 := UInt32.le_iff_toNat_le.mp digit.2
  have small : c.toNat - 48 < 10 := by omega
  refine ⟨c.toNat - 48, small, Char.toNat_inj.mp ?_⟩
  rw [Nat.toNat_digitChar_of_lt_ten small]
  omega

/-- One digit or more are read as the number that they stand for. -/
theorem denotes_iff {digits : List Char} {number : Nat} :
    Denotes digits number ↔
      digits ≠ [] ∧ digits.all Char.isDigit = true ∧ Nat.ofDigitChars 10 digits 0 = number := by
  constructor
  · intro denoted
    induction denoted with
    | digit small =>
        refine ⟨List.cons_ne_nil _ _, ?_, ?_⟩
        · rw [List.all_cons, Nat.isDigit_digitChar, decide_eq_true small]
          rfl
        · rw [Nat.ofDigitChars_cons_digitChar_of_lt_ten small, Nat.ofDigitChars_nil,
            Nat.mul_zero, Nat.zero_add]
    | append front small ih =>
        refine ⟨List.append_ne_nil_of_right_ne_nil _ (List.cons_ne_nil _ _), ?_, ?_⟩
        · rw [List.all_append, ih.2.1, List.all_cons, Nat.isDigit_digitChar, decide_eq_true small]
          rfl
        · rw [Nat.ofDigitChars_append, ih.2.2, Nat.ofDigitChars_cons_digitChar_of_lt_ten small,
            Nat.ofDigitChars_nil]
  · rintro ⟨filled, decimal, rfl⟩
    induction digits using List.reverseRecOn with
    | nil => exact absurd rfl filled
    | append_singleton front c ih =>
        rw [List.all_append, Bool.and_eq_true, List.all_cons, List.all_nil, Bool.and_true] at decimal
        rcases exists_digitChar decimal.2 with ⟨value, small, rfl⟩
        rw [Nat.ofDigitChars_append, Nat.ofDigitChars_cons_digitChar_of_lt_ten small,
          Nat.ofDigitChars_nil]
        by_cases alone : front = []
        · rw [alone, List.nil_append, Nat.ofDigitChars_nil, Nat.mul_zero, Nat.zero_add]
          exact .digit small
        · exact .append (ih alone decimal.1) small

end Text
end PayloadLedger
