import Mathlib.Tactic.SplitIfs
import PayloadLedger.Text.Base64

namespace PayloadLedger
namespace Text

/-!
The order of texts.

Texts are compared character by character.  The bytes of a text compare in the same way: a
later character has a greater first differing byte, and no character's bytes start those of
another.
-/

theorem utf8_ofList (text : List Char) :
    utf8 (String.ofList text) = text.flatMap String.utf8EncodeChar := by
  simp [utf8, List.utf8Encode]

theorem utf8_eq_flatMap (text : String) :
    utf8 text = text.toList.flatMap String.utf8EncodeChar := by
  rw [← utf8_ofList, String.ofList_toList]

/-- Numbers are compared by their digits in base 64, of which the first may be any number. -/
private theorem lt_iff_digits (first second : Nat) :
    first < second ↔ first / 64 < second / 64 ∨
      (first / 64 = second / 64 ∧ first % 64 < second % 64) := by
  omega

private theorem toNat_byte (value : Nat) {base range : Nat} (filled : 0 < range)
    (fits : range + base ≤ 256) :
    (UInt8.ofNat (value % range + base)).toNat = value % range + base := by
  have bounded := Nat.mod_lt value filled
  rw [UInt8.toNat_ofNat', Nat.mod_eq_of_lt]
  omega

private theorem toNat_ascii {value : Nat} (ascii : value ≤ 127) :
    (UInt8.ofNat value).toNat = value :=
  Nat.mod_eq_of_lt (Nat.lt_of_le_of_lt ascii (by decide))

private theorem encodeChar_lt {first second : Char} (earlier : first < second)
    (rest others : List UInt8) :
    String.utf8EncodeChar first ++ rest < String.utf8EncodeChar second ++ others := by
  have less : first.val.toNat < second.val.toNat := earlier
  have bounded : second.val.toNat < 0x110000 := by
    rcases second.valid with low | high
    · exact Nat.lt_trans low (by decide)
    · exact high.2
  rw [lt_iff_digits, lt_iff_digits (_ / 64), lt_iff_digits (_ / 64 / 64)] at less
  simp only [Nat.div_div_eq_div_mul] at less
  unfold String.utf8EncodeChar
  dsimp only
  split_ifs <;>
    simp (disch := omega) only [List.cons_append, List.nil_append, List.cons_lt_cons_iff,
      UInt8.lt_iff_toNat_lt, ← UInt8.toNat_inj, toNat_byte, toNat_ascii] <;>
    omega

theorem append_lt_append_iff [LT α] [Std.Irrefl (α := α) (· < ·)] (front first second : List α) :
    front ++ first < front ++ second ↔ first < second := by
  induction front with
  | nil => exact Iff.rfl
  | cons head tail ih =>
      rw [List.cons_append, List.cons_append, List.cons_lt_cons_iff, ih]
      simp [Std.lt_irrefl]

private theorem flatMap_encodeChar_lt_iff (first second : List Char) :
    first.flatMap String.utf8EncodeChar < second.flatMap String.utf8EncodeChar ↔
      first < second := by
  induction first generalizing second with
  | nil =>
      cases second with
      | nil => simp
      | cons head tail =>
          have filled : (head :: tail).flatMap String.utf8EncodeChar ≠ [] := by
            simp [String.utf8EncodeChar_ne_nil]
          rcases List.exists_cons_of_ne_nil filled with ⟨byte, bytes, same⟩
          rw [same]
          simp
  | cons head tail ih =>
      cases second with
      | nil => simp
      | cons other others =>
          rw [List.cons_lt_cons_iff, List.flatMap_cons, List.flatMap_cons]
          rcases Std.lt_trichotomy head other with earlier | rfl | later
          · exact iff_of_true (encodeChar_lt earlier _ _) (Or.inl earlier)
          · rw [append_lt_append_iff, ih]
            simp
          · have reversed := encodeChar_lt later (others.flatMap String.utf8EncodeChar)
              (tail.flatMap String.utf8EncodeChar)
            refine iff_of_false (List.lt_asymm reversed) ?_
            rintro (earlier | ⟨rfl, -⟩)
            · exact absurd earlier (Std.Asymm.asymm _ _ later)
            · exact Std.lt_irrefl later

/-- Texts and their bytes have the same order. -/
theorem utf8_lt_iff (first second : String) : utf8 first < utf8 second ↔ first < second := by
  rw [utf8_eq_flatMap, utf8_eq_flatMap, flatMap_encodeChar_lt_iff, String.lt_iff]

theorem utf8_inj {first second : String} : utf8 first = utf8 second ↔ first = second := by
  constructor
  · intro same
    rcases Std.lt_trichotomy first second with less | equal | greater
    · rw [← utf8_lt_iff, same] at less
      exact absurd less (List.lt_irrefl _)
    · exact equal
    · rw [← utf8_lt_iff, same] at greater
      exact absurd greater (List.lt_irrefl _)
  · exact congrArg utf8

end Text
end PayloadLedger
