import PayloadLedger.Time.Instant
import PayloadLedger.Time.Span

namespace PayloadLedger

/-!
How far back the calendar reaches.

A span is subtracted from an instant if the calendar has room for it.  The only bound on the spans
that are accepted is that of their milliseconds, which lies far beyond the calendar.
-/

namespace Time

namespace Instant

/-- The seconds that the calendar reaches back, a leap second counted as the one after it. -/
def sinceFirst (moment : Instant) : Int :=
  moment.seconds + (if second ≤ moment.nanos then 1 else 0) - first.seconds

theorem minus?_eq_none_iff {now : Instant} (modern : 0 ≤ now.seconds) (seconds : Nat) :
    now.minus? seconds = none ↔ now.sinceFirst < seconds := by
  have old : first.seconds < 0 := by decide
  unfold minus? sinceFirst
  by_cases none : seconds = 0
  · rw [if_pos none, none]
    constructor
    · nofun
    · intro before
      split at before <;> omega
  · rw [if_neg none]
    by_cases leap : second ≤ now.nanos
    · simp only [if_pos leap, ite_eq_right_iff, reduceCtorEq, imp_false, Int.not_le]
      omega
    · simp only [if_neg leap, ite_eq_right_iff, reduceCtorEq, imp_false, Int.not_le]
      omega

/-- The text gives a span that is longer than the calendar reaches back. -/
def IsExceededBy (now : Instant) (text : String) : Prop :=
  ∃ span, Span.ofText? text = .ok span ∧ now.sinceFirst < span.seconds

end Instant

/-- Digits and the letter of a unit are accepted up to the largest count and the longest span. -/
theorem Span.ofText?_eq_ok {text : String} {amount : List Char} {unit : Char} {seconds : Nat}
    (parts : text.toList = amount ++ [unit]) (given : amount ≠ [])
    (digits : amount.all Char.isDigit = true) (known : unitSeconds? unit = some seconds)
    (counted : Nat.ofDigitChars 10 amount 0 ≤ largest)
    (short : Nat.ofDigitChars 10 amount 0 * seconds ≤ longest) :
    ofText? text = .ok ⟨Nat.ofDigitChars 10 amount 0 * seconds⟩ := by
  have read : ¬ (amount = [] ∨ amount.all Char.isDigit = false) := by
    rintro (empty | other)
    · exact given empty
    · rw [digits] at other
      cases other
  rw [ofText?, parts, List.getLast?_concat, List.dropLast_concat]
  simp only [if_neg read, if_neg (Nat.not_lt.mpr counted), known, if_neg (Nat.not_lt.mpr short)]

/-- A span that is accepted, and that is longer than the calendar reaches back from its last
instant. -/
theorem Instant.isExceededBy_long {now : Instant} (last : now.seconds ≤ lastSecond) :
    now.IsExceededBy "106751991167d" := by
  have width : lastSecond + 1 - first.seconds < (106751991167 * 86400 : Nat) := by decide
  have reach : now.sinceFirst < (106751991167 * 86400 : Nat) := by
    unfold sinceFirst
    split <;> omega
  have parts : "106751991167d".toList = "106751991167".toList ++ ['d'] := rfl
  refine ⟨_, Span.ofText?_eq_ok parts (by decide) (by decide) rfl (by decide) (by decide), ?_⟩
  have amount : Nat.ofDigitChars 10 "106751991167".toList 0 = 106751991167 := by decide
  rw [amount]
  exact reach

end Time

end PayloadLedger
