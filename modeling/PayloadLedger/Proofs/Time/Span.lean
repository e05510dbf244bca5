import PayloadLedger.Proofs.Text.Digits
import PayloadLedger.Proofs.Text.Order
import PayloadLedger.Proofs.Time.Reach

namespace PayloadLedger
namespace Time
namespace Span

/-!
How spans are spelled.

A text spells a span if it is digits and the letter of a unit, and if neither the count nor the
length is out of bounds.  Exactly these texts are read, each as the span that it spells, and any
other text is refused.  Whatever the last character of a text is, the text is cut before it and
never inside it.
-/

/-- The text is a count in digits and the letter of a unit, and stands for this span. -/
inductive Spells : String → Span → Prop
  | count {digits : List Char} {count seconds : Nat} {unit : Char}
      (denoted : Text.Denotes digits count)
      (known : (unit, seconds) ∈ [('d', 86400), ('h', 3600), ('m', 60)])
      (counted : count ≤ 2 ^ 63 - 1) (short : count * seconds ≤ (2 ^ 63 - 1) / 1000) :
      Spells (String.ofList (digits ++ [unit])) ⟨count * seconds⟩

variable {text : String} {span : Span}

theorem unitSeconds?_eq_some_iff {unit : Char} {seconds : Nat} :
    unitSeconds? unit = some seconds ↔
      (unit, seconds) ∈ [('d', 86400), ('h', 3600), ('m', 60)] := by
  simp only [List.mem_cons, Prod.mk.injEq, List.not_mem_nil, or_false]
  constructor
  · intro known
    unfold unitSeconds? at known
    split at known
    · exact .inl ⟨rfl, (Option.some.inj known).symm⟩
    · exact .inr (.inl ⟨rfl, (Option.some.inj known).symm⟩)
    · exact .inr (.inr ⟨rfl, (Option.some.inj known).symm⟩)
    · cases known
  · rintro (⟨rfl, rfl⟩ | ⟨rfl, rfl⟩ | ⟨rfl, rfl⟩) <;> rfl

/-! ## What is read -/

theorem Spells.ofText?_eq (spells : Spells text span) : ofText? text = .ok span := by
  cases spells with
  | count denoted known counted short =>
      rcases Text.denotes_iff.mp denoted with ⟨given, decimal, rfl⟩
      exact ofText?_eq_ok (String.toList_ofList) given decimal
        (unitSeconds?_eq_some_iff.mpr known) counted short

theorem spells_of_ofText? (read : ofText? text = .ok span) : Spells text span := by
  rw [ofText?] at read
  split at read
  · cases read
  next unit last =>
  rcases List.getLast?_eq_some_iff.mp last with ⟨digits, parts⟩
  rw [parts, List.dropLast_concat] at read
  dsimp only at read
  split at read
  · cases read
  next decimal =>
  rw [not_or, Bool.not_eq_false] at decimal
  split at read
  · cases read
  next counted =>
  split at read
  · cases read
  next seconds known =>
  split at read
  · cases read
  next short =>
  cases read
  have spells := Spells.count (Text.denotes_iff.mpr ⟨decimal.1, decimal.2, rfl⟩)
    (unitSeconds?_eq_some_iff.mp known) (Nat.not_lt.mp counted) (Nat.not_lt.mp short)
  rwa [← parts, String.ofList_toList] at spells

theorem ofText?_eq_ok_iff : ofText? text = .ok span ↔ Spells text span :=
  ⟨spells_of_ofText?, Spells.ofText?_eq⟩

theorem Spells.milliseconds_le (spells : Spells text span) : span.milliseconds ≤ 2 ^ 63 - 1 := by
  cases spells with
  | count _ _ _ short =>
      rw [milliseconds]
      dsimp only
      omega

/-! ## What is refused -/

theorem kind_of_ofText? {error : InputError} (failed : ofText? text = .error error) :
    error.kind = .validation := by
  rw [ofText?] at failed
  dsimp only at failed
  split at failed
  · cases failed
    rfl
  split at failed
  · cases failed
    rfl
  split at failed
  · cases failed
    rfl
  split at failed
  · cases failed
    rfl
  split at failed
  · cases failed
    rfl
  · cases failed

theorem exists_error_of_not_spells (none : ∀ span, ¬ Spells text span) :
    ∃ error, ofText? text = .error error ∧ error.kind = .validation := by
  cases read : ofText? text with
  | ok span => exact absurd (spells_of_ofText? read) (none span)
  | error error => exact ⟨error, rfl, kind_of_ofText? read⟩

/-! ## Where the text is cut -/

/-- The bytes before the last character end where a character ends, and are those of the text
without its last character. -/
theorem cut_beforeLast {unit : Char} (last : text.toList.getLast? = some unit) :
    (String.Pos.Raw.mk (text.utf8ByteSize - unit.utf8Size)).IsValid text ∧
      (Text.utf8 text).take (text.utf8ByteSize - unit.utf8Size) =
        Text.utf8 (String.ofList text.toList.dropLast) := by
  rcases List.getLast?_eq_some_iff.mp last with ⟨front, parts⟩
  have joined : text = String.ofList front ++ String.singleton unit := by
    rw [← String.toList_inj, parts, String.toList_append, String.toList_ofList,
      String.toList_singleton]
  have size : text.utf8ByteSize - unit.utf8Size = (String.ofList front).utf8ByteSize := by
    rw [joined, String.utf8ByteSize_append, String.utf8ByteSize_singleton, Nat.add_sub_cancel]
  have bytes : Text.utf8 text =
      Text.utf8 (String.ofList front) ++ String.utf8EncodeChar unit := by
    rw [Text.utf8_eq_flatMap, parts, List.flatMap_append, Text.utf8_ofList, List.flatMap_singleton]
  rw [size, parts, List.dropLast_concat]
  constructor
  · exact String.Pos.Raw.isValid_iff_exists_append.mpr ⟨_, _, joined, rfl⟩
  · rw [bytes]
    exact List.take_left' rfl

/-! ## All texts -/

/-- Every text that spells a span is read as this span, whose milliseconds fit in 64 bits with a sign,
and every other text fails validation.  Before its last character every text can be cut. -/
theorem spelled_spans_are_read (text : String) :
    (∀ span, ofText? text = .ok span ↔ Spells text span) ∧
      (∀ span, Spells text span → span.milliseconds ≤ 2 ^ 63 - 1) ∧
      ((∀ span, ¬ Spells text span) →
        ∃ error, ofText? text = .error error ∧ error.kind = .validation) ∧
      ∀ unit, text.toList.getLast? = some unit →
        (String.Pos.Raw.mk (text.utf8ByteSize - unit.utf8Size)).IsValid text ∧
          (Text.utf8 text).take (text.utf8ByteSize - unit.utf8Size) =
            Text.utf8 (String.ofList text.toList.dropLast) :=
  ⟨fun _ => ofText?_eq_ok_iff, fun _ => Spells.milliseconds_le, exists_error_of_not_spells,
    fun _ => cut_beforeLast⟩

/-- The longest span in days, the span that is a day longer, and a unit of two bytes. -/
theorem spelled_spans_are_read_longest :
    let longest : Span := ⟨106751991167 * 86400⟩
    Spells "000106751991167d" longest ∧ longest.milliseconds ≤ 2 ^ 63 - 1 ∧
      (∀ span, ¬ Spells "106751991168d" span) ∧
      (∃ error, ofText? "1é" = .error error ∧ error.kind = .validation) ∧
      (String.Pos.Raw.mk 1).IsValid "1é" ∧ (Text.utf8 "1é").take 1 = Text.utf8 "1" := by
  intro longest
  have spells : Spells "000106751991167d" longest :=
    ((spelled_spans_are_read _).1 longest).mp (by decide)
  have tooLong : ∀ span, ¬ Spells "106751991168d" span := by
    intro span spelled
    have outOfRange : ofText? "106751991168d" = .error (.spanOutOfRange "106751991168d") := by
      decide
    cases outOfRange.symm.trans (((spelled_spans_are_read _).1 span).mpr spelled)
  have unknown : ∀ span, ¬ Spells "1é" span := by
    intro span spelled
    have foreign : ofText? "1é" = .error (.unknownUnit 'é') := by decide
    cases foreign.symm.trans (((spelled_spans_are_read _).1 span).mpr spelled)
  have refused := (spelled_spans_are_read "1é").2.2.1 unknown
  have cut := (spelled_spans_are_read "1é").2.2.2 'é' (by decide)
  exact ⟨spells, (spelled_spans_are_read _).2.1 longest spells, tooLong, refused, cut⟩

end Span
end Time
end PayloadLedger
