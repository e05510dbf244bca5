import PayloadLedger.Text.Split

namespace PayloadLedger
namespace Text

/-!
Where texts are cut.

A cut is found where it was made: the last occurrence of a character is the one behind which
it does not occur again, and the first occurrence of a mark that begins nowhere inside itself is
the one before which the mark does not occur.
-/

/-! ## The last character -/

theorem splitLast_eq_none {mark : Char} {text : List Char} (absent : mark ∉ text) :
    splitLast mark text = none := by
  induction text with
  | nil => rfl
  | cons head tail ih =>
      rw [List.mem_cons, not_or] at absent
      rw [splitLast, ih absent.2]
      exact if_neg (Ne.symm absent.1)

theorem splitLast_eq_none_iff {mark : Char} {text : List Char} :
    splitLast mark text = none ↔ mark ∉ text := by
  refine ⟨?_, splitLast_eq_none⟩
  induction text with
  | nil => exact fun _ => List.not_mem_nil
  | cons head tail ih =>
      rw [splitLast]
      cases found : splitLast mark tail with
      | some sides =>
          intro absent
          cases absent
      | none =>
          intro absent
          have other : head ≠ mark := by
            intro same
            rw [if_pos same] at absent
            cases absent
          rw [List.mem_cons, not_or]
          exact ⟨Ne.symm other, ih found⟩

/-- What stands behind the last place of a character does not hold it. -/
theorem notMem_of_splitLast {mark : Char} {text before after : List Char}
    (cut : splitLast mark text = some (before, after)) : mark ∉ after := by
  induction text generalizing before with
  | nil => cases cut
  | cons head tail ih =>
      rw [splitLast] at cut
      cases found : splitLast mark tail with
      | some sides =>
          rw [found] at cut
          cases cut
          exact ih found
      | none =>
          rw [found] at cut
          dsimp only at cut
          split at cut
          · cases cut
            exact splitLast_eq_none_iff.mp found
          · cases cut

theorem splitLast_append_cons {mark : Char} {after : List Char} (absent : mark ∉ after)
    (before : List Char) : splitLast mark (before ++ mark :: after) = some (before, after) := by
  induction before with
  | nil => rw [List.nil_append, splitLast, splitLast_eq_none absent, if_pos rfl]
  | cons head tail ih => rw [List.cons_append, splitLast, ih]

/-! ## The first mark -/

section

variable {mark text before after others : List Char} {first : Char}

theorem contains_iff : contains mark text = true ↔ mark <:+: text := by
  unfold contains
  induction text with
  | nil => simp [splitFirst, List.isEmpty_iff]
  | cons head tail ih =>
      rw [splitFirst, List.infix_cons_iff, ← ih]
      by_cases marked : mark.isPrefixOf (head :: tail) = true
      · simp only [if_pos marked, Option.isSome_some, List.isPrefixOf_iff_prefix.mp marked, true_or]
      · have elsewhere : ¬ mark <+: head :: tail := mt List.isPrefixOf_iff_prefix.mpr marked
        simp only [if_neg marked, Option.isSome_map, elsewhere, false_or]

theorem splitFirst_eq_none (unmarked : ¬ mark <:+: text) : splitFirst mark text = none := by
  rw [← contains_iff, contains, Bool.not_eq_true, Option.isSome_eq_false_iff,
    Option.isNone_iff_eq_none] at unmarked
  exact unmarked

/-- A mark that begins nowhere inside itself does not straddle the place where it was put. -/
theorem isPrefix_of_isPrefix_append (once : first ∉ others) (filled : before ≠ [])
    (marked : first :: others <+: before ++ first :: after) : first :: others <+: before := by
  rcases List.prefix_or_prefix_of_prefix marked (List.prefix_append before _) with inside | beyond
  · exact inside
  · rcases beyond with ⟨more, same⟩
    cases more with
    | nil =>
        rw [List.append_nil] at same
        exact same ▸ List.prefix_refl before
    | cons next more =>
        exfalso
        rw [← same, List.prefix_append_right_inj, List.cons_prefix_cons] at marked
        cases before with
        | nil => exact filled rfl
        | cons head tail =>
            have again : others = tail ++ next :: more := (List.cons.inj same).2.symm
            rw [again, marked.1] at once
            exact once (List.mem_append_right tail List.mem_cons_self)

theorem splitFirst_append (once : first ∉ others) (unmarked : ¬ first :: others <:+: before)
    (after : List Char) :
    splitFirst (first :: others) (before ++ first :: (others ++ after)) = some (before, after) := by
  induction before with
  | nil => simp [splitFirst]
  | cons head tail ih =>
      rw [List.infix_cons_iff, not_or] at unmarked
      have elsewhere : ¬ (first :: others).isPrefixOf
          (head :: tail ++ first :: (others ++ after)) = true := by
        rw [List.isPrefixOf_iff_prefix]
        intro marked
        exact unmarked.1 (isPrefix_of_isPrefix_append once (List.cons_ne_nil head tail) marked)
      rw [List.cons_append] at elsewhere ⊢
      rw [splitFirst, if_neg elsewhere, ih unmarked.2]
      rfl

theorem splitFirst_singleton {mark : Char} (absent : mark ∉ before) (after : List Char) :
    splitFirst [mark] (before ++ mark :: after) = some (before, after) := by
  refine splitFirst_append List.not_mem_nil ?_ after
  intro marked
  exact absent (marked.subset List.mem_cons_self)

/-- What stands before the first mark does not hold it. -/
theorem unmarked_of_splitFirst (filled : mark ≠ [])
    (cut : splitFirst mark text = some (before, after)) : ¬ mark <:+: before := by
  induction text generalizing before with
  | nil =>
      rw [splitFirst, if_neg (mt List.isEmpty_iff.mp filled)] at cut
      cases cut
  | cons head tail ih =>
      rw [splitFirst] at cut
      split at cut
      · cases cut
        rw [List.infix_nil]
        exact filled
      · next elsewhere =>
          obtain ⟨sides, found, same⟩ := Option.map_eq_some_iff.mp cut
          cases same
          rw [List.infix_cons_iff, not_or]
          refine ⟨?_, ih found⟩
          intro marked
          rw [List.isPrefixOf_iff_prefix, eq_of_splitFirst found, List.append_assoc] at elsewhere
          exact elsewhere (marked.trans (List.prefix_append (head :: sides.1) _))

end

/-! ## Texts that meet a mark -/

/-- A text without a character lies wholly before any place where that character stands. -/
theorem exists_append_of_append_eq {mark : Char} {before after text rest : List Char}
    (absent : mark ∉ before) (same : text ++ mark :: rest = before ++ after) :
    ∃ more, text = before ++ more ∧ after = more ++ mark :: rest := by
  have within : before <+: text := by
    rcases List.prefix_or_prefix_of_prefix ⟨after, same.symm⟩ (List.prefix_append text _) with
      inside | ⟨beyond, rfl⟩
    · exact inside
    · cases beyond with
      | nil => exact (List.append_nil text).symm ▸ List.prefix_refl text
      | cons next beyond =>
          rw [List.append_assoc, List.append_cancel_left_eq] at same
          rw [(List.cons.inj same).1] at absent
          exact absurd (List.mem_append_right text List.mem_cons_self) absent
  rcases within with ⟨more, rfl⟩
  rw [List.append_assoc, List.append_cancel_left_eq] at same
  exact ⟨more, rfl, same.symm⟩

/-- Whatever stands before some place of a character stands before its last place. -/
theorem isPrefix_of_append_eq {mark : Char} {front back before after : List Char}
    (absent : mark ∉ after) (same : front ++ mark :: back = before ++ mark :: after) :
    front <+: before := by
  rcases List.append_eq_append_iff.mp same with ⟨more, longer, _⟩ | ⟨more, rfl, rest⟩
  · exact ⟨more, longer.symm⟩
  · cases more with
    | nil => exact (List.append_nil before).symm ▸ List.prefix_refl before
    | cons next more =>
        have again : after = more ++ mark :: back := (List.cons.inj rest).2
        rw [again] at absent
        exact absurd (List.mem_append_right more List.mem_cons_self) absent

/-- Texts without a character are the same if they end at its first place. -/
theorem append_cons_inj {mark : Char} {before text after rest : List Char}
    (absent : mark ∉ before) (other : mark ∉ text)
    (same : before ++ mark :: after = text ++ mark :: rest) : before = text ∧ after = rest := by
  have cut := splitFirst_singleton absent after
  rw [same, splitFirst_singleton other rest] at cut
  cases cut
  exact ⟨rfl, rfl⟩

end Text
end PayloadLedger
