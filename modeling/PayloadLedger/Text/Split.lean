namespace PayloadLedger
namespace Text

/-!
Cutting text at a mark.

Identifiers are taken apart in two ways: at the first occurrence of a longer mark, and at
the last occurrence of a single character.  Both cuts remove the mark and return what
stands on its two sides, so that joining the sides with the mark gives the text back.
-/

/-- The text before and after the first occurrence of `mark`. -/
def splitFirst (mark : List Char) : List Char → Option (List Char × List Char)
  | [] => if mark.isEmpty then some ([], []) else none
  | head :: tail =>
      if mark.isPrefixOf (head :: tail) then some ([], (head :: tail).drop mark.length)
      else (splitFirst mark tail).map fun sides => (head :: sides.1, sides.2)

/-- The text before and after the last occurrence of `mark`. -/
def splitLast (mark : Char) : List Char → Option (List Char × List Char)
  | [] => none
  | head :: tail =>
      match splitLast mark tail with
      | some sides => some (head :: sides.1, sides.2)
      | none => if head = mark then some ([], tail) else none

theorem eq_of_splitFirst {mark text before after : List Char}
    (cut : splitFirst mark text = some (before, after)) : text = before ++ mark ++ after := by
  induction text generalizing before with
  | nil =>
      simp only [splitFirst] at cut
      split at cut
      · next empty =>
          obtain ⟨rfl, rfl⟩ := Prod.mk.inj (Option.some.inj cut)
          simp [List.isEmpty_iff.mp empty]
      · contradiction
  | cons head tail ih =>
      simp only [splitFirst] at cut
      split at cut
      · next marked =>
          obtain ⟨rfl, rfl⟩ := Prod.mk.inj (Option.some.inj cut)
          obtain ⟨rest, same⟩ := List.isPrefixOf_iff_prefix.mp marked
          simp [← same]
      · obtain ⟨sides, found, same⟩ := Option.map_eq_some_iff.mp cut
        obtain ⟨rfl, rfl⟩ := Prod.mk.inj same
        simp [ih found]

theorem eq_of_splitLast {mark : Char} {text before after : List Char}
    (cut : splitLast mark text = some (before, after)) : text = before ++ mark :: after := by
  induction text generalizing before with
  | nil => simp [splitLast] at cut
  | cons head tail ih =>
      simp only [splitLast] at cut
      split at cut
      · next sides found =>
          obtain ⟨rfl, rfl⟩ := Prod.mk.inj (Option.some.inj cut)
          simp [ih found]
      · split at cut
        · next same =>
            obtain ⟨rfl, rfl⟩ := Prod.mk.inj (Option.some.inj cut)
            simp [same]
        · contradiction

/-- `text` contains `mark` as a run of neighbouring characters. -/
def contains (mark text : List Char) : Bool :=
  (splitFirst mark text).isSome

def join (separator : List Char) : List (List Char) → List Char
  | [] => []
  | [only] => only
  | first :: second :: rest => first ++ separator ++ join separator (second :: rest)

/-- `text` is `first` followed by more text, which is returned. -/
def dropPrefix? (first text : List Char) : Option (List Char) :=
  if first.isPrefixOf text then some (text.drop first.length) else none

end Text
end PayloadLedger
