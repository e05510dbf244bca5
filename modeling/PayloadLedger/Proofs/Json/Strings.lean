import PayloadLedger.Json.Shape

namespace PayloadLedger
namespace Json

/-!
Strings read back.

A string that was written between quotes is read back, whatever stands behind it, and so is
a list of such strings.  The readers work on documents, so that a written text appears here
with each of its characters as a character of a document.
-/

/-! ## Single characters -/

private theorem hexValue?_hexDigit : ∀ value < 16, hexValue? (some (hexDigit value)) = some value := by
  decide

private theorem width_hexDigit : ∀ value < 16, Source.width (some (hexDigit value)) = 1 := by
  decide

theorem hexFour_control {high low : Nat} (small : high < 16) (smaller : low < 16)
    (rest : Source) :
    hexFour (some '0' :: some '0' :: some (hexDigit high) :: some (hexDigit low) :: rest) =
      .ok (high * 16 + low, rest) := by
  have zero : hexValue? (some '0') = some 0 := rfl
  have size : ¬ Source.size (some '0' :: some '0' :: some (hexDigit high) ::
      some (hexDigit low) :: rest) < 4 := by
    have widthZero : Source.width (some '0') = 1 := rfl
    simp only [Source.size, List.map_cons, List.foldr_cons, widthZero, width_hexDigit high small,
      width_hexDigit low smaller]
    omega
  simp [hexFour, if_neg size, zero, hexValue?_hexDigit high small, hexValue?_hexDigit low smaller]

/-- A character that is not written as it is stands behind a backslash, and what is written
there is read as the character. -/
theorem escape_of_escapeChar {c : Char} (special : c = '"' ∨ c = '\\' ∨ c.toNat < 0x20) :
    ∃ tail, escapeChar c = '\\' :: tail ∧
      ∀ rest : Source, escape (tail.map some ++ rest) = .ok (c, rest) := by
  rcases special with rfl | rfl | control
  · exact ⟨['"'], rfl, fun _ => rfl⟩
  · exact ⟨['\\'], rfl, fun _ => rfl⟩
  · have notQuote : c ≠ '"' := by rintro rfl; exact absurd control (by decide)
    have notBackslash : c ≠ '\\' := by rintro rfl; exact absurd control (by decide)
    have named {code : Nat} (same : c.toNat = code) : c = Char.ofNat code := by
      rw [← same, Char.ofNat_toNat]
    unfold escapeChar
    rw [if_neg notQuote, if_neg notBackslash, if_neg (Nat.not_le.mpr control)]
    split
    · next same => exact ⟨['b'], rfl, fun _ => by rw [named same]; rfl⟩
    split
    · next same => exact ⟨['t'], rfl, fun _ => by rw [named same]; rfl⟩
    split
    · next same => exact ⟨['n'], rfl, fun _ => by rw [named same]; rfl⟩
    split
    · next same => exact ⟨['f'], rfl, fun _ => by rw [named same]; rfl⟩
    split
    · next same => exact ⟨['r'], rfl, fun _ => by rw [named same]; rfl⟩
    · refine ⟨_, rfl, fun rest => ?_⟩
      have high : c.toNat / 16 < 16 := by omega
      have low : c.toNat % 16 < 16 := by omega
      have digits := hexFour_control high low rest
      have whole : c.toNat / 16 * 16 + c.toNat % 16 = c.toNat := by omega
      rw [whole] at digits
      simp only [List.map_cons, List.map_nil, List.cons_append, List.nil_append, escape,
        unicodeEscape, digits]
      rw [if_neg (by omega), if_neg (by omega), Char.ofNat_toNat]

theorem escapeChar_plain {c : Char} (plain : ¬ (c = '"' ∨ c = '\\' ∨ c.toNat < 0x20)) :
    escapeChar c = [c] := by
  simp only [not_or, Nat.not_lt] at plain
  rw [escapeChar, if_neg plain.1, if_neg plain.2.1, if_pos plain.2.2]

theorem stringBody_escaped (c : Char) (fuel : Nat) (rest : Source) :
    stringBody (fuel + 1) ((escapeChar c).map some ++ rest) =
      match stringBody fuel rest with
      | .error fault => .error fault
      | .ok (body, rest) => .ok (some c :: body, rest) := by
  by_cases special : c = '"' ∨ c = '\\' ∨ c.toNat < 0x20
  · rcases escape_of_escapeChar special with ⟨tail, written, read⟩
    rw [written, List.map_cons, List.cons_append, stringBody]
    cases body : stringBody fuel rest with
    | error fault => simp only [read rest, body]
    | ok pair => simp only [read rest, body]
  · rw [escapeChar_plain special]
    simp only [not_or, Nat.not_lt] at special
    have notControl : isControl (some c) = false := decide_eq_false (Nat.not_lt.mpr special.2.2)
    simp only [List.map_cons, List.map_nil, List.cons_append, List.nil_append]
    rw [stringBody]
    · rw [notControl]
      rfl
    · intro same
      exact special.1 (Option.some.inj same)
    · intro same
      exact special.2.1 (Option.some.inj same)

/-! ## Strings -/

/-- The characters of a text as the characters of a document. -/
theorem ofString_ofList (text : List Char) : Source.ofString (String.ofList text) = text.map some := by
  rw [Source.ofString, String.toList_ofList]

theorem stringBody_quoted (text : List Char) (fuel : Nat) (enough : text.length < fuel)
    (rest : Source) :
    stringBody fuel ((text.flatMap escapeChar).map some ++ some '"' :: rest) =
      .ok (text.map some, rest) := by
  induction text generalizing fuel with
  | nil =>
      cases fuel with
      | zero => exact absurd enough (Nat.not_lt_zero _)
      | succ fuel => rfl
  | cons c text ih =>
      cases fuel with
      | zero => exact absurd enough (Nat.not_lt_zero _)
      | succ fuel =>
          rw [List.flatMap_cons, List.map_append, List.append_assoc, stringBody_escaped,
            ih fuel (Nat.lt_of_succ_lt_succ enough)]
          rfl

theorem length_le_length_flatMap_escapeChar (text : List Char) :
    text.length ≤ (text.flatMap escapeChar).length := by
  induction text with
  | nil => exact Nat.le_refl _
  | cons c text ih =>
      have filled : 1 ≤ (escapeChar c).length := by
        unfold escapeChar
        repeat' split
        all_goals simp
      rw [List.flatMap_cons, List.length_append, List.length_cons]
      omega

@[simp] theorem wholeText?_map_some (text : List Char) : wholeText? (text.map some) = some text := by
  induction text with
  | nil => rfl
  | cons c text ih => rw [List.map_cons, wholeText?, ih, Option.map_some]

/-- A string is read up to the quote that ends it. -/
theorem stringRest_quoted (text : List Char) (rest : Source) :
    stringRest ((text.flatMap escapeChar).map some ++ some '"' :: rest) =
      .ok (String.ofList text, rest) := by
  have enough : text.length <
      ((text.flatMap escapeChar).map some ++ some '"' :: rest).length + 1 := by
    have longer := length_le_length_flatMap_escapeChar text
    rw [List.length_append, List.length_map]
    omega
  rw [stringRest, stringBody_quoted text _ enough rest]
  simp only [wholeText?_map_some]

theorem skipSpace_cons {c : Option Char} (visible : Source.isSpace c = false) (rest : Source) :
    Source.skipSpace (c :: rest) = c :: rest :=
  List.dropWhile_cons_of_neg (by rw [visible]; decide)

/-- A written string as a document that goes on behind it. -/
theorem map_some_quote (written : String) (rest : Source) :
    (quote written.toList).map some ++ rest =
      some '"' :: ((written.toList.flatMap escapeChar).map some ++ some '"' :: rest) := by
  simp [quote]

/-- A written string is read as what its reader makes of it. -/
theorem textAs_quote {needed : String} {accept : String → Except Cause α} {written : String}
    {value : α} (accepted : accept written = .ok value) (rest : Source) :
    textAs needed accept ((quote written.toList).map some ++ rest) = .ok (value, rest) := by
  have body := stringRest_quoted written.toList rest
  rw [String.ofList_toList] at body
  rw [map_some_quote, textAs, skipSpace_cons rfl]
  simp only [body, accepted]

theorem text_quote (written : String) (rest : Source) :
    text ((quote written.toList).map some ++ rest) = .ok (written, rest) :=
  textAs_quote rfl rest

/-- The name of a variant is read from its string. -/
theorem variant_quote {known : List String} {ofName? : String → Option α} {name : String}
    {value : α} (named : ofName? name = some value) (rest : Source) :
    variant known ofName? ((quote name.toList).map some ++ rest) = .ok (value, rest) := by
  rw [map_some_quote, variant, skipSpace_cons rfl, ← map_some_quote]
  apply textAs_quote
  simp only [named]

/-! ## Lists of strings -/

/-- The items behind the first one, each with the comma before it. -/
def laterItems (items : List String) : List Char :=
  items.flatMap fun item => ',' :: quote item.toList

theorem compactItems_strings (first : String) (items : List String) :
    compactItems ((first :: items).map .string) = quote first.toList ++ laterItems items := by
  induction items generalizing first with
  | nil => simp [compactItems, compact, laterItems]
  | cons second items ih =>
      have others := ih second
      simp only [List.map_cons] at others
      simp only [List.map_cons, compactItems, others, compact, laterItems, List.flatMap_cons,
        List.cons_append]

theorem listItems_laterItems (items : List String) (fuel : Nat) (enough : items.length < fuel)
    (rest : Source) :
    listItems text false fuel ((laterItems items).map some ++ some ']' :: rest) =
      .ok (items, rest) := by
  induction items generalizing fuel with
  | nil =>
      cases fuel with
      | zero => exact absurd enough (Nat.not_lt_zero _)
      | succ fuel => rfl
  | cons item items ih =>
      cases fuel with
      | zero => exact absurd enough (Nat.not_lt_zero _)
      | succ fuel =>
          have opened : (laterItems (item :: items)).map some ++ some ']' :: rest =
              some ',' :: ((quote item.toList).map some ++
                ((laterItems items).map some ++ some ']' :: rest)) := by
            simp [laterItems]
          have next : nextItem false (some ',' :: ((quote item.toList).map some ++
              ((laterItems items).map some ++ some ']' :: rest))) =
              .ok (some ((quote item.toList).map some ++
                ((laterItems items).map some ++ some ']' :: rest)),
                (quote item.toList).map some ++
                ((laterItems items).map some ++ some ']' :: rest)) := by
            rw [map_some_quote]
            rfl
          rw [opened, listItems, next]
          simp only [text_quote, ih fuel (Nat.lt_of_succ_lt_succ enough)]

theorem length_le_length_laterItems (items : List String) :
    items.length ≤ (laterItems items).length := by
  induction items with
  | nil => exact Nat.le_refl _
  | cons item items ih =>
      have longer : (laterItems (item :: items)).length =
          (quote item.toList).length + 1 + (laterItems items).length := by
        rw [laterItems, List.flatMap_cons, List.length_append, List.length_cons, laterItems]
      rw [longer, List.length_cons]
      omega

/-- A list of strings is read up to the bracket that ends it. -/
theorem list_strings (items : List String) (rest : Source) :
    list text ((ofStrings items).compact.map some ++ rest) = .ok (items, rest) := by
  cases items with
  | nil => rfl
  | cons first items =>
      have opened : (ofStrings (first :: items)).compact.map some ++ rest =
          some '[' :: ((quote first.toList).map some ++
            ((laterItems items).map some ++ some ']' :: rest)) := by
        rw [ofStrings, compact, compactItems_strings]
        simp
      have next : nextItem true ((quote first.toList).map some ++
          ((laterItems items).map some ++ some ']' :: rest)) =
          .ok (some ((quote first.toList).map some ++
            ((laterItems items).map some ++ some ']' :: rest)),
            (quote first.toList).map some ++
            ((laterItems items).map some ++ some ']' :: rest)) := by
        rw [map_some_quote]
        rfl
      have enough : items.length < ((quote first.toList).map some ++
          ((laterItems items).map some ++ some ']' :: rest)).length := by
        have longer := length_le_length_laterItems items
        simp only [List.length_append, List.length_map, List.length_cons]
        omega
      rw [opened, list, skipSpace_cons rfl]
      simp only [listItems, next, text_quote, listItems_laterItems items _ enough]

/-- A document that holds a written list of strings. -/
theorem document_ofStrings (items : List String) :
    document (list text) (Source.ofString (ofStrings items).render) = .ok items := by
  have whole := list_strings items []
  rw [List.append_nil] at whole
  rw [render, ofString_ofList, document, whole]
  rfl

/-! ## Records -/

/-- A field as it is written behind the mark that stands before it. -/
def writtenField (first : Bool) (name : String) : List Char :=
  (if first then [] else [',']) ++ quote name.toList ++ [':']

/-- The key of a written field is found, with its closing quote still to be read. -/
theorem nextKey_writtenField (first : Bool) (name : String) (rest : Source) :
    nextKey first ((writtenField first name).map some ++ rest) =
      .ok (some ((name.toList.flatMap escapeChar).map some ++ some '"' :: some ':' :: rest),
        (name.toList.flatMap escapeChar).map some ++ some '"' :: some ':' :: rest) := by
  cases first <;> simp [writtenField, nextKey, quote, Source.skipSpace, Source.isSpace]

/-- One more field of a record is read by its own reader. -/
theorem recordFields_writtenField {known : List (FieldReader α)} {first : Bool} {fuel : Nat}
    {collected next : α} {name : String} (field : FieldReader α) {source rest : Source}
    (found : known.find? (·.name = name) = some field) (absent : field.present collected = false)
    (read : field.read collected source = .ok (next, rest)) :
    recordFields known first (fuel + 1) collected
        ((writtenField first name).map some ++ source) =
      recordFields known false fuel next rest := by
  have body := stringRest_quoted name.toList (some ':' :: source)
  rw [String.ofList_toList] at body
  rw [recordFields, nextKey_writtenField]
  simp only [body, found, absent, colon, skipSpace_cons (c := some ':') rfl, bind, Except.bind,
    read, Bool.false_eq_true, if_false]

end Json
end PayloadLedger
