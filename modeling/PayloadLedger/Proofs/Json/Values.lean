import PayloadLedger.Proofs.Json.Fields
import PayloadLedger.Proofs.Json.Numbers

namespace PayloadLedger
namespace Json

/-!
Values read back.

A value without doubles is written in the compact form and read back as itself, if it is one that a
document can hold: its whole numbers fit, the fields of its objects stand in order, and arrays and
objects are not nested too deep.  Every value without doubles that was read from a document is such
a value.
-/

/-! ## Values that documents hold -/

/-- There are no doubles in the value. -/
inductive IsExact : Json → Prop
  | null : IsExact .null
  | bool (value : Bool) : IsExact (.bool value)
  | int (value : Int) : IsExact (.int value)
  | string (value : String) : IsExact (.string value)
  | array {items : List Json} (exact : ∀ item ∈ items, IsExact item) : IsExact (.array items)
  | object {fields : List (String × Json)} (exact : ∀ field ∈ fields, IsExact field.2) :
      IsExact (.object fields)

/-- The value has no doubles, and a document can hold it below some more levels of nesting. -/
inductive IsHeld : Nat → Json → Prop
  | null (depth : Nat) : IsHeld depth .null
  | bool (depth : Nat) (value : Bool) : IsHeld depth (.bool value)
  | int (depth : Nat) {value : Int} (whole : IsWhole value) : IsHeld depth (.int value)
  | string (depth : Nat) (value : String) : IsHeld depth (.string value)
  | array {depth : Nat} {items : List Json} (held : ∀ item ∈ items, IsHeld depth item) :
      IsHeld (depth + 1) (.array items)
  | object {depth : Nat} {fields : List (String × Json)} (ordered : AreSorted fields)
      (held : ∀ field ∈ fields, IsHeld depth field.2) : IsHeld (depth + 1) (.object fields)

theorem IsHeld.isExact {depth : Nat} {value : Json} (held : IsHeld depth value) : IsExact value := by
  induction held with
  | null => exact .null
  | bool => exact .bool _
  | int => exact .int _
  | string => exact .string _
  | array held ih => exact .array ih
  | object ordered held ih => exact .object ih

/-- The check whether a document can hold the value. -/
def holds : Nat → Json → Bool
  | _, .null | _, .bool _ | _, .string _ => true
  | _, .int value => decide (IsWhole value)
  | depth + 1, .array items => items.all (holds depth)
  | depth + 1, .object fields =>
      decide (AreSorted fields) && fields.all fun field => holds depth field.2
  | _, _ => false

theorem holds_iff {depth : Nat} {value : Json} : holds depth value = true ↔ IsHeld depth value := by
  constructor
  · intro checked
    induction depth generalizing value with
    | zero =>
        cases value with
        | null => exact .null 0
        | bool truth => exact .bool 0 truth
        | int whole => exact .int 0 (of_decide_eq_true checked)
        | string text => exact .string 0 text
        | float | array | object => cases checked
    | succ depth ih =>
        cases value with
        | null => exact .null _
        | bool truth => exact .bool _ truth
        | int whole => exact .int _ (of_decide_eq_true checked)
        | string text => exact .string _ text
        | float => cases checked
        | array items => exact .array fun item member => ih (List.all_eq_true.mp checked item member)
        | object fields =>
            rcases Bool.and_eq_true_iff.mp checked with ⟨ordered, checked⟩
            exact .object (of_decide_eq_true ordered) fun field member =>
              ih (List.all_eq_true.mp checked field member)
  · intro held
    induction held with
    | null depth => cases depth <;> rfl
    | bool depth _ => cases depth <;> rfl
    | int depth whole => cases depth <;> exact decide_eq_true whole
    | string depth _ => cases depth <;> rfl
    | array _ ih => exact List.all_eq_true.mpr ih
    | object ordered _ ih =>
        exact Bool.and_eq_true_iff.mpr ⟨decide_eq_true ordered, List.all_eq_true.mpr ih⟩

instance (depth : Nat) (value : Json) : Decidable (IsHeld depth value) :=
  decidable_of_iff _ holds_iff

/-! ## Written items and fields -/

/-- Items, each but the first of all with the comma before it. -/
def writtenItems (first : Bool) : List Json → List Char
  | [] => []
  | item :: items => (if first then [] else [',']) ++ compact item ++ writtenItems false items

/-- Fields, each but the first of all with the comma before it. -/
def writtenFields (first : Bool) : List (String × Json) → List Char
  | [] => []
  | (name, value) :: fields =>
      writtenField first name ++ compact value ++ writtenFields false fields

theorem compactItems_eq (items : List Json) : compactItems items = writtenItems true items := by
  induction items with
  | nil => rfl
  | cons item items ih =>
      cases items with
      | nil => simp [compactItems, writtenItems]
      | cons second items => simp [compactItems, writtenItems, ih]

theorem compactFields_eq (fields : List (String × Json)) :
    compactFields fields = writtenFields true fields := by
  induction fields with
  | nil => rfl
  | cons field fields ih =>
      cases fields with
      | nil => simp [compactFields, writtenFields, writtenField]
      | cons second fields => simp [compactFields, writtenFields, writtenField, ih]

theorem map_some_compact_array (written : List Json) (rest : Source) :
    (array written).compact.map some ++ rest =
      some '[' :: ((writtenItems true written).map some ++ some ']' :: rest) := by
  simp [compact, compactItems_eq]

theorem map_some_compact_object (written : List (String × Json)) (rest : Source) :
    (object written).compact.map some ++ rest =
      some '\x7b' :: ((writtenFields true written).map some ++ some '\x7d' :: rest) := by
  simp [compact, compactFields_eq]

/-- Numbers end before what stands behind an item. -/
theorem endsNumber_writtenItems (items : List Json) (rest : Source) :
    Source.EndsNumber ((writtenItems false items).map some ++ some ']' :: rest) := by
  cases items with
  | nil => exact Source.endsNumber_cons (by decide) rest
  | cons item items => exact Source.endsNumber_cons (by decide) _

/-- Numbers end before what stands behind a field. -/
theorem endsNumber_writtenFields (fields : List (String × Json)) (rest : Source) :
    Source.EndsNumber ((writtenFields false fields).map some ++ some '\x7d' :: rest) := by
  cases fields with
  | nil => exact Source.endsNumber_cons (by decide) rest
  | cons field fields => exact Source.endsNumber_cons (by decide) _

/-! ## Reading what was written -/

theorem isDigit_ne {c other : Char} (digit : c.isDigit = true) (plain : other.isDigit = false) :
    c ≠ other := by
  rintro rfl
  rw [plain] at digit
  cases digit

/-- A value starts with a character that neither is white space nor closes an array. -/
theorem IsHeld.compact_cons {depth : Nat} {written : Json} (held : IsHeld depth written) :
    ∃ c tail, written.compact = c :: tail ∧ Source.isSpace (some c) = false ∧ c ≠ ']' := by
  cases held with
  | null => exact ⟨'n', ['u', 'l', 'l'], rfl, rfl, by decide⟩
  | bool _ value =>
      cases value with
      | false => exact ⟨'f', ['a', 'l', 's', 'e'], rfl, rfl, by decide⟩
      | true => exact ⟨'t', ['r', 'u', 'e'], rfl, rfl, by decide⟩
  | @int _ value whole =>
      rw [compact, Text.signed]
      split
      · exact ⟨'-', _, rfl, rfl, by decide⟩
      · cases digits : Text.decimal value.natAbs with
        | nil => exact absurd digits Nat.toDigits_ne_nil
        | cons c tail =>
            have digit : c.isDigit = true :=
              Text.isDigit_of_mem_decimal (digits ▸ List.mem_cons_self)
            exact ⟨c, tail, rfl, isSpace_of_isDigit digit, isDigit_ne digit rfl⟩
  | string _ value => exact ⟨'"', _, by rw [compact, quote], rfl, by decide⟩
  | array held => exact ⟨'[', _, by rw [compact], rfl, by decide⟩
  | object ordered held => exact ⟨'\x7b', _, by rw [compact], rfl, by decide⟩

/-- The value is read from its compact form, whatever stands behind it. -/
def ReadsBack (depth : Nat) (written : Json) : Prop :=
  ∀ fuel rest, written.compact.length ≤ fuel → Source.EndsNumber rest →
    value (depth + 1) fuel (written.compact.map some ++ rest) = .ok (written, rest)

theorem nextItem_compact {depth : Nat} {item : Json} (held : IsHeld depth item) (first : Bool)
    (rest : Source) :
    nextItem first (((if first then [] else [',']) ++ compact item).map some ++ rest) =
      .ok (some ((compact item).map some ++ rest), (compact item).map some ++ rest) := by
  rcases held.compact_cons with ⟨c, tail, starts, visible, inside⟩
  have inside : some c ≠ some ']' := fun same => inside (Option.some.inj same)
  rw [starts]
  cases first with
  | true => simp [nextItem, skipSpace_cons visible, inside]
  | false =>
      simp [nextItem, skipSpace_cons (c := some ',') rfl, skipSpace_cons visible, inside]

theorem items_writtenItems {depth : Nat} {written : List Json}
    (held : ∀ item ∈ written, IsHeld depth item) (read : ∀ item ∈ written, ReadsBack depth item)
    (first : Bool) (fuel : Nat) (enough : (writtenItems first written).length < fuel)
    (rest : Source) :
    items (depth + 1) first fuel ((writtenItems first written).map some ++ some ']' :: rest) =
      .ok (written, rest) := by
  induction written generalizing first fuel with
  | nil =>
      cases fuel with
      | zero => exact absurd enough (Nat.not_lt_zero _)
      | succ fuel => rfl
  | cons item written ih =>
      cases fuel with
      | zero => exact absurd enough (Nat.not_lt_zero _)
      | succ fuel =>
          rw [writtenItems, List.length_append, List.length_append] at enough
          rcases (held item List.mem_cons_self).compact_cons with ⟨c, tail, starts, _⟩
          have filled : 0 < (compact item).length := by
            rw [starts]
            exact Nat.succ_pos _
          have here := read item List.mem_cons_self fuel
            ((writtenItems false written).map some ++ some ']' :: rest) (by omega)
            (endsNumber_writtenItems written rest)
          have others := ih (fun item member => held item (List.mem_cons_of_mem _ member))
            (fun item member => read item (List.mem_cons_of_mem _ member)) false
            fuel (by omega)
          rw [writtenItems, List.map_append, List.append_assoc, items,
            nextItem_compact (held item List.mem_cons_self)]
          simp only [here, others]

theorem fields_writtenFields {depth : Nat} {written : List (String × Json)}
    (read : ∀ field ∈ written, ReadsBack depth field.2) (first : Bool)
    (sorted : List (String × Json)) (fuel : Nat)
    (enough : (writtenFields first written).length < fuel) (rest : Source) :
    fields (depth + 1) first sorted fuel
        ((writtenFields first written).map some ++ some '\x7d' :: rest) =
      .ok (written.foldl (fun sorted field => insertField field.1 field.2 sorted) sorted, rest) := by
  induction written generalizing first sorted fuel with
  | nil =>
      cases fuel with
      | zero => exact absurd enough (Nat.not_lt_zero _)
      | succ fuel => rfl
  | cons field written ih =>
      cases fuel with
      | zero => exact absurd enough (Nat.not_lt_zero _)
      | succ fuel =>
          rcases field with ⟨name, item⟩
          rw [writtenFields, List.length_append, List.length_append] at enough
          have filled : 0 < (writtenField first name).length := by
            rw [writtenField, List.length_append]
            exact Nat.succ_pos _
          have here : value (depth + 1) fuel ((compact item).map some ++
              ((writtenFields false written).map some ++ some '\x7d' :: rest)) =
              .ok (item, (writtenFields false written).map some ++ some '\x7d' :: rest) := by
            apply read (name, item) List.mem_cons_self fuel _ _ (endsNumber_writtenFields written rest)
            change (compact item).length ≤ fuel
            omega
          have others := ih (fun field member => read field (List.mem_cons_of_mem _ member)) false
            (insertField name item sorted) fuel (by omega)
          have named := stringRest_quoted name.toList
            (some ':' :: ((compact item).map some ++
              ((writtenFields false written).map some ++ some '\x7d' :: rest)))
          rw [String.ofList_toList] at named
          rw [writtenFields, List.map_append, List.map_append, List.append_assoc,
            List.append_assoc, fields, nextKey_writtenField]
          simp only [named, colon, skipSpace_cons (c := some ':') rfl, here, others, List.foldl_cons]

/-- No value is written with no character, so that at least one step is left for it. -/
theorem IsHeld.readsBack_of_succ {depth : Nat} {written : Json} (held : IsHeld depth written)
    (read : ∀ fuel rest, written.compact.length ≤ fuel + 1 → Source.EndsNumber rest →
      value (depth + 1) (fuel + 1) (written.compact.map some ++ rest) = .ok (written, rest)) :
    ReadsBack depth written := by
  intro fuel rest enough ends
  cases fuel with
  | zero =>
      rcases held.compact_cons with ⟨c, tail, starts, _⟩
      rw [starts] at enough
      exact absurd enough (Nat.not_succ_le_zero _)
  | succ fuel => exact read fuel rest enough ends

/-- A value that a document can hold is read from its compact form. -/
theorem IsHeld.readsBack {depth : Nat} {written : Json} (held : IsHeld depth written) :
    ReadsBack depth written := by
  induction held with
  | null depth => exact (IsHeld.null depth).readsBack_of_succ fun _ _ _ _ => rfl
  | bool depth truth =>
      apply (IsHeld.bool depth truth).readsBack_of_succ
      intro fuel rest _ _
      cases truth <;> rfl
  | int depth whole =>
      apply (IsHeld.int depth whole).readsBack_of_succ
      intro fuel rest _ ends
      exact value_signed whole ends (depth + 1) fuel
  | string depth text =>
      apply (IsHeld.string depth text).readsBack_of_succ
      intro fuel rest _ _
      have read := stringRest_quoted text.toList rest
      rw [String.ofList_toList] at read
      rw [compact, map_some_quote, value, skipSpace_cons rfl]
      simp only [read]
  | @array depth written held ih =>
      apply (IsHeld.array held).readsBack_of_succ
      intro fuel rest enough _
      rw [compact, compactItems_eq, List.length_cons, List.length_append, List.length_singleton]
        at enough
      have read := items_writtenItems held ih true fuel (by omega) rest
      rw [map_some_compact_array, value, skipSpace_cons rfl]
      simp only [Nat.add_sub_cancel, read]
      exact if_neg (by omega)
  | @object depth written ordered held ih =>
      apply (IsHeld.object ordered held).readsBack_of_succ
      intro fuel rest enough _
      rw [compact, compactFields_eq, List.length_cons, List.length_append, List.length_singleton]
        at enough
      have read := fields_writtenFields ih true [] fuel (by omega) rest
      rw [foldl_insertField_nil ordered] at read
      rw [map_some_compact_object, value, skipSpace_cons rfl]
      simp only [Nat.add_sub_cancel, read]
      exact if_neg (by omega)

/-- There are enough steps for every character. -/
theorem length_le_fuelFor (text : List Char) : text.length ≤ fuelFor (text.map some) := by
  rw [fuelFor, List.length_map]
  omega

/-- A value that is nested below the limit is read from its compact form. -/
theorem IsHeld.ofText?_render {written : Json} (held : IsHeld (depthLimit - 1) written) :
    ofText? written.render = .ok written := by
  have read := held.readsBack _ [] (length_le_fuelFor _) nofun
  rw [List.append_nil] at read
  have whole : anyValue (written.compact.map some) = .ok (written, []) := read
  rw [ofText?, render, ofString_ofList, document, whole]
  rfl

/-- There is something in the compact form of a value. -/
theorem IsHeld.render_ne_empty {depth : Nat} {written : Json} (held : IsHeld depth written) :
    written.render ≠ "" := by
  rcases held.compact_cons with ⟨c, tail, starts, _⟩
  rw [render, starts]
  exact mt String.toList_eq_nil_iff.mpr (by rw [String.toList_ofList]; exact List.cons_ne_nil c tail)

/-- An object is read from its compact form, if the values of its fields are nested below the
limit. -/
theorem document_anyObject {written : List (String × Json)} (ordered : AreSorted written)
    (held : ∀ field ∈ written, IsHeld (depthLimit - 2) field.2) :
    document anyObject (Source.ofString (object written).render) = .ok written := by
  have opened : Source.ofString (object written).render =
      some '\x7b' :: ((writtenFields true written).map some ++ [some '\x7d']) := by
    rw [render, ofString_ofList, ← map_some_compact_object, List.append_nil]
  have enough : (writtenFields true written).length <
      fuelFor ((writtenFields true written).map some ++ [some '\x7d']) := by
    rw [fuelFor, List.length_append, List.length_map]
    omega
  have read := fields_writtenFields (fun field member => (held field member).readsBack) true []
    _ enough []
  rw [foldl_insertField_nil ordered] at read
  have whole : anyObject
      (some '\x7b' :: ((writtenFields true written).map some ++ [some '\x7d'])) =
      .ok (written, []) := by
    rw [anyObject, skipSpace_cons rfl]
    exact read
  rw [opened, document, whole]
  rfl

/-! ## What was read -/

theorem word_ok {expected : List Char} {meant read : α} {source rest : Source}
    (ok : word meant expected source = .ok (read, rest)) : read = meant := by
  induction expected generalizing source with
  | nil =>
      cases ok
      rfl
  | cons c expected ih =>
      unfold word at ok
      split at ok
      · cases ok
      · split at ok
        · exact ih ok
        · cases ok
      · cases ok

theorem number_isHeld {negative : Bool} {source rest : Source} {read : Json}
    (ok : number negative source = .ok (read, rest)) (exact : IsExact read) (depth : Nat) :
    IsHeld depth read := by
  rcases number_ok ok with ⟨bits, rfl⟩ | ⟨value, whole, rfl⟩
  · cases exact
  · exact .int depth whole

/-- Fields of an object that was read: they stand in order, and a document can hold the values of
those without doubles. -/
structure AreHeld (depth : Nat) (fields : List (String × Json)) : Prop where
  ordered : AreSorted fields
  held : ∀ field ∈ fields, IsExact field.2 → IsHeld depth field.2

theorem AreHeld.nil (depth : Nat) : AreHeld depth [] :=
  ⟨List.Pairwise.nil, fun _ member => absurd member List.not_mem_nil⟩

theorem AreHeld.insertField {depth : Nat} {fields : List (String × Json)}
    (read : AreHeld depth fields) (name : String) {value : Json}
    (held : IsExact value → IsHeld depth value) :
    AreHeld depth (insertField name value fields) where
  ordered := read.ordered.insertField name value
  held := by
    intro field member exact
    rcases mem_insertField member with rfl | kept
    · exact held exact
    · exact read.held field kept exact

/-- What is read in so many steps, as far as it has no doubles, can be held by a document. -/
structure ReadsHeld (fuel : Nat) : Prop where
  value : ∀ {depth source read rest}, Json.value depth fuel source = .ok (read, rest) →
    IsExact read → IsHeld (depth - 1) read
  items : ∀ {depth first source read rest}, Json.items depth first fuel source = .ok (read, rest) →
    ∀ item ∈ read, IsExact item → IsHeld (depth - 1) item
  fields : ∀ {depth first sorted source read rest},
    Json.fields depth first sorted fuel source = .ok (read, rest) →
      AreHeld (depth - 1) sorted → AreHeld (depth - 1) read

namespace ReadsHeld

variable {fuel depth : Nat} (reads : ReadsHeld fuel) {source rest : Source}

include reads

theorem value_succ {read : Json} (ok : Json.value depth (fuel + 1) source = .ok (read, rest))
    (exact : IsExact read) : IsHeld (depth - 1) read := by
  rw [Json.value] at ok
  split at ok
  · cases ok
  · rw [word_ok ok]
    exact .null _
  · rw [word_ok ok]
    exact .bool _ _
  · rw [word_ok ok]
    exact .bool _ _
  · exact number_isHeld ok exact _
  · split at ok
    · cases ok
    · cases ok
      exact .string _ _
  · split at ok
    · cases ok
    · next deep =>
        split at ok
        · cases ok
        · next read =>
            cases ok
            cases exact with
            | array exact =>
                have inner : depth - 1 = depth - 1 - 1 + 1 := by omega
                rw [inner]
                exact .array fun item member =>
                  reads.items read item member (exact item member)
  · split at ok
    · cases ok
    · next deep =>
        split at ok
        · cases ok
        · next read =>
            cases ok
            cases exact with
            | object exact =>
                have inner : depth - 1 = depth - 1 - 1 + 1 := by omega
                have held := reads.fields read (.nil _)
                rw [inner]
                exact .object held.ordered fun field member =>
                  held.held field member (exact field member)
  · split at ok
    · exact number_isHeld ok exact _
    · cases ok

theorem items_succ {first : Bool} {read : List Json}
    (ok : Json.items depth first (fuel + 1) source = .ok (read, rest)) :
    ∀ item ∈ read, IsExact item → IsHeld (depth - 1) item := by
  rw [Json.items] at ok
  split at ok
  · cases ok
  · cases ok
    exact nofun
  · split at ok
    · cases ok
    · next here =>
        split at ok
        · cases ok
        · next others =>
            cases ok
            intro item member exact
            rcases List.mem_cons.mp member with rfl | later
            · exact reads.value here exact
            · exact reads.items others item later exact

theorem fields_succ {first : Bool} {sorted read : List (String × Json)}
    (ok : Json.fields depth first sorted (fuel + 1) source = .ok (read, rest))
    (held : AreHeld (depth - 1) sorted) : AreHeld (depth - 1) read := by
  rw [Json.fields] at ok
  split at ok
  · cases ok
  · cases ok
    exact held
  · split at ok
    · cases ok
    · split at ok
      · cases ok
      · split at ok
        · cases ok
        · next here => exact reads.fields ok (held.insertField _ (reads.value here))

end ReadsHeld

theorem readsHeld (fuel : Nat) : ReadsHeld fuel := by
  induction fuel with
  | zero =>
      constructor
      · intro depth source read rest ok
        cases ok
      · intro depth first source read rest ok
        cases ok
      · intro depth first sorted source read rest ok
        cases ok
  | succ fuel ih => exact ⟨ih.value_succ, ih.items_succ, ih.fields_succ⟩

/-- The fields of an object that was read stand in order, and those without doubles can be written
again. -/
theorem document_anyObject_ok {source : Source} {read : List (String × Json)}
    (ok : document anyObject source = .ok read) : AreHeld (depthLimit - 2) read := by
  unfold document at ok
  split at ok
  · cases ok
  · next inner =>
      dsimp only at ok
      split at ok
      · cases ok
        unfold anyObject at inner
        dsimp only at inner
        split at inner
        · cases inner
        · exact (readsHeld _).fields inner (.nil _)
        · cases inner
      · cases ok

end Json
end PayloadLedger
