import PayloadLedger.Proofs.Json.Strings
import PayloadLedger.Proofs.Text.Base64
import PayloadLedger.Query

namespace PayloadLedger

/-!
Cursors read back from their tokens.

The token of a cursor is read as the cursor, so that handing back a token continues at the
position that it was issued for.
-/

theorem Json.Source.ofBytes_utf8 (text : String) :
    Json.Source.ofBytes (Text.utf8 text) = Json.Source.ofString text := by
  have valid : String.fromUTF8? ⟨(Text.utf8 text).toArray⟩ = some text := by
    rw [Text.utf8, Array.toArray_toList]
    exact dif_pos text.isValidUTF8
  rw [Json.Source.ofBytes, valid]

theorem SortIndex.ofName?_name (order : SortIndex) : SortIndex.ofName? order.name = some order := by
  cases order <;> decide

namespace Cursor

open Json in
theorem render_toJson (cursor : Cursor) :
    cursor.toJson.render = String.ofList ('\x7b' ::
      (writtenField true "i" ++ (quote cursor.order.name.toList ++
        (writtenField false "v" ++ (quote cursor.sortValue.toList ++
          (writtenField false "k" ++ (quote cursor.itemIds.toList ++ ['\x7d']))))))) := by
  simp [toJson, render, compact, compactFields, writtenField]

open Json in
theorem document_toJson (cursor : Cursor) :
    document (record "Cursor" fields {}) (Source.ofString cursor.toJson.render) =
      .ok ⟨some cursor.order, some cursor.sortValue, some cursor.itemIds⟩ := by
  -- What is left of the document before each of its fields.
  let last : Source := (quote cursor.itemIds.toList).map some ++ [some '\x7d']
  let middle : Source := (quote cursor.sortValue.toList).map some ++
    ((writtenField false "k").map some ++ last)
  let start : Source := (quote cursor.order.name.toList).map some ++
    ((writtenField false "v").map some ++ middle)
  have opened : Source.ofString cursor.toJson.render =
      some '\x7b' :: ((writtenField true "i").map some ++ start) := by
    rw [render_toJson, ofString_ofList]
    simp [start, middle, last]
  rcases Nat.exists_eq_add_of_le (show 3 ≤ ((writtenField true "i").map some ++ start).length by
    simp [writtenField, quote]
    omega) with ⟨fuel, length⟩
  have order : variant (SortIndex.all.map SortIndex.name) SortIndex.ofName? start =
      .ok (cursor.order, (writtenField false "v").map some ++ middle) :=
    variant_quote (SortIndex.ofName?_name cursor.order) _
  have sortValue : text middle =
      .ok (cursor.sortValue, (writtenField false "k").map some ++ last) := text_quote _ _
  have itemIds : text last = .ok (cursor.itemIds, [some '\x7d']) := text_quote _ _
  have read : record "Cursor" fields {} (Source.ofString cursor.toJson.render) =
      .ok (⟨some cursor.order, some cursor.sortValue, some cursor.itemIds⟩, []) := by
    rw [opened, record, skipSpace_cons rfl]
    simp only [length]
    rw [show 3 + fuel + 1 = fuel + 1 + 1 + 1 + 1 by omega]
    rw [recordFields_writtenField fields[0] rfl rfl
        (by simp only [fields, List.getElem_cons_zero, order]; rfl),
      recordFields_writtenField fields[1] rfl rfl
        (by simp only [fields, List.getElem_cons_succ, List.getElem_cons_zero, sortValue]; rfl),
      recordFields_writtenField fields[2] rfl rfl
        (by simp only [fields, List.getElem_cons_succ, List.getElem_cons_zero, itemIds]; rfl)]
    rfl
  rw [document, read]
  rfl

/-- The token of a cursor is read as the cursor. -/
theorem decode_encode (cursor : Cursor) : decode cursor.encode = .ok cursor := by
  rw [decode, encode, Text.Base64.decode_encode]
  simp only [Except.mapError, bind, Except.bind, Json.Source.ofBytes_utf8, document_toJson]
  rfl

end Cursor
end PayloadLedger
