import PayloadLedger.Proofs.Json.Values

namespace PayloadLedger
namespace Json

/-!
Values nested too deep.

What stands before the first value that lies too deep is read, and that value is refused for its
depth.  So the compact form of a value without doubles is read or refused by its depth alone.
-/

/-- Reading broke off at a value that lies too deep. -/
def IsTooDeep (result : Except Fault α) : Prop :=
  ∃ unread, result = .error ⟨.recursionLimit, unread⟩

/-- The value is refused for its depth, whatever stands behind it. -/
def RefusesDepth (depth : Nat) (written : Json) : Prop :=
  ∀ fuel rest, written.compact.length ≤ fuel →
    IsTooDeep (value (depth + 1) fuel (written.compact.map some ++ rest))

theorem isTooDeep_items {high depth : Nat} {written : List Json}
    (held : ∀ item ∈ written, IsHeld high item)
    (refused : ∀ item ∈ written, ¬ IsHeld depth item → RefusesDepth depth item)
    (deep : ¬ ∀ item ∈ written, IsHeld depth item) (first : Bool) (fuel : Nat)
    (enough : (writtenItems first written).length < fuel) (rest : Source) :
    IsTooDeep (items (depth + 1) first fuel
      ((writtenItems first written).map some ++ some ']' :: rest)) := by
  induction written generalizing first fuel with
  | nil => exact absurd nofun deep
  | cons item written ih =>
      cases fuel with
      | zero => exact absurd enough (Nat.not_lt_zero _)
      | succ fuel =>
          rw [writtenItems, List.length_append, List.length_append] at enough
          rcases (held item List.mem_cons_self).compact_cons with ⟨c, tail, starts, _⟩
          have filled : 0 < (compact item).length := by
            rw [starts]
            exact Nat.succ_pos _
          rw [writtenItems, List.map_append, List.append_assoc, items,
            nextItem_compact (held item List.mem_cons_self)]
          by_cases here : IsHeld depth item
          · have read := here.readsBack fuel
              ((writtenItems false written).map some ++ some ']' :: rest) (by omega)
              (endsNumber_writtenItems written rest)
            have later : ¬ ∀ item ∈ written, IsHeld depth item := fun all =>
              deep (List.forall_mem_cons.mpr ⟨here, all⟩)
            rcases ih (fun item member => held item (List.mem_cons_of_mem _ member))
              (fun item member => refused item (List.mem_cons_of_mem _ member)) later false fuel
              (by omega) with ⟨unread, fault⟩
            simp only [read, fault]
            exact ⟨unread, rfl⟩
          · rcases refused item List.mem_cons_self here fuel
              ((writtenItems false written).map some ++ some ']' :: rest) (by omega)
              with ⟨unread, fault⟩
            simp only [fault]
            exact ⟨unread, rfl⟩

theorem isTooDeep_fields {depth : Nat} {written : List (String × Json)}
    (refused : ∀ field ∈ written, ¬ IsHeld depth field.2 → RefusesDepth depth field.2)
    (deep : ¬ ∀ field ∈ written, IsHeld depth field.2) (first : Bool)
    (sorted : List (String × Json)) (fuel : Nat)
    (enough : (writtenFields first written).length < fuel) (rest : Source) :
    IsTooDeep (fields (depth + 1) first sorted fuel
      ((writtenFields first written).map some ++ some '\x7d' :: rest)) := by
  induction written generalizing first sorted fuel with
  | nil => exact absurd nofun deep
  | cons field written ih =>
      cases fuel with
      | zero => exact absurd enough (Nat.not_lt_zero _)
      | succ fuel =>
          rcases field with ⟨name, item⟩
          rw [writtenFields, List.length_append, List.length_append] at enough
          have filled : 0 < (writtenField first name).length := by
            rw [writtenField, List.length_append]
            exact Nat.succ_pos _
          have named := stringRest_quoted name.toList
            (some ':' :: ((compact item).map some ++
              ((writtenFields false written).map some ++ some '\x7d' :: rest)))
          rw [String.ofList_toList] at named
          rw [writtenFields, List.map_append, List.map_append, List.append_assoc,
            List.append_assoc, fields, nextKey_writtenField]
          simp only [named, colon, skipSpace_cons (c := some ':') rfl]
          by_cases here : IsHeld depth item
          · have read := here.readsBack fuel
              ((writtenFields false written).map some ++ some '\x7d' :: rest) (by omega)
              (endsNumber_writtenFields written rest)
            have later : ¬ ∀ field ∈ written, IsHeld depth field.2 := fun all =>
              deep (List.forall_mem_cons.mpr ⟨here, all⟩)
            simp only [read]
            exact ih (fun field member => refused field (List.mem_cons_of_mem _ member)) later false
              (insertField name item sorted) fuel (by omega)
          · rcases refused (name, item) List.mem_cons_self here fuel
              ((writtenFields false written).map some ++ some '\x7d' :: rest)
              (by dsimp only; omega) with ⟨unread, fault⟩
            simp only [fault]
            exact ⟨unread, rfl⟩

/-- A value that a document can hold at some depth is refused at every depth too low for it. -/
theorem IsHeld.refusesDepth {high depth : Nat} {written : Json} (held : IsHeld high written)
    (deep : ¬ IsHeld depth written) : RefusesDepth depth written := by
  induction held generalizing depth with
  | null => exact absurd (.null depth) deep
  | bool _ truth => exact absurd (.bool depth truth) deep
  | int _ whole => exact absurd (.int depth whole) deep
  | string _ text => exact absurd (.string depth text) deep
  | @array _ written held ih =>
      intro fuel rest enough
      rw [compact, compactItems_eq, List.length_cons, List.length_append, List.length_singleton]
        at enough
      cases fuel with
      | zero => exact absurd enough (Nat.not_succ_le_zero _)
      | succ fuel =>
          rw [map_some_compact_array, value, skipSpace_cons rfl]
          cases depth with
          | zero => exact ⟨_, if_pos (Nat.le_refl 1)⟩
          | succ depth =>
              have inner : ¬ ∀ item ∈ written, IsHeld depth item := fun all => deep (.array all)
              rcases isTooDeep_items held (fun item member => ih item member) inner true fuel
                (by omega) rest with ⟨unread, fault⟩
              simp only [Nat.add_sub_cancel, fault]
              exact ⟨unread, if_neg (by omega)⟩
  | @object _ written ordered held ih =>
      intro fuel rest enough
      rw [compact, compactFields_eq, List.length_cons, List.length_append, List.length_singleton]
        at enough
      cases fuel with
      | zero => exact absurd enough (Nat.not_succ_le_zero _)
      | succ fuel =>
          rw [map_some_compact_object, value, skipSpace_cons rfl]
          cases depth with
          | zero => exact ⟨_, if_pos (Nat.le_refl 1)⟩
          | succ depth =>
              have inner : ¬ ∀ field ∈ written, IsHeld depth field.2 := fun all =>
                deep (.object ordered all)
              rcases isTooDeep_fields (fun field member => ih field member) inner true [] fuel
                (by omega) rest with ⟨unread, fault⟩
              simp only [Nat.add_sub_cancel, fault]
              exact ⟨unread, if_neg (by omega)⟩

/-- The compact form of a value that is nested beyond the limit is refused for that. -/
theorem IsHeld.ofText?_render_of_deep {high : Nat} {written : Json} (held : IsHeld high written)
    (deep : ¬ IsHeld (depthLimit - 1) written) :
    ∃ place, ofText? written.render = .error ⟨.recursionLimit, some place⟩ := by
  rcases held.refusesDepth deep _ [] (length_le_fuelFor _) with ⟨unread, fault⟩
  rw [List.append_nil] at fault
  have refused : anyValue (written.compact.map some) = .error ⟨.recursionLimit, unread⟩ := fault
  rw [ofText?, render, ofString_ofList, document, refused]
  exact ⟨_, rfl⟩

end Json
end PayloadLedger
