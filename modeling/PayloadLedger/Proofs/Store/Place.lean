import PayloadLedger.Store.Row

namespace PayloadLedger

/-!
Places in an order.

A row has a place in an order: its sort column and its item ids.  Places are strictly ordered in
the direction of a filter, so that what comes after an item of a sorted list is the rest of the
list behind the item, also where the list itself is what comes after some position.
-/

namespace Row

theorem placeBefore_iff (first second : String × String) :
    placeBefore first second = true ↔
      first.1 < second.1 ∨ (first.1 = second.1 ∧ first.2 < second.2) := by
  simp only [placeBefore, Bool.or_eq_true, Bool.and_eq_true, decide_eq_true_eq, beq_iff_eq]

theorem placeBefore_irrefl (place : String × String) : placeBefore place place = false := by
  apply eq_false_of_ne_true
  intro before
  rw [placeBefore_iff] at before
  rcases before with less | ⟨_, less⟩
  · exact String.lt_irrefl _ less
  · exact String.lt_irrefl _ less

theorem placeBefore_trans {first second third : String × String}
    (one : placeBefore first second = true) (other : placeBefore second third = true) :
    placeBefore first third = true := by
  rw [placeBefore_iff] at *
  rcases one with less | ⟨same, less⟩
  · rcases other with further | ⟨equal, _⟩
    · exact .inl (String.lt_trans less further)
    · exact .inl (equal ▸ less)
  · rcases other with further | ⟨equal, further⟩
    · exact .inl (same ▸ further)
    · exact .inr ⟨same.trans equal, String.lt_trans less further⟩

theorem placeBefore_total {first second : String × String} (different : first ≠ second) :
    placeBefore first second = true ∨ placeBefore second first = true := by
  rw [placeBefore_iff, placeBefore_iff]
  rcases Std.lt_trichotomy first.1 second.1 with less | same | greater
  · exact .inl (.inl less)
  · rcases Std.lt_trichotomy first.2 second.2 with less | equal | greater
    · exact .inl (.inr ⟨same, less⟩)
    · exact absurd (Prod.ext same equal) different
    · exact .inr (.inr ⟨same.symm, greater⟩)
  · exact .inr (.inl greater)

end Row

namespace Filter

variable {filter : Filter}

/-- One place comes before another in the direction of the filter. -/
def precedes (filter : Filter) (one other : String × String) : Bool :=
  if filter.ascending then Row.placeBefore one other else Row.placeBefore other one

theorem precedes_irrefl (filter : Filter) (place : String × String) :
    filter.precedes place place = false := by
  unfold precedes
  split <;> exact Row.placeBefore_irrefl place

theorem precedes_trans {first second third : String × String}
    (one : filter.precedes first second = true) (other : filter.precedes second third = true) :
    filter.precedes first third = true := by
  by_cases up : filter.ascending = true
  · rw [precedes, if_pos up] at one other ⊢
    exact Row.placeBefore_trans one other
  · rw [precedes, if_neg up] at one other ⊢
    exact Row.placeBefore_trans other one

theorem precedes_asymm {one other : String × String} (before : filter.precedes one other = true) :
    filter.precedes other one = false := by
  apply eq_false_of_ne_true
  intro after
  have circle := precedes_trans before after
  rw [precedes_irrefl] at circle
  cases circle

theorem precedes_total (filter : Filter) {one other : String × String} (different : one ≠ other) :
    filter.precedes one other = true ∨ filter.precedes other one = true := by
  unfold precedes
  cases filter.ascending with
  | true => exact Row.placeBefore_total different
  | false => exact (Row.placeBefore_total different).symm

/-- Places that are not out of order two by two are not out of order altogether. -/
theorem not_precedes_trans {first second third : String × String}
    (one : filter.precedes second first = false) (other : filter.precedes third second = false) :
    filter.precedes third first = false := by
  apply eq_false_of_ne_true
  intro before
  by_cases same : second = first
  · rw [same, before] at other
    cases other
  · rcases filter.precedes_total same with less | greater
    · rw [less] at one
      cases one
    · rw [precedes_trans before greater] at other
      cases other

theorem not_precedes_total (filter : Filter) (one other : String × String) :
    (!filter.precedes other one || !filter.precedes one other) = true := by
  cases less : filter.precedes other one with
  | false => rfl
  | true =>
      rw [precedes_asymm less]
      rfl

/-- Among places with the same item ids the sort columns decide. -/
theorem precedes_items (filter : Filter) (one other items : String) :
    filter.precedes (one, items) (other, items) = false ↔
      if filter.ascending then ¬ one < other else ¬ other < one := by
  have before (first second : String) :
      Row.placeBefore (first, items) (second, items) = false ↔ ¬ first < second := by
    rw [← Bool.not_eq_true, Row.placeBefore_iff]
    simp only [String.lt_irrefl, and_false, or_false]
  rw [precedes]
  cases filter.ascending with
  | true => exact before one other
  | false => exact before other one

theorem isOrdered_eq (filter : Filter) (first second : Row) :
    Row.isOrdered filter first second =
      !filter.precedes (second.place filter.order) (first.place filter.order) := by
  unfold Row.isOrdered precedes
  cases filter.ascending <;> rfl

/-! ## Sorted lists -/

variable {place : α → String × String}

/-- The items stand strictly in the order of the filter. -/
def Sorts (filter : Filter) (place : α → String × String) (items : List α) : Prop :=
  items.Pairwise fun one other => filter.precedes (place one) (place other) = true

/-- The item comes after a position, if there is one. -/
def isPast (filter : Filter) (place : α → String × String) (position : Option Cursor) (item : α) :
    Bool :=
  match position with
  | some cursor => filter.precedes (cursor.sortValue, cursor.itemIds) (place item)
  | none => true

theorem Sorts.restrict {items : List α} (sorted : filter.Sorts place items) (wanted : α → Bool) :
    filter.Sorts place (items.filter wanted) :=
  List.Pairwise.sublist List.filter_sublist sorted

/-- What comes after an item of a sorted list is the rest of the list. -/
theorem Sorts.filter_precedes {front back : List α} {item : α}
    (sorted : filter.Sorts place (front ++ item :: back)) :
    (front ++ item :: back).filter (fun other => filter.precedes (place item) (place other)) =
      back := by
  have parts := List.pairwise_append.mp sorted
  have behind := List.pairwise_cons.mp parts.2.1
  rw [List.filter_append, List.filter_cons_of_neg (by rw [precedes_irrefl]; decide)]
  have none : front.filter (fun other => filter.precedes (place item) (place other)) = [] := by
    rw [List.filter_eq_nil_iff]
    intro other member
    have before := parts.2.2 other member item List.mem_cons_self
    rw [precedes_asymm before]
    decide
  rw [none, List.nil_append, List.filter_eq_self]
  exact behind.1

/-- What comes after an item that comes after a position is the rest of what comes after the
position. -/
theorem Sorts.filter_isPast {items front back : List α} {item : α} {position : Option Cursor}
    {cursor : Cursor} (sorted : filter.Sorts place items)
    (split : items.filter (filter.isPast place position) = front ++ item :: back)
    (here : (cursor.sortValue, cursor.itemIds) = place item) :
    items.filter (filter.isPast place (some cursor)) = back := by
  have past : filter.isPast place position item = true := by
    have member : item ∈ items.filter (filter.isPast place position) := by
      rw [split]
      exact List.mem_append_right _ List.mem_cons_self
    exact (List.mem_filter.mp member).2
  have narrowed : items.filter (filter.isPast place (some cursor)) =
      (items.filter (filter.isPast place position)).filter
        fun other => filter.precedes (place item) (place other) := by
    rw [List.filter_filter]
    apply List.filter_congr
    intro other _
    rw [isPast, here]
    cases after : filter.precedes (place item) (place other) with
    | false => rfl
    | true =>
        cases position with
        | none => rfl
        | some position => exact (precedes_trans past after).symm
  have rest := sorted.restrict (filter.isPast place position)
  rw [split] at rest
  rw [narrowed, split, rest.filter_precedes]

end Filter
end PayloadLedger
