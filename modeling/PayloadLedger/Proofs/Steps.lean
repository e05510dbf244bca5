import Mathlib.Data.List.Forall2

namespace PayloadLedger

/-!
Steps that succeed.

What is read in several steps was read in each of them, and a list is read when each of its items
is.
-/

/-- A successful step is followed by the rest. -/
theorem exists_of_bind_eq_ok {step : Except ε α} {next : α → Except ε β} {last : β}
    (whole : step >>= next = .ok last) : ∃ value, step = .ok value ∧ next value = .ok last := by
  cases step with
  | error error => cases whole
  | ok value => exact ⟨value, rfl, whole⟩

theorem exists_of_isOk {step : Except ε α} (succeeded : step.isOk = true) :
    ∃ value, step = .ok value := by
  cases step with
  | error error => cases succeeded
  | ok value => exact ⟨value, rfl⟩

/-- Errors may be put in other words, but not made good. -/
theorem ok_of_mapError_eq_ok {step : Except ε α} {reword : ε → δ} {value : α}
    (whole : step.mapError reword = .ok value) : step = .ok value := by
  cases step with
  | error error => cases whole
  | ok other =>
      cases whole
      rfl

/-- What comes of a step that succeeded is made of its value. -/
theorem exists_of_map_eq_ok {step : Except ε α} {next : α → β} {last : β}
    (whole : step.map next = .ok last) : ∃ value, step = .ok value ∧ next value = last := by
  cases step with
  | error error => cases whole
  | ok value => exact ⟨value, rfl, Except.ok.inj whole⟩

/-- A list is read as what its items are related to. -/
theorem exists_mapM_eq_ok {read : α → Except ε β} {rel : α → β → Prop} {values : List α}
    (each : ∀ value ∈ values, ∃ shown, read value = .ok shown ∧ rel value shown) :
    ∃ shown, values.mapM read = .ok shown ∧ List.Forall₂ rel values shown := by
  induction values with
  | nil => exact ⟨[], rfl, .nil⟩
  | cons value values ih =>
      rcases each value List.mem_cons_self with ⟨first, reads, related⟩
      rcases ih fun other member => each other (List.mem_cons_of_mem _ member) with
        ⟨others, rest, alsoRelated⟩
      refine ⟨first :: others, ?_, .cons related alsoRelated⟩
      rw [List.mapM_cons, reads, rest]
      rfl

/-- A list is read as what its items are read as. -/
theorem mapM_eq_ok_map {read : α → Except ε β} {shown : α → β} {values : List α}
    (each : ∀ value ∈ values, read value = .ok (shown value)) :
    values.mapM read = .ok (values.map shown) := by
  have whole : ∀ value ∈ values, ∃ other, read value = .ok other ∧ shown value = other :=
    fun value member => ⟨shown value, each value member, rfl⟩
  rcases exists_mapM_eq_ok whole with ⟨others, reads, related⟩
  rw [← List.forall₂_map_left_iff, List.forall₂_eq_eq_eq] at related
  rw [reads, related]

/-- A list is read as what is left of its items when errors are dropped, if there are none. -/
theorem mapM_eq_ok_filterMap {read : α → Except ε β} {values : List α}
    (each : ∀ value ∈ values, ∃ shown, read value = .ok shown) :
    values.mapM read = .ok (values.filterMap fun value => (read value).toOption) := by
  induction values with
  | nil => rfl
  | cons value values ih =>
      rcases each value List.mem_cons_self with ⟨first, reads⟩
      rw [List.mapM_cons, List.filterMap_cons, reads,
        ih fun other member => each other (List.mem_cons_of_mem _ member)]
      rfl

/-- Whatever is in a list that was read was read. -/
theorem exists_of_mapM_eq_ok {read : α → Except ε β} {values : List α} {shown : List β}
    (whole : values.mapM read = .ok shown) : ∀ value ∈ values, ∃ first, read value = .ok first := by
  induction values generalizing shown with
  | nil =>
      intro value member
      cases member
  | cons value values ih =>
      rw [List.mapM_cons] at whole
      rcases exists_of_bind_eq_ok whole with ⟨first, reads, whole⟩
      rcases exists_of_bind_eq_ok whole with ⟨others, rest, _⟩
      intro other member
      rcases List.mem_cons.mp member with rfl | member
      · exact ⟨first, reads⟩
      · exact ih rest other member

/-- Whatever a list was read as was read from one of its items. -/
theorem exists_of_mem_mapM {read : α → Except ε β} {values : List α} {shown : List β}
    (whole : values.mapM read = .ok shown) :
    ∀ first ∈ shown, ∃ value ∈ values, read value = .ok first := by
  induction values generalizing shown with
  | nil =>
      cases whole
      exact nofun
  | cons value values ih =>
      rw [List.mapM_cons] at whole
      rcases exists_of_bind_eq_ok whole with ⟨first, reads, whole⟩
      rcases exists_of_bind_eq_ok whole with ⟨others, rest, whole⟩
      cases whole
      intro other member
      rcases List.mem_cons.mp member with rfl | member
      · exact ⟨value, List.mem_cons_self, reads⟩
      · rcases ih rest other member with ⟨later, listed, same⟩
        exact ⟨later, List.mem_cons_of_mem _ listed, same⟩

end PayloadLedger
