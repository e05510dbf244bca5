import PayloadLedger.Proofs.Text.Order
import PayloadLedger.Store.Row

namespace PayloadLedger

/-!
The packed column.

The column of a row holds the name of its state, an underscore and a time.  Three readers look at
it: the record of the row, the guard of a claim and the range of a state.  Behind an underscore
they all see the same state, whatever follows.  A name that stands alone is a state to the record
only.
-/

namespace State

/-- The text begins with the state's name and an underscore. -/
def Fronts (state : State) (packed : String) : Prop :=
  state.name.toList ++ ['_'] <+: packed.toList

theorem underscore_notMem_name (state : State) : '_' ∉ state.name.toList := by
  cases state <;> decide

/-- A column that is read as a state is its name, alone or before an underscore. -/
theorem takeWhile_of_fronts {state : State} {packed : String}
    (front : packed = state.name ∨ state.Fronts packed) :
    packed.toList.takeWhile (· ≠ '_') = state.name.toList := by
  have plain : ∀ char ∈ state.name.toList, decide (char ≠ '_') = true := by
    intro char member
    exact decide_eq_true fun same => state.underscore_notMem_name (same ▸ member)
  rcases front with rfl | ⟨rest, text⟩
  · rw [← List.append_nil state.name.toList, List.takeWhile_append_of_pos plain, List.takeWhile_nil,
      List.append_nil]
  · rw [← text, List.append_assoc, List.takeWhile_append_of_pos plain]
    simp

/-- The name of the state stands in front, and ends there or before an underscore. -/
def isReadIn (packed : String) (state : State) : Bool :=
  state.name.toList.isPrefixOf packed.toList &&
    match packed.toList.drop state.name.length with
    | [] => true
    | next :: _ => next == '_'

theorem isReadIn_iff {state : State} {packed : String} :
    isReadIn packed state = true ↔ packed = state.name ∨ state.Fronts packed := by
  rw [isReadIn, Bool.and_eq_true, List.isPrefixOf_iff_prefix, Fronts]
  constructor
  · rintro ⟨⟨rest, text⟩, ends⟩
    rw [← text, ← String.length_toList, List.drop_left] at ends
    cases rest with
    | nil =>
        rw [List.append_nil, String.toList_inj] at text
        exact .inl text.symm
    | cons next rest =>
        cases eq_of_beq ends
        right
        rw [← text]
        exact ⟨rest, by simp⟩
  · rintro (rfl | ⟨rest, text⟩)
    · simp [← String.length_toList]
    · rw [List.append_assoc] at text
      rw [← text, ← String.length_toList, List.drop_left]
      exact ⟨List.prefix_append _ _, rfl⟩

theorem ofPacked?_eq_some_iff {state : State} {packed : String} :
    ofPacked? packed = some state ↔ packed = state.name ∨ state.Fronts packed := by
  have search : ofPacked? packed = all.find? (isReadIn packed) := rfl
  rw [search, ← isReadIn_iff]
  constructor
  · intro found
    exact List.find?_some found
  · intro front
    cases found : all.find? (isReadIn packed) with
    | none => exact absurd front (List.find?_eq_none.mp found state state.mem_all)
    | some other =>
        have otherFront := takeWhile_of_fronts (isReadIn_iff.mp (List.find?_some found))
        have same := otherFront.symm.trans (takeWhile_of_fronts (isReadIn_iff.mp front))
        rw [name_injective (String.toList_inj.mp same)]

theorem Fronts.unique {state other : State} {packed : String} (front : state.Fronts packed)
    (otherFront : other.Fronts packed) : state = other := by
  have same := (takeWhile_of_fronts (.inr front)).symm.trans (takeWhile_of_fronts (.inr otherFront))
  exact name_injective (String.toList_inj.mp same)

theorem Fronts.underscore_mem {state : State} {packed : String} (front : state.Fronts packed) :
    '_' ∈ packed.toList :=
  front.subset (List.mem_append_right _ List.mem_cons_self)

end State

namespace Row

/-- The texts from an underscore behind some front up to the next character behind it are those
that begin with the front and the underscore. -/
theorem between_iff (front text : List Char) :
    (¬ text < front ++ ['_'] ∧ text < front ++ ['`']) ↔ front ++ ['_'] <+: text := by
  induction front generalizing text with
  | nil =>
      cases text with
      | nil => simp
      | cons head tail =>
          have below : head < '_' ↔ head.toNat < 95 := Iff.rfl
          have above : head < '`' ↔ head.toNat < 96 := Iff.rfl
          have here : '_' = head ↔ 95 = head.toNat := Char.toNat_inj.symm
          simp only [List.nil_append, List.cons_lt_cons_iff, List.not_lt_nil, and_false, or_false,
            List.cons_prefix_cons, List.nil_prefix, and_true, below, above, here]
          omega
  | cons first front ih =>
      cases text with
      | nil => simp
      | cons head tail =>
          rw [List.cons_append, List.cons_append, List.cons_lt_cons_iff, List.cons_lt_cons_iff,
            List.cons_prefix_cons, ← ih]
          by_cases same : head = first
          · subst same
            simp only [Std.lt_irrefl, true_and, false_or]
          · have other : first ≠ head := Ne.symm same
            simp only [same, other, false_and, or_false, not_and_self]

theorem isInState_iff {row : Row} {state : State} :
    row.isInState state = true ↔ state.Fronts row.stateUpdated := by
  rw [isInState, Bool.and_eq_true, Bool.not_eq_true', decide_eq_false_iff_not, decide_eq_true_eq,
    String.lt_iff, String.lt_iff, String.toList_append, String.toList_append, State.Fronts,
    ← between_iff]
  rfl

/-- The guard of a claim holds back what begins with the name of a state in flight and an
underscore. -/
theorem isClaimable_eq_false_iff {row : Row} :
    row.isClaimable = false ↔
      ∃ state : State, state.isInFlight = true ∧ state.Fronts row.stateUpdated := by
  have claimed : State.claimed.Fronts row.stateUpdated ↔
      row.stateUpdated.toList.take 8 = "CLAIMED_".toList :=
    List.prefix_iff_eq_take.trans eq_comm
  have processing : State.processing.Fronts row.stateUpdated ↔
      row.stateUpdated.toList.take 11 = "PROCESSING_".toList :=
    List.prefix_iff_eq_take.trans eq_comm
  rw [isClaimable, Bool.and_eq_false_iff, decide_eq_false_iff_not, decide_eq_false_iff_not,
    Decidable.not_not, Decidable.not_not, ← claimed, ← processing]
  constructor
  · rintro (front | front)
    · exact ⟨.claimed, rfl, front⟩
    · exact ⟨.processing, rfl, front⟩
  · rintro ⟨state, inFlight, front⟩
    cases state with
    | claimed => exact .inl front
    | processing => exact .inr front
    | _ => cases inFlight

variable {row : Row} {state : State} {moment : Time.Instant}

theorem isClaimable_of_fronts (front : state.Fronts row.stateUpdated) :
    row.isClaimable = !state.isInFlight := by
  cases held : state.isInFlight with
  | true => exact isClaimable_eq_false_iff.mpr ⟨state, held, front⟩
  | false =>
      apply eq_true_of_ne_false
      intro guarded
      rcases isClaimable_eq_false_iff.mp guarded with ⟨other, inFlight, otherFront⟩
      rw [← front.unique otherFront, held] at inFlight
      cases inFlight

theorem isInState_of_fronts (front : state.Fronts row.stateUpdated) (wanted : State) :
    row.isInState wanted = decide (state = wanted) := by
  rw [Bool.eq_iff_iff, isInState_iff, decide_eq_true_eq]
  constructor
  · exact front.unique
  · rintro rfl
    exact front

/-! ## Written columns -/

theorem fronts_pack (state : State) (moment : Time.Instant) : state.Fronts (pack state moment) := by
  refine ⟨moment.stored.toList, ?_⟩
  simp [pack]

theorem ofPacked?_pack (state : State) (moment : Time.Instant) :
    State.ofPacked? (pack state moment) = some state :=
  State.ofPacked?_eq_some_iff.mpr (.inr (fronts_pack state moment))

/-- The guard of a claim holds back exactly the states in flight. -/
theorem isClaimable_of_packed (packed : row.stateUpdated = pack state moment) :
    row.isClaimable = state.isTerminal := by
  rw [State.isTerminal_eq_not_isInFlight]
  exact isClaimable_of_fronts (packed ▸ fronts_pack state moment)

theorem isInState_of_packed (packed : row.stateUpdated = pack state moment) (wanted : State) :
    row.isInState wanted = decide (state = wanted) :=
  isInState_of_fronts (packed ▸ fronts_pack state moment) wanted

end Row
end PayloadLedger
