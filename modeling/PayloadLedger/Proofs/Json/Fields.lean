import PayloadLedger.Json.Basic

namespace PayloadLedger
namespace Json

/-!
Fields in order.

Fields are put into an object one by one, each at the place of its name and over any field of that
name.  Fields that stand in order already are put one behind the other, so that an object is made
of its own fields; and some of the names may be left out before or after, with the same outcome.
-/

/-! ## Finding a field -/

theorem lookup_cons_ite (wanted name : String) (value : Json) (fields : List (String × Json)) :
    ((name, value) :: fields).lookup wanted =
      if wanted = name then some value else fields.lookup wanted := by
  rw [List.lookup_cons]
  by_cases same : wanted = name
  · rw [if_pos same, beq_iff_eq.mpr same]
  · rw [if_neg same, beq_false_of_ne same]

/-- A field is found under its own name, and the others stay where they are. -/
theorem lookup_insertField (name wanted : String) (value : Json) (fields : List (String × Json)) :
    (insertField name value fields).lookup wanted =
      if wanted = name then some value else fields.lookup wanted := by
  induction fields with
  | nil => exact lookup_cons_ite wanted name value []
  | cons field fields ih =>
      rcases field with ⟨other, kept⟩
      rw [insertField]
      by_cases here : name = other
      · rw [if_pos here, lookup_cons_ite, lookup_cons_ite, ← here]
        by_cases same : wanted = name
        · rw [if_pos same, if_pos same]
        · rw [if_neg same, if_neg same, if_neg same]
      · rw [if_neg here]
        split
        · exact lookup_cons_ite wanted name value _
        · rw [lookup_cons_ite, lookup_cons_ite, ih]
          by_cases found : wanted = other
          · have elsewhere : wanted ≠ name := fun same => here (same.symm.trans found)
            rw [if_pos found, if_neg elsewhere, if_pos found]
          · rw [if_neg found, if_neg found]

/-- The last field of a name counts. -/
theorem lookup_foldl_insertField (wanted : String) (fields sorted : List (String × Json)) :
    (fields.foldl (fun sorted field => insertField field.1 field.2 sorted) sorted).lookup wanted =
      (fields.reverse.lookup wanted).or (sorted.lookup wanted) := by
  induction fields generalizing sorted with
  | nil => rfl
  | cons field fields ih =>
      rw [List.foldl_cons, ih, lookup_insertField, List.reverse_cons, List.lookup_append,
        lookup_cons_ite, List.lookup_nil, Option.or_assoc]
      split
      · rfl
      · rfl

/-! ## The order of fields -/

/-- The fields stand in the order of their names, each name once. -/
def AreSorted (fields : List (String × Json)) : Prop :=
  fields.Pairwise fun one other => one.1 < other.1

instance (fields : List (String × Json)) : Decidable (AreSorted fields) :=
  inferInstanceAs (Decidable (List.Pairwise _ _))

theorem mem_insertField {name : String} {value : Json} {fields : List (String × Json)}
    {field : String × Json} (member : field ∈ insertField name value fields) :
    field = (name, value) ∨ field ∈ fields := by
  induction fields with
  | nil => exact .inl (List.mem_singleton.mp member)
  | cons first fields ih =>
      rcases first with ⟨other, kept⟩
      rw [insertField] at member
      split at member
      · rcases List.mem_cons.mp member with here | later
        · exact .inl here
        · exact .inr (List.mem_cons_of_mem _ later)
      · split at member
        · exact List.mem_cons.mp member
        · rcases List.mem_cons.mp member with here | later
          · exact .inr (here ▸ List.mem_cons_self)
          · exact (ih later).imp_right (List.mem_cons_of_mem _)

theorem mem_foldl_insertField {fields sorted : List (String × Json)} {field : String × Json}
    (member : field ∈ fields.foldl (fun sorted field => insertField field.1 field.2 sorted) sorted) :
    field ∈ fields ∨ field ∈ sorted := by
  induction fields generalizing sorted with
  | nil => exact .inr member
  | cons first fields ih =>
      rcases ih member with later | early
      · exact .inl (List.mem_cons_of_mem _ later)
      · rcases mem_insertField early with rfl | early
        · exact .inl List.mem_cons_self
        · exact .inr early

namespace AreSorted

variable {fields sorted : List (String × Json)}

theorem insertField (ordered : AreSorted fields) (name : String) (value : Json) :
    AreSorted (insertField name value fields) := by
  induction fields with
  | nil => exact List.pairwise_singleton _ _
  | cons first fields ih =>
      rcases first with ⟨other, kept⟩
      rcases List.pairwise_cons.mp ordered with ⟨before, rest⟩
      rw [Json.insertField]
      split
      · next same =>
          subst same
          exact List.pairwise_cons.mpr ⟨before, rest⟩
      · next different =>
          split
          · next less =>
              refine List.pairwise_cons.mpr ⟨?_, ordered⟩
              intro later member
              rcases List.mem_cons.mp member with rfl | member
              · exact less
              · exact String.lt_trans less (before later member)
          · next notLess =>
              refine List.pairwise_cons.mpr ⟨?_, ih rest⟩
              intro later member
              rcases mem_insertField member with rfl | member
              · rcases Std.lt_trichotomy name other with less | same | greater
                · exact absurd less notLess
                · exact absurd same different
                · exact greater
              · exact before later member

theorem foldl_insertField (ordered : AreSorted sorted) (fields : List (String × Json)) :
    AreSorted
      (fields.foldl (fun sorted field => Json.insertField field.1 field.2 sorted) sorted) := by
  induction fields generalizing sorted with
  | nil => exact ordered
  | cons field fields ih => exact ih (ordered.insertField field.1 field.2)

end AreSorted

/-- A field whose name comes before all others is put in front of them. -/
theorem insertField_first {name : String} {sorted : List (String × Json)}
    (first : ∀ field ∈ sorted, name < field.1) (value : Json) :
    insertField name value sorted = (name, value) :: sorted := by
  cases sorted with
  | nil => rfl
  | cons field sorted =>
      have less : name < field.1 := first field List.mem_cons_self
      have different : name ≠ field.1 := fun same => String.lt_irrefl _ (same ▸ less)
      rw [insertField, if_neg different, if_pos less]

/-- A field whose name comes after all others is put behind them. -/
theorem insertField_last {name : String} {sorted : List (String × Json)}
    (last : ∀ field ∈ sorted, field.1 < name) (value : Json) :
    insertField name value sorted = sorted ++ [(name, value)] := by
  induction sorted with
  | nil => rfl
  | cons field sorted ih =>
      rcases field with ⟨other, kept⟩
      have less : other < name := last _ List.mem_cons_self
      have different : name ≠ other := fun same => String.lt_irrefl _ (same ▸ less)
      rw [insertField, if_neg different, if_neg (String.lt_asymm less),
        ih fun field member => last field (List.mem_cons_of_mem _ member)]
      rfl

/-- Fields that stand in order are put one behind the other. -/
theorem foldl_insertField_of_areSorted {sorted fields : List (String × Json)}
    (ordered : AreSorted (sorted ++ fields)) :
    fields.foldl (fun sorted field => insertField field.1 field.2 sorted) sorted =
      sorted ++ fields := by
  induction fields generalizing sorted with
  | nil => exact (List.append_nil sorted).symm
  | cons field fields ih =>
      have last : ∀ other ∈ sorted, other.1 < field.1 := fun other member =>
        (List.pairwise_append.mp ordered).2.2 other member field List.mem_cons_self
      rw [List.append_cons sorted field fields] at ordered ⊢
      rw [List.foldl_cons, insertField_last last]
      exact ih ordered

/-- An object is made of its own fields. -/
theorem foldl_insertField_nil {fields : List (String × Json)} (ordered : AreSorted fields) :
    fields.foldl (fun sorted field => insertField field.1 field.2 sorted) [] = fields := by
  have whole : AreSorted ([] ++ fields) := ordered
  rw [foldl_insertField_of_areSorted whole, List.nil_append]

/-! ## Leaving names out -/

section

variable (keeps : String → Bool)

theorem filter_insertField {sorted : List (String × Json)} (ordered : AreSorted sorted)
    (name : String) (value : Json) :
    (insertField name value sorted).filter (fun field => keeps field.1) =
      if keeps name then insertField name value (sorted.filter fun field => keeps field.1)
      else sorted.filter fun field => keeps field.1 := by
  induction sorted with
  | nil => rw [insertField, List.filter_cons]; rfl
  | cons field sorted ih =>
      rcases field with ⟨other, kept⟩
      rcases List.pairwise_cons.mp ordered with ⟨after, ordered⟩
      rw [insertField]
      split
      · next same =>
          subst same
          rw [List.filter_cons, List.filter_cons]
          split
          · rw [insertField, if_pos rfl]
          · rfl
      · next different =>
          split
          · next less =>
              have first : ∀ field ∈ ((other, kept) :: sorted).filter fun field => keeps field.1,
                  name < field.1 := by
                intro field member
                rcases List.mem_cons.mp (List.mem_filter.mp member).1 with rfl | later
                · exact less
                · exact String.lt_trans less (after field later)
              rw [List.filter_cons, insertField_first first]
          · next notLess =>
              rw [List.filter_cons, List.filter_cons, ih ordered]
              by_cases keptOther : keeps other
              · rw [if_pos keptOther, if_pos keptOther, insertField, if_neg different,
                  if_neg notLess]
                split <;> rfl
              · rw [if_neg keptOther, if_neg keptOther]

/-- The names may be left out of the fields before they are put in order, or after. -/
theorem filter_foldl_insertField {sorted : List (String × Json)} (ordered : AreSorted sorted)
    (fields : List (String × Json)) :
    (fields.foldl (fun sorted field => insertField field.1 field.2 sorted) sorted).filter
        (fun field => keeps field.1) =
      (fields.filter fun field => keeps field.1).foldl
        (fun sorted field => insertField field.1 field.2 sorted)
        (sorted.filter fun field => keeps field.1) := by
  induction fields generalizing sorted with
  | nil => rfl
  | cons field fields ih =>
      rw [List.foldl_cons, ih (ordered.insertField field.1 field.2),
        filter_insertField keeps ordered, List.filter_cons]
      split
      · rfl
      · rfl

end

end Json
end PayloadLedger
