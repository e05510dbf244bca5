import PayloadLedger.Notice.Message
import PayloadLedger.Proofs.Key
import PayloadLedger.Proofs.Log.Entry
import PayloadLedger.Proofs.Store.Readable

namespace PayloadLedger

/-!
Attributes and the parts of a key.

The attributes of a message are taken from the identifier by a pattern, and the key of the record
by cutting at marks.  The pattern looks for the last place where it fits, and no part of it but the
workflow runs over a line.  So it finds the parts of the key unless the item ids hold such a place
themselves, or a line ends in the collections or the item ids.
-/

namespace Notice

/-! ## Where the pattern fits -/

/-- The text is a mark, a workflow, a slash and item ids on one line. -/
structure IsTail (text workflow items : List Char) : Prop where
  text_eq : text = Key.marker ++ (workflow ++ '/' :: items)
  named : workflow ≠ []
  undivided : '/' ∉ workflow
  filled : items ≠ []
  unbroken : '\n' ∉ items

theorem takeWhile_slash {workflow : List Char} (undivided : '/' ∉ workflow) (items : List Char) :
    (workflow ++ '/' :: items).takeWhile (· ≠ '/') = workflow ∧
      (workflow ++ '/' :: items).dropWhile (· ≠ '/') = '/' :: items := by
  have plain : ∀ c ∈ workflow, decide (c ≠ '/') = true := by
    intro c member
    exact decide_eq_true fun same => undivided (same ▸ member)
  rw [List.takeWhile_append_of_pos plain, List.dropWhile_append_of_pos plain]
  exact ⟨List.append_nil workflow, rfl⟩

theorem tailGroups?_eq_some_iff {text workflow items : List Char} :
    tailGroups? text = some (workflow, items) ↔ IsTail text workflow items := by
  unfold tailGroups? Text.dropPrefix?
  constructor
  · intro found
    rcases Option.bind_eq_some_iff.mp found with ⟨rest, marked, found⟩
    split at marked
    · next before =>
        rcases List.isPrefixOf_iff_prefix.mp before with ⟨behind, rfl⟩
        cases marked
        rw [List.drop_left] at found
        dsimp only at found
        split at found
        · next name names slash item others named divided =>
            split at found
            · cases found
            · next unbroken =>
                cases found
                have whole := List.takeWhile_append_dropWhile (p := (· ≠ '/')) (l := behind)
                have stop := List.head?_dropWhile_not (· ≠ '/') behind
                rw [divided, List.head?_cons] at stop
                rw [divided, of_decide_eq_false stop |> not_not.mp] at whole
                refine ⟨by rw [whole], ?_, ?_, List.cons_ne_nil item others, unbroken⟩
                · rw [named]
                  exact List.cons_ne_nil name names
                · intro member
                  have plain := List.all_eq_true.mp List.all_takeWhile _ member
                  exact of_decide_eq_true plain rfl
        · cases found
    · cases marked
  · rintro ⟨rfl, named, undivided, filled, unbroken⟩
    have before : Key.marker.isPrefixOf (Key.marker ++ (workflow ++ '/' :: items)) = true :=
      List.isPrefixOf_iff_prefix.mpr (List.prefix_append _ _)
    rw [if_pos before, List.drop_left]
    simp only [Option.bind_eq_bind, Option.bind_some, takeWhile_slash undivided]
    cases workflow with
    | nil => exact absurd rfl named
    | cons name names =>
        cases items with
        | nil => exact absurd rfl filled
        | cons item others => exact if_neg unbroken

/-- The pattern takes the text apart at this place.  The collections may end where the text starts
if some of their characters stand before it. -/
structure Fits (started : Bool) (text collections workflow items : List Char) : Prop where
  filled : started = true ∨ collections ≠ []
  unbroken : '\n' ∉ collections
  tail : ∃ rest, text = collections ++ rest ∧ IsTail rest workflow items

variable {started : Bool} {text collections workflow items : List Char}

theorem not_fits_nil : ¬ Fits started [] collections workflow items := by
  rintro ⟨_, _, rest, same, tail⟩
  rw [tail.text_eq] at same
  cases (List.append_eq_nil_iff.mp (List.append_eq_nil_iff.mp same.symm).2).1

theorem fits_cons_iff {head : Char} :
    Fits started (head :: text) collections workflow items ↔
      (collections = [] ∧ started = true ∧ IsTail (head :: text) workflow items) ∨
        ∃ others, collections = head :: others ∧ head ≠ '\n' ∧
          Fits true text others workflow items := by
  constructor
  · rintro ⟨filled, unbroken, rest, same, tail⟩
    cases collections with
    | nil => exact .inl ⟨rfl, filled.resolve_right fun filled => filled rfl, same ▸ tail⟩
    | cons first others =>
        rcases List.cons.inj same with ⟨rfl, behind⟩
        rw [List.mem_cons, not_or] at unbroken
        exact .inr ⟨others, rfl, Ne.symm unbroken.1, .inl rfl, unbroken.2, rest, behind, tail⟩
  · rintro (⟨rfl, begun, tail⟩ | ⟨others, rfl, line, _, unbroken, rest, rfl, tail⟩)
    · exact ⟨.inl begun, List.not_mem_nil, head :: text, rfl, tail⟩
    · refine ⟨.inr (List.cons_ne_nil head others), ?_, rest, rfl, tail⟩
      rw [List.mem_cons, not_or]
      exact ⟨Ne.symm line, unbroken⟩

theorem splitGroups?_fits
    (found : splitGroups? started text = some (collections, workflow, items)) :
    Fits started text collections workflow items := by
  induction text generalizing started collections with
  | nil => cases found
  | cons head text ih =>
      rw [fits_cons_iff]
      rw [splitGroups?] at found
      split at found
      · next parts longer =>
          cases found
          split at longer
          · cases longer
          · next line =>
              rcases Option.map_eq_some_iff.mp longer with ⟨⟨others, _, _⟩, inner, same⟩
              cases same
              exact .inr ⟨others, rfl, line, ih inner⟩
      · split at found
        · next begun =>
            rcases Option.map_eq_some_iff.mp found with ⟨⟨_, _⟩, inner, same⟩
            cases same
            exact .inl ⟨rfl, begun, tailGroups?_eq_some_iff.mp inner⟩
        · cases found

/-- The last place where the pattern fits is found. -/
theorem exists_splitGroups?_of_fits (fits : Fits started text collections workflow items) :
    ∃ parts, splitGroups? started text = some parts ∧ collections.length ≤ parts.1.length := by
  induction text generalizing started collections with
  | nil => exact absurd fits not_fits_nil
  | cons head text ih =>
      rw [splitGroups?]
      rcases fits_cons_iff.mp fits with ⟨rfl, begun, tail⟩ | ⟨others, rfl, line, fits⟩
      · split
        · next parts _ => exact ⟨parts, rfl, Nat.zero_le _⟩
        · rw [if_pos begun, tailGroups?_eq_some_iff.mpr tail]
          exact ⟨_, rfl, Nat.zero_le _⟩
      · rcases ih fits with ⟨parts, found, longer⟩
        rw [if_neg line, found]
        exact ⟨_, rfl, Nat.succ_le_succ longer⟩

/-! ## The identifier of a key -/

/-- The item ids hold a place where the pattern fits as well. -/
def HidesMark (items : List Char) : Prop :=
  ∃ before rest workflow later, '/' :: items = before ++ rest ∧ IsTail rest workflow later

section

variable {head name others : List Char}

/-- A mark does not begin before the first one, nor before the slash behind the workflow. -/
theorem exists_of_marked_append (unmarked : ¬ Key.marker <:+: head) (undivided : '/' ∉ name)
    {rest : List Char} (same : collections ++ Key.marker ++ rest =
      head ++ Key.marker ++ (name ++ '/' :: others)) :
    (collections = head ∧ rest = name ++ '/' :: others) ∨
      ∃ before, collections = head ++ Key.marker ++ name ++ before ∧
        '/' :: others = before ++ Key.marker ++ rest := by
  have mark : Key.marker = '/' :: "workflow-".toList := rfl
  rw [List.append_assoc, List.append_assoc] at same
  rcases List.append_eq_append_iff.mp same with ⟨more, longer, behind⟩ | ⟨more, longer, behind⟩
  · cases more with
    | nil =>
        rw [List.append_nil] at longer
        rw [List.nil_append, List.append_cancel_left_eq] at behind
        exact .inl ⟨longer.symm, behind⟩
    | cons first more =>
        exfalso
        have early : Key.marker <+: first :: more := by
          apply Text.isPrefix_of_isPrefix_append (by decide) (List.cons_ne_nil first more)
          exact ⟨rest, behind⟩
        apply unmarked
        rw [longer]
        exact early.isInfix.trans (List.suffix_append collections _).isInfix
  · cases more with
    | nil =>
        rw [List.append_nil] at longer
        rw [List.nil_append, List.append_cancel_left_eq] at behind
        exact .inl ⟨longer, behind.symm⟩
    | cons first more =>
        rw [mark, List.cons_append, List.cons_append, List.cons_append] at behind
        rcases List.cons.inj behind with ⟨rfl, within⟩
        rw [← List.append_assoc] at within
        have absent : '/' ∉ "workflow-".toList ++ name := by
          rw [List.mem_append, not_or]
          exact ⟨by decide, undivided⟩
        rcases Text.exists_append_of_append_eq absent within.symm with ⟨before, rfl, hidden⟩
        refine .inr ⟨before, ?_, ?_⟩
        · rw [longer, mark]
          simp only [List.append_assoc, List.cons_append]
        · rw [mark, hidden]
          simp only [List.append_assoc, List.cons_append]

/-- The pattern fits an identifier where its key was cut, or further behind in the item ids. -/
theorem fits_identifier_iff (unmarked : ¬ Key.marker <:+: head) (filled : head ≠ [])
    (named : name ≠ []) (undivided : '/' ∉ name) :
    Fits false (head ++ Key.marker ++ (name ++ '/' :: others)) collections workflow items ↔
      (collections = head ∧ workflow = name ∧ items = others ∧
        '\n' ∉ head ∧ others ≠ [] ∧ '\n' ∉ others) ∨
      ∃ before rest, collections = head ++ Key.marker ++ name ++ before ∧ '\n' ∉ collections ∧
        '/' :: others = before ++ rest ∧ IsTail rest workflow items := by
  constructor
  · rintro ⟨_, unbroken, rest, same, tail⟩
    have marked := same.symm
    rw [tail.text_eq, ← List.append_assoc] at marked
    rcases exists_of_marked_append unmarked undivided marked with ⟨rfl, behind⟩ | ⟨before, rfl, behind⟩
    · rcases Text.append_cons_inj tail.undivided undivided behind with ⟨rfl, rfl⟩
      exact .inl ⟨rfl, rfl, rfl, unbroken, tail.filled, tail.unbroken⟩
    · rw [List.append_assoc, ← tail.text_eq] at behind
      exact .inr ⟨before, rest, rfl, unbroken, behind, tail⟩
  · rintro (⟨rfl, rfl, rfl, unbroken, filled', keptLine⟩ | ⟨before, rest, rfl, unbroken, behind, tail⟩)
    · exact ⟨.inr filled, unbroken, _, List.append_assoc _ _ _, rfl, named, undivided, filled',
        keptLine⟩
    · refine ⟨.inr ?_, unbroken, rest, ?_, tail⟩
      · simp [filled]
      · simp [behind]

end

theorem not_hidesMark_nil : ¬ HidesMark [] := by
  rintro ⟨before, rest, workflow, later, same, tail⟩
  rw [tail.text_eq] at same
  have length := congrArg List.length same
  have mark : Key.marker.length = 10 := rfl
  simp only [List.length_append, List.length_cons, List.length_nil, mark] at length
  omega

/-- The pattern still fits where a slash is put behind the item ids. -/
theorem Fits.append_slash (fits : Fits started text collections workflow items) :
    Fits started (text ++ ['/']) collections workflow (items ++ ['/']) := by
  rcases fits with ⟨filled, unbroken, rest, rfl, tail⟩
  refine ⟨filled, unbroken, rest ++ ['/'], List.append_assoc _ _ _, ?_, tail.named,
    tail.undivided, ?_, ?_⟩
  · rw [tail.text_eq]
    simp only [List.append_assoc, List.cons_append]
  · simp
  · rw [List.mem_append, not_or]
    exact ⟨tail.unbroken, by decide⟩

theorem fits_of_groups? {payloadId : String} {groups : Groups}
    (found : groups? payloadId = some groups) :
    Fits false payloadId.toList groups.collections.toList groups.workflow.toList
      groups.itemIds.toList := by
  rcases Option.map_eq_some_iff.mp found with ⟨parts, split, rfl⟩
  simp only [String.toList_ofList]
  exact splitGroups?_fits split

theorem exists_groups?_of_fits {payloadId : String}
    (fits : Fits false payloadId.toList collections workflow items) :
    ∃ groups, groups? payloadId = some groups ∧
      collections.length ≤ groups.collections.toList.length := by
  rcases exists_splitGroups?_of_fits fits with ⟨parts, split, longer⟩
  rw [groups?, split]
  refine ⟨_, rfl, ?_⟩
  rw [String.toList_ofList]
  exact longer

section

variable {head name : String} (parts : Key.AreParts head name)

include parts

/-- Where the pattern fits the identifier of a key. -/
theorem fits_parts_iff (others : String) :
    Fits false (Key.identifier head name others).toList collections workflow items ↔
      (collections = head.toList ∧ workflow = name.toList ∧ items = others.toList ∧
        '\n' ∉ head.toList ∧ others.toList ≠ [] ∧ '\n' ∉ others.toList) ∨
      ∃ before rest, collections = head.toList ++ Key.marker ++ name.toList ++ before ∧
        '\n' ∉ collections ∧ '/' :: others.toList = before ++ rest ∧
        IsTail rest workflow items := by
  have written : (Key.identifier head name others).toList =
      head.toList ++ Key.marker ++ (name.toList ++ '/' :: others.toList) := by
    simp [Key.identifier]
  have checked := Key.checkWorkflow_eq_ok_iff.mp parts.checked
  rw [written]
  exact fits_identifier_iff parts.unmarked parts.filled checked.1 checked.2.1

/-- The parts that are found are those of the key, or the collections swallow the workflow. -/
theorem groups?_parts {others : String} {groups : Groups}
    (found : groups? (Key.identifier head name others) = some groups) :
    (groups.collections = head ∧ groups.workflow = name) ∨
      (Key.bareIdentifier head name).toList <+: groups.collections.toList := by
  rcases (fits_parts_iff parts others).mp (fits_of_groups? found) with
    ⟨first, second, _⟩ | ⟨before, rest, longer, _⟩
  · exact .inl ⟨String.toList_inj.mp first, String.toList_inj.mp second⟩
  · right
    rw [longer, Key.bareIdentifier]
    simp

/-- The parts of the key are found just when neither the collections nor the item ids run over a
line, and the pattern does not fit again in the item ids. -/
theorem groups?_parts_iff {others : String} (filled : others ≠ "") :
    (∃ groups, groups? (Key.identifier head name others) = some groups ∧
        groups.collections = head ∧ groups.workflow = name) ↔
      '\n' ∉ head.toList ∧ '\n' ∉ others.toList ∧
        ('\n' ∈ name.toList ∨ ¬ HidesMark others.toList) := by
  have filled : others.toList ≠ [] := by
    rw [ne_eq, String.toList_eq_nil_iff]
    exact filled
  constructor
  · rintro ⟨groups, found, rfl, rfl⟩
    rcases (fits_parts_iff parts others).mp (fits_of_groups? found) with
      ⟨_, _, _, unbroken, _, line⟩ | ⟨before, rest, longer, _⟩
    · refine ⟨unbroken, line, ?_⟩
      by_contra both
      rw [not_or, not_not] at both
      rcases both with ⟨single, before, rest, workflow, later, hidden, tail⟩
      have kept : '\n' ∉ before := by
        intro member
        have inside : '\n' ∈ '/' :: others.toList := hidden ▸ List.mem_append_left rest member
        exact line ((List.mem_cons.mp inside).resolve_left (by decide))
      have further : '\n' ∉
          groups.collections.toList ++ Key.marker ++ groups.workflow.toList ++ before := by
        simp only [List.mem_append, not_or]
        exact ⟨⟨⟨unbroken, by decide⟩, single⟩, kept⟩
      rcases exists_groups?_of_fits ((fits_parts_iff parts others).mpr
        (.inr ⟨before, rest, rfl, further, hidden, tail⟩)) with ⟨again, same, longer⟩
      cases found.symm.trans same
      have mark : Key.marker.length = 10 := rfl
      simp only [List.length_append, mark] at longer
      omega
    · have length := congrArg List.length longer
      have mark : Key.marker.length = 10 := rfl
      simp only [List.length_append, mark] at length
      omega
  · rintro ⟨unbroken, line, once⟩
    rcases exists_groups?_of_fits ((fits_parts_iff parts others).mpr
      (.inl ⟨rfl, rfl, rfl, unbroken, filled, line⟩)) with ⟨groups, found, _⟩
    refine ⟨groups, found, ?_⟩
    rcases (fits_parts_iff parts others).mp (fits_of_groups? found) with
      ⟨first, second, _⟩ | ⟨before, rest, longer, further, hidden, tail⟩
    · exact ⟨String.toList_inj.mp first, String.toList_inj.mp second⟩
    · rw [longer] at further
      simp only [List.mem_append, not_or] at further
      rcases once with broken | plain
      · exact absurd broken further.1.2
      · exact absurd ⟨before, rest, _, _, hidden, tail⟩ plain

end

/-- An identifier without item ids does not fit the pattern. -/
theorem groups?_eq_none {payloadId : String} {key : Key}
    (named : Key.decode payloadId = .ok key) (empty : key.itemIds = "") :
    groups? payloadId = none := by
  cases found : groups? payloadId with
  | none => rfl
  | some groups =>
      exfalso
      have fits := fits_of_groups? found
      have unfit {head name : String} (parts : Key.AreParts head name)
          {collections workflow items : List Char} :
          ¬ Fits false (Key.identifier head name "").toList collections workflow items := by
        rw [fits_parts_iff parts]
        rintro (⟨_, _, _, _, filled, _⟩ | ⟨before, rest, _, _, hidden, tail⟩)
        · exact filled rfl
        · exact not_hidesMark_nil ⟨before, rest, _, _, hidden, tail⟩
      rcases Key.decode_cases named with ⟨head, name, parts, ⟨others, rfl, rfl⟩ | ⟨_, rfl⟩⟩
      · cases empty
        exact unfit parts fits
      · have longer := fits.append_slash
        have written : (Key.bareIdentifier head name).toList ++ ['/'] =
            (Key.identifier head name "").toList := by
          simp [Key.bareIdentifier, Key.identifier]
        rw [written] at longer
        exact unfit parts longer

/-! ## The attributes -/

/-- The attributes of a message, sorted by name. -/
theorem attributes_eq (notice : Notice) :
    notice.attributes =
      ((groups? notice.payloadId).map fun groups => ("collections", groups.collections)).toList ++
        ((notice.error.map fun error => ("error", error)).toList ++
          (("event_type", notice.event.name) ::
            ((groups? notice.payloadId).map fun groups => ("workflow", groups.workflow)).toList)) := by
  unfold attributes
  cases groups? notice.payloadId <;> cases notice.error <;>
    simp only [Message.sortAttributes, Message.insertAttribute, List.cons_append, List.nil_append,
      List.append_nil, List.foldl_cons, List.foldl_nil, String.reduceEq, String.reduceLT,
      if_true, if_false] <;> rfl

theorem lookup_attributes (notice : Notice) :
    notice.attributes.lookup "workflow" = (groups? notice.payloadId).map (·.workflow) ∧
      notice.attributes.lookup "collections" = (groups? notice.payloadId).map (·.collections) := by
  rw [attributes_eq]
  cases groups? notice.payloadId <;> cases notice.error <;> exact ⟨rfl, rfl⟩

/-- The attributes name the workflow and the collections of the key. -/
def NamesParts (notice : Notice) (key : Key) : Prop :=
  notice.attributes.lookup "workflow" = some key.workflow ∧
    notice.attributes.lookup "collections" = some key.collections

/-- The attributes name neither a workflow nor collections. -/
def NamesNothing (notice : Notice) : Prop :=
  notice.attributes.lookup "workflow" = none ∧ notice.attributes.lookup "collections" = none

theorem namesParts_iff {notice : Notice} {key : Key} :
    notice.NamesParts key ↔ ∃ groups, groups? notice.payloadId = some groups ∧
      groups.collections = key.collections ∧ groups.workflow = key.workflow := by
  rw [NamesParts, (lookup_attributes notice).1, (lookup_attributes notice).2]
  cases groups? notice.payloadId with
  | none => simp
  | some groups => simp [and_comm]

theorem namesNothing_of_none {notice : Notice} (none : groups? notice.payloadId = none) :
    notice.NamesNothing := by
  rw [NamesNothing, (lookup_attributes notice).1, (lookup_attributes notice).2, none]
  exact ⟨rfl, rfl⟩

/-- With no item ids the attributes name nothing.  With item ids they name the parts of the key,
which are those of its record and its event, just when neither the collections nor the item ids run
over a line and the pattern does not fit again in the item ids.  Otherwise they name nothing, or
collections that swallow the workflow of the key. -/
theorem attributes_agree_iff {notice : Notice} {key : Key}
    (named : Key.decode notice.payloadId = .ok key) :
    (key.itemIds = "" → notice.NamesNothing) ∧
    (key.itemIds ≠ "" →
      (notice.NamesParts key ↔
        '\n' ∉ key.collections.toList ∧ '\n' ∉ key.itemIds.toList ∧
          ('\n' ∈ key.workflow.toList ∨ ¬ HidesMark key.itemIds.toList)) ∧
      (notice.NamesParts key ∨ notice.NamesNothing ∨
        ∃ collections, notice.attributes.lookup "collections" = some collections ∧
          (Key.bareIdentifier key.collections key.workflow).toList <+: collections.toList)) ∧
    (∀ (row : Row) (record : Record), row.key = key → row.record = .ok record →
      record.workflow = key.workflow ∧ record.collections = key.collections) ∧
    ∀ measure time execution entry, EventEntry.check key measure time execution = .ok entry →
      entry.stored.workflow = key.workflow ∧ entry.stored.collections = key.collections := by
  refine ⟨fun empty => namesNothing_of_none (groups?_eq_none named empty), ?_, ?_, ?_⟩
  · intro filled
    rcases Key.decode_cases named with ⟨head, name, parts, ⟨others, rfl, same⟩ | ⟨rfl, _⟩⟩
    · rw [namesParts_iff, same, parts.collections_eq, parts.workflow_eq]
      refine ⟨groups?_parts_iff parts filled, ?_⟩
      cases found : groups? (Key.identifier head name others) with
      | none => exact .inr (.inl (namesNothing_of_none (same ▸ found)))
      | some groups =>
          rcases groups?_parts parts found with agrees | swallows
          · exact .inl ⟨groups, rfl, agrees⟩
          · refine .inr (.inr ⟨groups.collections, ?_, swallows⟩)
            rw [(lookup_attributes notice).2, same, found]
            rfl
    · exact absurd rfl filled
  · rintro row record rfl reads
    rcases (Row.isReadable_of_record reads).shown with ⟨shown, shows⟩
    cases reads.symm.trans shows.reads
    exact ⟨shows.workflow, shows.collections⟩
  · intro measure time execution entry checked
    have parts := EventEntry.parts_of_check ⟨_, named⟩ checked
    exact ⟨parts.1, parts.2.1⟩

/-- Item ids in which the pattern fits again, and item ids on two lines. -/
theorem attributes_agree_iff_hidden :
    let twice : Notice :=
      { event := .succeeded, payloadId := "c/workflow-w/a/workflow-x/b", time := ⟨1714564800, 0⟩ }
    let broken : Notice := { twice with payloadId := "c/workflow-w/a\nb" }
    Key.decode twice.payloadId = .ok ⟨"c_w", "a/workflow-x/b"⟩ ∧
      Key.decode broken.payloadId = .ok ⟨"c_w", "a\nb"⟩ ∧
      ¬ twice.NamesParts ⟨"c_w", "a/workflow-x/b"⟩ ∧ ¬ broken.NamesParts ⟨"c_w", "a\nb"⟩ := by
  intro twice broken
  have first : Key.decode twice.payloadId = .ok ⟨"c_w", "a/workflow-x/b"⟩ := by decide +kernel
  have second : Key.decode broken.payloadId = .ok ⟨"c_w", "a\nb"⟩ := by decide +kernel
  refine ⟨first, second, ?_, ?_⟩
  · rw [((attributes_agree_iff first).2.1 (by decide)).1]
    rintro ⟨_, _, single | plain⟩
    · revert single
      decide
    · exact plain ⟨"/a".toList, "/workflow-x/b".toList, ['x'], ['b'], rfl, rfl, by decide,
        by decide, by decide, by decide⟩
  · rw [((attributes_agree_iff second).2.1 (by decide)).1]
    rintro ⟨_, line, _⟩
    revert line
    decide

end Notice
end PayloadLedger
