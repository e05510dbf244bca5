import Mathlib.Data.List.Forall2
import PayloadLedger.Engine.Resolution
import PayloadLedger.Proofs.Json.Values

namespace PayloadLedger

/-!
Documents embedded in an event or given as text.

The engine gives the input and the output of an execution in either form.  An event is read field by
field, and nothing looks into a document before the form of the whole event is settled, so that
events that differ in the form of their documents are read in step.  They end in the same error, or
in details whose documents are the same.
-/

/-! ## Steps that end alike -/

/-- Both end in the same error, or in values that are related. -/
inductive EndsAlike (rel : α → β → Prop) : Except ε α → Except ε β → Prop
  | ok {one : α} {other : β} (related : rel one other) : EndsAlike rel (.ok one) (.ok other)
  | error (error : ε) : EndsAlike rel (.error error) (.error error)

namespace EndsAlike

theorem refl {rel : α → α → Prop} (related : ∀ value, rel value value) (result : Except ε α) :
    EndsAlike rel result result := by
  cases result with
  | ok value => exact .ok (related value)
  | error error => exact .error error

theorem bind {rel : α → β → Prop} {later : γ → δ → Prop} {one : Except ε α} {other : Except ε β}
    {next : α → Except ε γ} {otherNext : β → Except ε δ} (alike : EndsAlike rel one other)
    (goesOn : ∀ value otherValue, rel value otherValue →
      EndsAlike later (next value) (otherNext otherValue)) :
    EndsAlike later (one >>= next) (other >>= otherNext) := by
  cases alike with
  | ok related => exact goesOn _ _ related
  | error error => exact .error error

/-- Steps that keep values related are taken along two lists whose items are related. -/
theorem foldlM {rel : α → β → Prop} {item : γ → δ → Prop} {step : α → γ → Except ε α}
    {otherStep : β → δ → Except ε β}
    (steps : ∀ one other value otherValue, rel one other → item value otherValue →
      EndsAlike rel (step one value) (otherStep other otherValue))
    {values : List γ} {others : List δ} (items : List.Forall₂ item values others)
    {one : α} {other : β} (related : rel one other) :
    EndsAlike rel (values.foldlM step one) (others.foldlM otherStep other) := by
  induction items generalizing one other with
  | nil => exact .ok related
  | cons first _ ih =>
      rw [List.foldlM_cons, List.foldlM_cons]
      exact (steps _ _ _ _ related first).bind fun _ _ => ih

end EndsAlike

namespace Engine

/-! ## Forms of documents -/

/-- The form in which the engine gives a document. -/
inductive Form
  | embedded
  | text
  deriving DecidableEq, Repr

/-- A document in one of its forms. -/
def Form.give : Form → Json → Json
  | embedded, document => document
  | text, document => .string document.render

/-! ## Parts of records -/

/-- The part of a record, found by its name in an object and by its place in an array. -/
def part? (name : String) (place : Nat) : Json → Option Json
  | .object fields => fields.lookup name
  | .array items => items[place]?
  | _ => none

/-- Change the value of a field. -/
def changeField (name : String) (change : Json → Json) :
    List (String × Json) → List (String × Json)
  | [] => []
  | (other, value) :: fields =>
      if name = other then (other, change value) :: fields
      else (other, value) :: changeField name change fields

/-- Change a part of a record. -/
def changePart (name : String) (place : Nat) (change : Json → Json) : Json → Json
  | .object fields => .object (changeField name change fields)
  | .array items => .array (items.modify place change)
  | other => other

theorem lookup_changeField (name wanted : String) (change : Json → Json)
    (fields : List (String × Json)) :
    (changeField name change fields).lookup wanted =
      if wanted = name then (fields.lookup wanted).map change else fields.lookup wanted := by
  induction fields with
  | nil => exact (ite_self _).symm
  | cons field fields ih =>
      rcases field with ⟨other, value⟩
      rw [changeField]
      by_cases here : name = other
      · subst here
        rw [if_pos rfl, Json.lookup_cons_ite, Json.lookup_cons_ite]
        by_cases same : wanted = name
        · rw [if_pos same, if_pos same, if_pos same, Option.map_some]
        · rw [if_neg same, if_neg same, if_neg same]
      · rw [if_neg here, Json.lookup_cons_ite, Json.lookup_cons_ite, ih]
        by_cases found : wanted = other
        · have elsewhere : wanted ≠ name := fun same => here (same.symm.trans found)
          rw [if_pos found, if_neg elsewhere, if_pos found]
        · rw [if_neg found, if_neg found]

theorem part?_changePart (name : String) (place : Nat) (change : Json → Json) (value : Json) :
    part? name place (changePart name place change value) = (part? name place value).map change := by
  cases value with
  | object fields => exact (lookup_changeField name name change fields).trans (if_pos rfl)
  | array items => exact (List.getElem?_modify change place items place).trans (by simp [part?])
  | _ => rfl

theorem part?_changePart_of_ne {name other : String} {place otherPlace : Nat}
    (names : name ≠ other) (places : place ≠ otherPlace) (change : Json → Json) (value : Json) :
    part? name place (changePart other otherPlace change value) = part? name place value := by
  cases value with
  | object fields => exact (lookup_changeField other name change fields).trans (if_neg names)
  | array items =>
      exact (List.getElem?_modify change otherPlace items place).trans (by simp [part?, places.symm])
  | _ => rfl

/-- Records of some fields whose parts are related one by one. -/
inductive PartsAlike (rel : String → Json → Json → Prop) (fields : List (String × Bool)) :
    Json → Json → Prop
  | object {given others : List (String × Json)}
      (alike : List.Forall₂ (fun one other => one.1 = other.1 ∧ rel one.1 one.2 other.2)
        given others) :
      PartsAlike rel fields (.object given) (.object others)
  | array {items others : List Json} (length : items.length = others.length)
      (alike : List.Forall₂ (fun one other => one.1 = other.1 ∧ rel one.1.1 one.2 other.2)
        (fields.zip items) (fields.zip others)) :
      PartsAlike rel fields (.array items) (.array others)
  | same (value : Json) : PartsAlike rel fields value value

section

variable {rel : String → Json → Json → Prop} {name : String} {change : Json → Json}

theorem changeField_alike (refl : ∀ name value, rel name value value) {fields : List (String × Json)}
    (changed : ∀ value, fields.lookup name = some value → rel name value (change value)) :
    List.Forall₂ (fun one other => one.1 = other.1 ∧ rel one.1 one.2 other.2) fields
      (changeField name change fields) := by
  induction fields with
  | nil => exact .nil
  | cons field fields ih =>
      rcases field with ⟨other, value⟩
      rw [changeField]
      by_cases same : name = other
      · subst same
        rw [if_pos rfl]
        refine .cons ⟨rfl, changed value List.lookup_cons_self⟩ ?_
        exact List.forall₂_same.mpr fun field _ => ⟨rfl, refl field.1 field.2⟩
      · rw [if_neg same]
        refine .cons ⟨rfl, refl other value⟩ (ih fun later found => changed later ?_)
        rw [Json.lookup_cons_ite, if_neg same, found]

theorem modify_alike (refl : ∀ name value, rel name value value) {fields : List (String × Bool)}
    {items : List Json} {place : Nat} (named : fields[place]?.map Prod.fst = some name)
    (changed : ∀ value, items[place]? = some value → rel name value (change value)) :
    List.Forall₂ (fun one other => one.1 = other.1 ∧ rel one.1.1 one.2 other.2) (fields.zip items)
      (fields.zip (items.modify place change)) := by
  have unchanged (fields : List (String × Bool)) (items : List Json) :
      List.Forall₂ (fun one other => one.1 = other.1 ∧ rel one.1.1 one.2 other.2)
        (fields.zip items) (fields.zip items) :=
    List.forall₂_same.mpr fun pair _ => ⟨rfl, refl pair.1.1 pair.2⟩
  induction items generalizing fields place with
  | nil =>
      rw [List.modify_nil]
      exact unchanged _ _
  | cons item items ih =>
      cases fields with
      | nil => exact .nil
      | cons field fields =>
          cases place with
          | zero =>
              cases named
              exact .cons ⟨rfl, changed item rfl⟩ (unchanged fields items)
          | succ place =>
              exact .cons ⟨rfl, refl _ _⟩ (ih named changed)

theorem changePart_alike (refl : ∀ name value, rel name value value) {fields : List (String × Bool)}
    {place : Nat} (named : fields[place]?.map Prod.fst = some name) {value : Json}
    (changed : ∀ part, part? name place value = some part → rel name part (change part)) :
    PartsAlike rel fields value (changePart name place change value) := by
  cases value with
  | object given => exact .object (changeField_alike refl changed)
  | array items =>
      exact .array (List.length_modify _ _ _).symm (modify_alike refl named changed)
  | _ => exact .same _

end

namespace StatusChange

theorem isNone_lookup_of_alike {rel : String → Json → Json → Prop} {given others : List (String × Json)}
    (alike : List.Forall₂ (fun one other => one.1 = other.1 ∧ rel one.1 one.2 other.2) given others)
    (name : String) : (others.lookup name).isNone = (given.lookup name).isNone := by
  induction alike with
  | nil => rfl
  | @cons one other given others first _ ih =>
      rcases one with ⟨own, value⟩
      rcases other with ⟨_, otherValue⟩
      cases first.1
      rw [Json.lookup_cons_ite, Json.lookup_cons_ite]
      split
      · rfl
      · exact ih

/-- Records whose parts are read alike are read alike. -/
theorem readRecord_alike {kept : α → α → Prop} {rel : String → Json → Json → Prop}
    (refl : ∀ value, kept value value) {read : α → String → Json → Except Json.ReadError α}
    (steps : ∀ one other name value otherValue, kept one other → rel name value otherValue →
      EndsAlike kept (read one name value) (read other name otherValue))
    {fields : List (String × Bool)} {value other : Json} (alike : PartsAlike rel fields value other)
    (name : String) (empty : α) :
    EndsAlike kept (readRecord name fields read empty value)
      (readRecord name fields read empty other) := by
  cases alike with
  | same => exact .refl refl _
  | @object given others alike =>
      refine EndsAlike.bind (EndsAlike.foldlM ?_ alike (refl empty)) fun filled otherFilled related => ?_
      · rintro one other ⟨name, value⟩ ⟨_, otherValue⟩ related ⟨rfl, part⟩
        dsimp only
        split
        · exact steps _ _ _ _ _ related part
        · exact .ok related
      · simp only [isNone_lookup_of_alike alike]
        split
        · exact .error _
        · exact .ok related
  | @array items others length alike =>
      refine EndsAlike.bind (EndsAlike.foldlM ?_ alike (refl empty)) fun filled otherFilled related => ?_
      · rintro one other ⟨field, value⟩ ⟨_, otherValue⟩ related ⟨rfl, part⟩
        exact steps _ _ _ _ _ related part
      · rw [length]
        split
        · exact .error _
        · split
          · exact .error _
          · exact .ok related

/-! ## Details and events -/

/-- The details differ at most in the form of their documents. -/
structure Detail.Alike (one other : Detail) : Prop where
  execution : one.execution = other.execution
  input : documentIn one.input = documentIn other.input
  output : documentIn one.output = documentIn other.output
  status : one.status = other.status
  error : one.error = other.error

theorem Detail.Alike.refl (detail : Detail) : detail.Alike detail :=
  ⟨rfl, rfl, rfl, rfl, rfl⟩

/-- The parts of a detail are the same, or stand for the same document where one is wanted. -/
structure DocumentAlike (name : String) (one other : Json) : Prop where
  document : documentIn one = documentIn other
  same : name ≠ "input" → name ≠ "output" → one = other

theorem DocumentAlike.refl (name : String) (value : Json) : DocumentAlike name value value :=
  ⟨rfl, fun _ _ => rfl⟩

/-- The fields of a detail, each with whether it may be left out. -/
def detailFields : List (String × Bool) :=
  [("executionArn", false), ("input", false), ("output", true), ("status", false), ("error", true)]

theorem readDetail_alike {value other : Json}
    (alike : PartsAlike DocumentAlike detailFields value other) :
    EndsAlike Detail.Alike (readDetail value) (readDetail other) := by
  refine readRecord_alike Detail.Alike.refl ?_ alike _ _
  rintro one other name value otherValue ⟨execution, input, output, status, error⟩ part
  split
  · cases part.same (by decide) (by decide)
    exact (EndsAlike.refl (fun _ => rfl) _).bind fun _ _ same =>
      .ok ⟨same, input, output, status, error⟩
  · exact .ok ⟨execution, part.document, output, status, error⟩
  · exact .ok ⟨execution, input, part.document, status, error⟩
  · cases part.same (by decide) (by decide)
    exact (EndsAlike.refl (fun _ => rfl) _).bind fun _ _ same =>
      .ok ⟨execution, input, output, same, error⟩
  · next noInput noOutput _ =>
      cases part.same noInput noOutput
      exact (EndsAlike.refl (fun _ => rfl) _).bind fun _ _ same =>
        .ok ⟨execution, input, output, status, same⟩

/-- The events differ at most in the form of the documents in their details. -/
structure Event.Alike (one other : Event) : Prop where
  detail : one.detail.Alike other.detail
  url : one.url = other.url

theorem Event.Alike.refl (event : Event) : event.Alike event :=
  ⟨.refl _, rfl⟩

/-- The parts of an event are the same, or details with parts that are alike. -/
def DetailAlike (name : String) (one other : Json) : Prop :=
  one = other ∨ name = "detail" ∧ PartsAlike DocumentAlike detailFields one other

/-- The fields of an event, each with whether it may be left out. -/
def eventFields : List (String × Bool) :=
  [("detail", false), ("url", true)]

theorem readEvent_alike {value other : Json}
    (alike : PartsAlike DetailAlike eventFields value other) :
    EndsAlike Event.Alike (readEvent value) (readEvent other) := by
  refine readRecord_alike Event.Alike.refl ?_ alike _ _
  rintro one other name value otherValue ⟨detail, url⟩ part
  split
  · have details : EndsAlike Detail.Alike (readDetail value) (readDetail otherValue) := by
      rcases part with rfl | ⟨_, parts⟩
      · exact .refl Detail.Alike.refl _
      · exact readDetail_alike parts
    exact details.bind fun _ _ read => .ok ⟨read, url⟩
  · next elsewhere =>
      cases part.resolve_right fun there => elsewhere there.1
      exact (EndsAlike.refl (fun _ => rfl) _).bind fun _ _ same => .ok ⟨detail, same⟩

theorem ofEvent_alike {value other : Json}
    (alike : EndsAlike Event.Alike (readEvent value) (readEvent other)) :
    ofEvent value = ofEvent other := by
  unfold ofEvent
  revert alike
  generalize readEvent value = one
  generalize readEvent other = two
  rintro (⟨⟨⟨execution, input, output, status, error⟩, url⟩⟩ | error)
  · simp only [Except.mapError, bind, Except.bind, execution, input, output, status, error, url]
  · rfl

/-! ## Documents in their forms -/

/-- The value is an object or an array that can be read from its own text: it has no doubles, and is
not nested beyond the limit. -/
structure IsDocument (value : Json) : Prop where
  shape : (∃ fields, value = .object fields) ∨ ∃ items, value = .array items
  held : Json.IsHeld (Json.depthLimit - 1) value

theorem IsDocument.documentIn_give {value : Json} (document : IsDocument value) (form : Form) :
    documentIn (form.give value) = documentIn value := by
  have embedded : documentIn value = .ok (some value) := by
    rcases document.shape with ⟨fields, rfl⟩ | ⟨items, rfl⟩
    · rfl
    · rfl
  cases form with
  | embedded => rfl
  | text =>
      rw [embedded, Form.give, documentIn, if_neg document.held.render_ne_empty,
        document.held.ofText?_render]
      rfl

/-- The event with a part of its detail in some form. -/
def restate (name : String) (place : Nat) (form : Form) (event : Json) : Json :=
  changePart "detail" 0 (changePart name place form.give) event

theorem ofEvent_restate {name : String} {place : Nat} {event : Json}
    (named : detailFields[place]?.map Prod.fst = some name)
    (wanted : name = "input" ∨ name = "output")
    (documents : ∀ detail, part? "detail" 0 event = some detail →
      ∀ value, part? name place detail = some value → IsDocument value) (form : Form) :
    ofEvent (restate name place form event) = ofEvent event := by
  refine (ofEvent_alike (readEvent_alike (changePart_alike ?_ rfl ?_))).symm
  · exact fun name value => .inl rfl
  · intro detail found
    refine .inr ⟨rfl, changePart_alike DocumentAlike.refl named fun value given => ?_⟩
    refine ⟨((documents detail found value given).documentIn_give form).symm, ?_⟩
    intro noInput noOutput
    exact absurd wanted (not_or.mpr ⟨noInput, noOutput⟩)

/-- The input and the output in the detail of an event, where they are given, are documents. -/
structure GivesDocuments (event : Json) : Prop where
  input : ∀ detail, part? "detail" 0 event = some detail →
    ∀ value, part? "input" 1 detail = some value → IsDocument value
  output : ∀ detail, part? "detail" 0 event = some detail →
    ∀ value, part? "output" 2 detail = some value → IsDocument value

/-- An event reports the same, or is refused for the same reason, in whichever forms its input and its
output are given; so its references are the same, and it is judged alike. -/
theorem ofEvent_restated {event : Json} (documents : GivesDocuments event) (input output : Form) :
    let restated := restate "output" 2 output (restate "input" 1 input event)
    ofEvent restated = ofEvent event ∧
      (ofEvent restated).map outputRefs = (ofEvent event).map outputRefs ∧
      ∀ resolver : Resolver,
        ofEvent restated >>= resolver.resolve = ofEvent event >>= resolver.resolve := by
  intro restated
  have later : ∀ detail, part? "detail" 0 (restate "input" 1 input event) = some detail →
      ∀ value, part? "output" 2 detail = some value → IsDocument value := by
    intro detail found value given
    rw [restate, part?_changePart, Option.map_eq_some_iff] at found
    rcases found with ⟨original, found, rfl⟩
    rw [part?_changePart_of_ne (by decide) (by decide)] at given
    exact documents.output original found value given
  have same : ofEvent restated = ofEvent event :=
    calc
      ofEvent restated = ofEvent (restate "input" 1 input event) :=
        ofEvent_restate rfl (.inr rfl) later output
      _ = ofEvent event := ofEvent_restate rfl (.inl rfl) documents.input input
  rw [same]
  exact ⟨rfl, rfl, fun _ => rfl⟩

/-- Texts that are written with escapes, and numbers at both ends of their range. -/
theorem ofEvent_restated_escaped :
    let input := Json.object
      [("id", .string "c/w"),
        ("range", .array [.int (-9223372036854775808), .int 18446744073709551615])]
    let output := Json.array [.object [("say", .string "\"é\"\n\u0001")], .null]
    let event := Json.object
      [("detail", .object [("executionArn", .string "arn:1"), ("input", input), ("output", output),
        ("status", .string "SUCCEEDED")])]
    let restated := restate "output" 2 .text (restate "input" 1 .text event)
    GivesDocuments event ∧
      restated = .object
        [("detail", .object
          [("executionArn", .string "arn:1"),
            ("input", .string "\x7b\"id\":\"c/w\",\"range\":[-9223372036854775808,18446744073709551615]\x7d"),
            ("output", .string "[\x7b\"say\":\"\\\"é\\\"\\n\\u0001\"\x7d,null]"),
            ("status", .string "SUCCEEDED")])] ∧
      ofEvent restated = .ok
        { execution := "arn:1", payloadId := "c/w", status := "SUCCEEDED",
          output := some output, error := none, payloadUrl := none } := by
  intro input output event restated
  have documents : GivesDocuments event := by
    constructor
    · rintro _ ⟨⟩ _ ⟨⟩
      exact ⟨.inl ⟨_, rfl⟩, by decide⟩
    · rintro _ ⟨⟩ _ ⟨⟩
      exact ⟨.inr ⟨_, rfl⟩, by decide⟩
  exact ⟨documents, rfl, (ofEvent_restated documents .text .text).1.trans rfl⟩

end StatusChange
end Engine
end PayloadLedger
