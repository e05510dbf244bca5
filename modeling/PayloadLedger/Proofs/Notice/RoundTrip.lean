import PayloadLedger.Proofs.Json.Values
import PayloadLedger.Proofs.Notice.Body
import PayloadLedger.Proofs.Steps
import PayloadLedger.Proofs.Time.Accepted

namespace PayloadLedger

/-!
Notices read from their own messages.

A notice is written into the body of its message and read back whole, up to what the body does not
show: the time below microseconds, and texts with nothing in them.  What is read from any body is
such a notice again, since none of its own fields stays behind among the extra ones.
-/

theorem EventType.ofName?_name (event : EventType) : ofName? event.name = some event := by
  cases event <;> rfl

namespace Notice

/-- The notice as its message shows it: the time is cut to microseconds, and a text with nothing in
it is left out. -/
def received (notice : Notice) : Notice :=
  { notice with
    time := notice.time.kept
    payloadUrl := notice.payloadUrl.filter (· ≠ "")
    execution := notice.execution.filter (· ≠ "")
    error := notice.error.filter (· ≠ "") }

/-! ## The fields of a body -/

theorem mem_optionalField {name : String} {value : Option String} {field : String × Json}
    (member : field ∈ optionalField name value) : ∃ text, field = (name, .string text) := by
  unfold optionalField at member
  split at member
  · split at member
    · cases member
    · exact ⟨_, List.mem_singleton.mp member⟩
  · cases member

/-- The notice writes texts under the names of its own fields, and nothing else. -/
theorem own_of_mem_written {notice : Notice} {field : String × Json}
    (member : field ∈ notice.written) : field.1 ∈ ownFields ∧ ∃ text, field.2 = .string text := by
  have texts : ∃ name ∈ ownFields, ∃ text, field = (name, .string text) := by
    rcases List.mem_append.mp member with member | error
    · rcases List.mem_append.mp member with member | execution
      · rcases List.mem_append.mp member with always | url
        · simp only [List.mem_cons, List.not_mem_nil, or_false] at always
          rcases always with event | payloadId | timestamp
          · exact ⟨"event_type", by decide, _, event⟩
          · exact ⟨"payload_id", by decide, _, payloadId⟩
          · exact ⟨"timestamp", by decide, _, timestamp⟩
        · exact ⟨"payload_url", by decide, mem_optionalField url⟩
      · exact ⟨"execution", by decide, mem_optionalField execution⟩
    · exact ⟨"error", by decide, mem_optionalField error⟩
  rcases texts with ⟨name, own, text, rfl⟩
  exact ⟨own, text, rfl⟩

theorem filter_written (notice : Notice) :
    notice.written.filter (fun field => !ownFields.contains field.1) = [] := by
  rw [List.filter_eq_nil_iff]
  intro field member
  rw [List.contains_iff_mem.mpr (own_of_mem_written member).1]
  decide

theorem filter_extra {extra : List (String × Json)} (passed : checkExtra extra = .ok ()) :
    extra.filter (fun field => !ownFields.contains field.1) = extra := by
  rw [List.filter_eq_self]
  intro field member
  have foreign : field.1 ∉ ownFields := fun own => ne_of_checkExtra passed own field member rfl
  simpa using foreign

variable {notice : Notice}

theorem areSorted_bodyFields : Json.AreSorted notice.bodyFields :=
  Json.AreSorted.foldl_insertField List.Pairwise.nil _

/-- The extra fields are what the body holds besides the notice's own fields. -/
theorem filter_bodyFields (passed : checkExtra notice.extra = .ok ())
    (ordered : Json.AreSorted notice.extra) :
    notice.bodyFields.filter (fun field => !ownFields.contains field.1) = notice.extra := by
  rw [bodyFields, Json.filter_foldl_insertField (fun name => !ownFields.contains name)
    List.Pairwise.nil, List.filter_append, filter_written, filter_extra passed]
  exact Json.foldl_insertField_nil ordered

theorem isHeld_of_mem_bodyFields {depth : Nat}
    (held : ∀ field ∈ notice.extra, Json.IsHeld depth field.2) :
    ∀ field ∈ notice.bodyFields, Json.IsHeld depth field.2 := by
  intro field member
  rcases Json.mem_foldl_insertField member with put | none
  · rcases List.mem_append.mp put with own | extra
    · rcases (own_of_mem_written own).2 with ⟨text, shown⟩
      rw [shown]
      exact .string depth text
    · exact held field extra
  · cases none

/-! ## Reading a body -/

/-- A body is read as the notice that its fields show. -/
theorem ofBody?_of_shown {text : String} {fields : List (String × Json)}
    (read : Json.document Json.anyObject (Json.Source.ofString text) = .ok fields)
    (shown : notice.Shown fields) (storable : notice.time.IsStorable) :
    ofBody? text = .ok { notice.received with
      extra := fields.filter fun field => !ownFields.contains field.1 } := by
  have found {name : String} (value : Option String)
      (there : fields.lookup name = value.map .string) : fieldText? fields name = value := by
    rw [fieldText?, there]
    cases value <;> rfl
  simp only [ofBody?, read, Except.mapError, bind, Except.bind,
    found (some _) shown.event, EventType.ofName?_name, pure, Except.pure,
    found (some _) shown.payloadId, found (some _) shown.time,
    Time.Timestamp.ofUtc?_stored storable, found _ shown.payloadUrl, found _ shown.execution,
    found _ shown.error]
  rfl

/-- A notice is read back from its own message. -/
theorem ofBody?_message (storable : notice.time.IsStorable)
    (passed : checkExtra notice.extra = .ok ()) (ordered : Json.AreSorted notice.extra)
    (held : ∀ field ∈ notice.extra, Json.IsHeld (Json.depthLimit - 2) field.2) :
    ofBody? notice.message.body = .ok notice.received := by
  have read : Json.document Json.anyObject (Json.Source.ofString notice.message.body) =
      .ok notice.bodyFields :=
    Json.document_anyObject areSorted_bodyFields (isHeld_of_mem_bodyFields held)
  rw [ofBody?_of_shown read (bodyFields_shown passed) storable, filter_bodyFields passed ordered]
  rfl

/-! ## Reading any body -/

theorem ofBody?_ok {text : String} (accepted : ofBody? text = .ok notice) :
    ∃ fields timestamp,
      Json.document Json.anyObject (Json.Source.ofString text) = .ok fields ∧
        Time.Timestamp.ofUtc? timestamp = .ok notice.time ∧
        notice.extra = fields.filter fun field => !ownFields.contains field.1 := by
  rcases exists_of_bind_eq_ok accepted with ⟨fields, read, accepted⟩
  rcases exists_of_bind_eq_ok accepted with ⟨eventName, _, accepted⟩
  dsimp only at accepted
  split at accepted
  · rcases exists_of_bind_eq_ok accepted with ⟨event, _, accepted⟩
    rcases exists_of_bind_eq_ok accepted with ⟨payloadId, _, accepted⟩
    rcases exists_of_bind_eq_ok accepted with ⟨timestamp, _, accepted⟩
    rcases exists_of_bind_eq_ok accepted with ⟨time, dated, accepted⟩
    cases accepted
    exact ⟨fields, timestamp, ok_of_mapError_eq_ok read, ok_of_mapError_eq_ok dated, rfl⟩
  · cases accepted

theorem lookup_filter (fields : List (String × Json)) {name : String} (own : name ∈ ownFields) :
    (fields.filter fun field => !ownFields.contains field.1).lookup name = none := by
  rw [List.lookup_eq_none_iff]
  intro field member
  have foreign := (List.mem_filter.mp member).2
  rw [bne_iff_ne]
  rintro rfl
  rw [List.contains_iff_mem.mpr own] at foreign
  cases foreign

theorem checkExtra_of_none {extra : List (String × Json)}
    (none : ∀ name ∈ ownFields, extra.lookup name = none) : checkExtra extra = .ok () := by
  have foreign : (ownFields.filter fun name => (extra.lookup name).isSome) = [] := by
    rw [List.filter_eq_nil_iff]
    intro name own
    rw [none name own]
    decide
  rw [checkExtra, foreign]

end Notice
end PayloadLedger
