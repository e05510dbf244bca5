import PayloadLedger.Engine.StatusChange

namespace PayloadLedger
namespace Engine
namespace StatusChange

/-!
What events of the engine are refused for.

An event is read from the outside in: its form, the document of its input, the identifier in that
document, and the document of its output.  Each of these can be at fault, and every fault but one is
told as a mistake of the event: a document that is given as text and cannot be read is told as a
failure to read.
-/

/-! ## Documents -/

/-- The value stands for a document in text that cannot be read. -/
inductive IsUnreadable : Json → Json.ReadError → Prop
  | text {text : String} {fault : Json.ReadError} (given : text ≠ "")
      (unread : Json.ofText? text = .error fault) : IsUnreadable (.string text) fault

theorem documentIn_eq_error_iff {value : Json} {error : EventError} :
    documentIn value = .error error ↔
      ∃ fault, error = .unreadable fault ∧ IsUnreadable value fault := by
  constructor
  · intro refused
    cases value with
    | string text =>
        by_cases given : text = ""
        · simp only [documentIn, if_pos given] at refused
          cases refused
        · simp only [documentIn, if_neg given] at refused
          cases read : Json.ofText? text with
          | ok document =>
              rw [read] at refused
              cases refused
          | error fault =>
              rw [read] at refused
              cases refused
              exact ⟨fault, rfl, .text given read⟩
    | _ => cases refused
  · rintro ⟨fault, rfl, ⟨given, unread⟩⟩
    simp only [documentIn, if_neg given, unread]
    rfl

/-! ## Events -/

/-- An event of the right form has a document that cannot be read: its input, or its output where
the input names a payload. -/
inductive HasUnreadable (event : Json) (fault : Json.ReadError) : Prop
  | input {form : Event} (reads : readEvent event = .ok form)
      (unread : IsUnreadable form.detail.input fault)
  | output {form : Event} {document : Json} {payloadId : String}
      (reads : readEvent event = .ok form)
      (given : documentIn form.detail.input = .ok (some document))
      (named : (document.field? "id").bind Json.string? = some payloadId)
      (unread : IsUnreadable form.detail.output fault)

/-- An event reports a status change, or is refused for what is wrong with it. -/
inductive Reading (event : Json) : Except EventError StatusChange → Prop
  | malformed {fault : Json.ReadError} (form : readEvent event = .error fault) :
      Reading event (.error (.unknownEvent fault))
  | unreadable {fault : Json.ReadError} (unread : HasUnreadable event fault) :
      Reading event (.error (.unreadable fault))
  | withoutInput {form : Event} (reads : readEvent event = .ok form)
      (missing : documentIn form.detail.input = .ok none) : Reading event (.error .emptyInput)
  | withoutId {form : Event} {document : Json} (reads : readEvent event = .ok form)
      (given : documentIn form.detail.input = .ok (some document))
      (unnamed : (document.field? "id").bind Json.string? = none) :
      Reading event (.error .inputWithoutId)
  | reported {form : Event} {document : Json} {output : Option Json} {change : StatusChange}
      (reads : readEvent event = .ok form)
      (given : documentIn form.detail.input = .ok (some document))
      (named : (document.field? "id").bind Json.string? = some change.payloadId)
      (shown : documentIn form.detail.output = .ok output) : Reading event (.ok change)

theorem mapError_ok (form : Event) :
    (Except.ok form : Except Json.ReadError Event).mapError EventError.unknownEvent = .ok form := rfl

theorem ofEvent_reading (event : Json) : Reading event (ofEvent event) := by
  unfold ofEvent
  cases reads : readEvent event with
  | error fault => exact .malformed reads
  | ok form =>
      simp only [mapError_ok, bind, Except.bind]
      cases given : documentIn form.detail.input with
      | error error =>
          rcases documentIn_eq_error_iff.mp given with ⟨fault, rfl, unread⟩
          exact .unreadable (.input reads unread)
      | ok input =>
          cases input with
          | none => exact .withoutInput reads given
          | some document =>
              cases named : (document.field? "id").bind Json.string? with
              | none =>
                  simp only [pure, Except.pure, named]
                  exact .withoutId reads given named
              | some payloadId =>
                  simp only [pure, Except.pure, named]
                  cases shown : documentIn form.detail.output with
                  | error error =>
                      rcases documentIn_eq_error_iff.mp shown with ⟨fault, rfl, unread⟩
                      exact .unreadable (.output reads given named unread)
                  | ok output => exact .reported reads given named shown

/-- The first document that cannot be read decides. -/
theorem HasUnreadable.ofEvent_eq {event : Json} {fault : Json.ReadError}
    (unread : HasUnreadable event fault) : ofEvent event = .error (.unreadable fault) := by
  unfold ofEvent
  cases unread with
  | input reads unread =>
      have refused := documentIn_eq_error_iff.mpr ⟨fault, rfl, unread⟩
      simp only [reads, mapError_ok, bind, Except.bind, refused]
  | output reads given named unread =>
      have refused := documentIn_eq_error_iff.mpr ⟨fault, rfl, unread⟩
      simp only [reads, mapError_ok, bind, Except.bind, given, pure, Except.pure, named, refused]

/-- Nothing but an unreadable document is told otherwise than as a mistake of the event. -/
theorem isValidation_of_ofEvent {event : Json} {error : EventError}
    (refused : ofEvent event = .error error) (readable : ∀ fault, ¬ HasUnreadable event fault) :
    error.isValidation = true := by
  have reading := ofEvent_reading event
  rw [refused] at reading
  cases reading with
  | malformed form => rfl
  | unreadable unread => exact absurd unread (readable _)
  | withoutInput reads missing => rfl
  | withoutId reads given unnamed => rfl

end StatusChange
end Engine
end PayloadLedger
