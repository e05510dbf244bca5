import PayloadLedger.Notice.Publisher
import PayloadLedger.Proofs.Json.Fields

namespace PayloadLedger

/-!
What subscribers read.

Extra fields that pass their check do not touch a notice's own fields, so the body shows the
event, the payload and the time that are announced.  A publisher that works takes one message
for one notice.
-/

/-- The body of the message shows an event, a payload and a time under their own names. -/
structure Message.Shows (message : Message) (event : EventType) (payloadId timestamp : String) :
    Prop where
  fields : ∃ fields, message.body = (Json.object fields).render ∧
    fields.lookup "event_type" = some (.string event.name) ∧
    fields.lookup "payload_id" = some (.string payloadId) ∧
    fields.lookup "timestamp" = some (.string timestamp)

namespace Notice

/-- Extra fields that pass have other names than a notice's own fields. -/
theorem ne_of_checkExtra {extra : List (String × Json)} (passed : checkExtra extra = .ok ())
    {name : String} (own : name ∈ ownFields) : ∀ field ∈ extra, field.1 ≠ name := by
  intro field member same
  rw [checkExtra] at passed
  have found : name ∈ ownFields.filter fun name => (extra.lookup name).isSome := by
    rw [List.mem_filter]
    refine ⟨own, ?_⟩
    rw [List.lookup_isSome_iff]
    exact ⟨field, member, beq_iff_eq.mpr same.symm⟩
  split at passed
  · next none =>
      rw [none] at found
      cases found
  · cases passed

theorem lookup_reverse_extra {extra : List (String × Json)} (passed : checkExtra extra = .ok ())
    {name : String} (own : name ∈ ownFields) : extra.reverse.lookup name = none := by
  rw [List.lookup_eq_none_iff]
  intro field member
  exact bne_iff_ne.mpr (Ne.symm (ne_of_checkExtra passed own field (List.mem_reverse.mp member)))

/-- A field that may be left out is found under its name if there is something in it. -/
theorem lookup_optionalField (name wanted : String) (value : Option String)
    (fields : List (String × Json)) :
    ((optionalField name value).reverse ++ fields).lookup wanted =
      if wanted = name then ((value.filter (· ≠ "")).map .string).or (fields.lookup wanted)
      else fields.lookup wanted := by
  cases value with
  | none => exact (ite_self _).symm
  | some text =>
      by_cases empty : text = ""
      · simp [optionalField, empty, Option.filter]
      · simp [optionalField, empty, Option.filter, Json.lookup_cons_ite]

/-- A notice's own fields in the order in which they are put into its body. -/
def written (notice : Notice) : List (String × Json) :=
  [("event_type", .string notice.event.name), ("payload_id", .string notice.payloadId),
    ("timestamp", .string notice.time.stored)] ++
  optionalField "payload_url" notice.payloadUrl ++
  optionalField "execution" notice.execution ++
  optionalField "error" notice.error

/-- The fields of the body in order. -/
def bodyFields (notice : Notice) : List (String × Json) :=
  (notice.written ++ notice.extra).foldl
    (fun sorted field => Json.insertField field.1 field.2 sorted) []

theorem bodyJson_eq (notice : Notice) : notice.bodyJson = .object notice.bodyFields :=
  rfl

/-- Extra fields that have passed are not found under the names of own fields. -/
theorem lookup_bodyFields {notice : Notice} (passed : checkExtra notice.extra = .ok ())
    {name : String} (own : name ∈ ownFields) :
    notice.bodyFields.lookup name = notice.written.reverse.lookup name := by
  rw [bodyFields, Json.lookup_foldl_insertField, List.reverse_append, List.lookup_append,
    lookup_reverse_extra passed own, Option.none_or, List.lookup_nil, Option.or_none]

/-- The fields show a notice under the names of its own fields. -/
structure Shown (notice : Notice) (fields : List (String × Json)) : Prop where
  event : fields.lookup "event_type" = some (.string notice.event.name)
  payloadId : fields.lookup "payload_id" = some (.string notice.payloadId)
  time : fields.lookup "timestamp" = some (.string notice.time.stored)
  payloadUrl : fields.lookup "payload_url" = (notice.payloadUrl.filter (· ≠ "")).map .string
  execution : fields.lookup "execution" = (notice.execution.filter (· ≠ "")).map .string
  error : fields.lookup "error" = (notice.error.filter (· ≠ "")).map .string

/-- The body shows the notice, whatever extra fields have passed. -/
theorem bodyFields_shown {notice : Notice} (passed : checkExtra notice.extra = .ok ()) :
    notice.Shown notice.bodyFields := by
  constructor <;>
    rw [lookup_bodyFields passed (by decide), written, List.reverse_append, List.reverse_append,
      List.reverse_append, lookup_optionalField, lookup_optionalField, lookup_optionalField] <;>
    simp [Json.lookup_cons_ite]

/-- The body of a message shows the notice, whatever extra fields have passed. -/
theorem message_shows {notice : Notice} (passed : checkExtra notice.extra = .ok ()) :
    notice.message.Shows notice.event notice.payloadId notice.time.stored :=
  have shown := bodyFields_shown passed
  ⟨notice.bodyFields, congrArg Json.render notice.bodyJson_eq, shown.event, shown.payloadId,
    shown.time⟩

end Notice

namespace Publisher

/-- Messages reach someone: a subscriber that is there, or a server that accepts them. -/
def IsHealthy : Publisher → Prop
  | broadcast channel => channel.subscribed = true ∧ 0 < channel.capacity
  | stream server => server.isOpen = true ∧ server.answer = .accepts
  | unreachable _ => False

/-- The publisher took this message and no other.  A broadcast may have dropped its oldest message
for it, and then counts that one as missed. -/
def Took (message : Message) : Publisher → Publisher → Prop
  | broadcast before, broadcast after =>
      after.missed + after.waiting.length = before.missed + before.waiting.length + 1 ∧
        after.waiting <:+ before.waiting ++ [message] ∧ after.waiting.getLast? = some message
  | stream before, stream after =>
      after = { before with sent := before.sent ++ [before.command message] }
  | _, _ => False

theorem publish_took {publisher : Publisher} (healthy : publisher.IsHealthy) (message : Message) :
    (publisher.publish message).1 = .ok () ∧ Took message publisher (publisher.publish message).2 ∧
      (publisher.publish message).2.IsHealthy := by
  cases publisher with
  | broadcast channel =>
      rcases healthy with ⟨subscribed, room⟩
      rw [publish, Broadcast.send, if_pos subscribed]
      refine ⟨rfl, ?_⟩
      by_cases beyond : channel.capacity < (channel.waiting ++ [message]).length
      · -- a channel with room for one message that is full holds an older one
        rw [if_pos beyond]
        cases waiting : channel.waiting with
        | nil =>
            rw [waiting] at beyond
            exact absurd beyond (Nat.not_lt.mpr room)
        | cons oldest later =>
            refine ⟨⟨?_, ?_, ?_⟩, subscribed, room⟩
            · simp only [waiting, List.cons_append, List.drop_succ_cons, List.drop_zero,
                List.length_append, List.length_cons, List.length_nil]
              omega
            · rw [waiting]
              exact List.drop_suffix 1 _
            · rw [List.cons_append, List.drop_succ_cons, List.drop_zero]
              exact List.getLast?_concat
      · rw [if_neg beyond]
        refine ⟨⟨?_, List.suffix_refl _, List.getLast?_concat⟩, subscribed, room⟩
        simp only [List.length_append, List.length_singleton]
        omega
  | stream server =>
      rcases healthy with ⟨isOpen, accepts⟩
      have published : (stream server).publish message =
          (.ok (), stream { server with sent := server.sent ++ [server.command message] }) := by
        rw [publish, if_pos isOpen]
        simp only [accepts]
      rw [published]
      exact ⟨rfl, rfl, isOpen, accepts⟩
  | unreachable reason => cases healthy

/-- The publisher took these messages, in this order, and no others.  What a broadcast no longer
holds of them was received or counts as missed. -/
def TookAll (messages : List Message) : Publisher → Publisher → Prop
  | broadcast before, broadcast after =>
      after.missed + after.waiting.length =
          before.missed + before.waiting.length + messages.length ∧
        after.waiting <:+ before.waiting ++ messages
  | stream before, stream after =>
      after = { before with sent := before.sent ++ messages.map before.command }
  | _, _ => False

theorem tookAll_nil {publisher : Publisher} (healthy : publisher.IsHealthy) :
    TookAll [] publisher publisher := by
  cases publisher with
  | broadcast channel => exact ⟨rfl, by simp only [List.append_nil, List.suffix_refl]⟩
  | stream server =>
      rw [TookAll, List.map_nil, List.append_nil]
  | unreachable reason => cases healthy

theorem TookAll.append {messages : List Message} {before middle after : Publisher}
    (taken : TookAll messages before middle) {message : Message} (took : Took message middle after) :
    TookAll (messages ++ [message]) before after := by
  cases before with
  | broadcast first =>
      cases middle with
      | broadcast second =>
          cases after with
          | broadcast third =>
              rcases taken with ⟨counted, kept⟩
              rcases took with ⟨count, keeps, _⟩
              constructor
              · rw [List.length_append, List.length_singleton]
                omega
              · rw [← List.append_assoc]
                exact keeps.trans (List.suffix_append_self_iff.mpr kept)
          | _ => cases took
      | _ => cases taken
  | stream first =>
      cases middle with
      | stream second =>
          cases after with
          | stream third =>
              rw [Took] at took
              rw [TookAll] at taken ⊢
              rw [took, taken, List.map_append, List.append_assoc]
              rfl
          | _ => cases took
      | _ => cases taken
  | unreachable reason => cases taken

/-- One message was taken that shows the event, the payload and the time. -/
def Told (event : EventType) (payloadId timestamp : String) (before after : Publisher) : Prop :=
  ∃ message : Message, Took message before after ∧ message.Shows event payloadId timestamp

end Publisher
end PayloadLedger
