import PayloadLedger.Proofs.Query.Cursor
import PayloadLedger.Proofs.Store.Reading

namespace PayloadLedger

/-!
Tokens handed back.

A token tells one cursor, and whatever else callers hand back is either the token of some cursor or a
mistake that they are told.  A token of one order is not taken in another.  The window is looked at
before the token is, so that a query whose window leaves the calendar is broken off whatever its
token says.
-/

/-! ## Cursors and their tokens -/

namespace Cursor

theorem encode_injective {one other : Cursor} (same : one.encode = other.encode) : one = other := by
  have read := decode_encode one
  rw [same, decode_encode other] at read
  exact (Except.ok.inj read).symm

/-- A token can stand in a URL as it is. -/
theorem urlSafe_of_mem_encode {cursor : Cursor} {c : Char} (member : c ∈ cursor.encode.toList) :
    c.isAlphanum = true ∨ c = '-' ∨ c = '_' := by
  rw [encode, String.toList_ofList] at member
  exact Text.Base64.urlSafe_of_mem_encode member

theorem decode_cases (token : String) :
    (∃ cursor, decode token = .ok cursor) ∨
      ∃ error, decode token = .error error ∧ error.isValidation = true := by
  cases decoded : decode token with
  | ok cursor => exact .inl ⟨cursor, rfl⟩
  | error error =>
      refine .inr ⟨error, rfl, ?_⟩
      rw [StoreError.isValidation, kind_of_decode decoded]
      rfl

end Cursor

/-! ## Windows -/

namespace Filter

/-- The window is accepted, and the calendar has no instant that lies so far back. -/
def LeavesCalendar (filter : Filter) (now : Time.Instant) : Prop :=
  ∃ text span, filter.since = some text ∧ Time.Span.ofText? text = .ok span ∧
    now.minus? span.seconds = none

/-- A window is pinned, or it leaves the calendar, or the caller is told what is wrong with it. -/
theorem pin_cases (filter : Filter) (now : Time.Instant) :
    (filter.LeavesCalendar now ∧ filter.pin now = .error .beforeCalendar) ∨
    (¬ filter.LeavesCalendar now ∧
      ((∃ pinned, filter.pin now = .ok pinned) ∨
        ∃ error, filter.pin now = .error error ∧ error.isValidation = true)) := by
  unfold pin LeavesCalendar
  cases filter.since with
  | none => exact .inr ⟨nofun, .inl ⟨_, rfl⟩⟩
  | some text =>
      cases accepted : Time.Span.ofText? text with
      | error error =>
          refine .inr ⟨?_, .inr ⟨.input error, by simp only [accepted], rfl⟩⟩
          rintro ⟨_, span, ⟨⟩, read, _⟩
          rw [accepted] at read
          cases read
      | ok span =>
          simp only [accepted]
          cases back : now.minus? span.seconds with
          | none => exact .inl ⟨⟨text, span, rfl, accepted, back⟩, rfl⟩
          | some cutoff =>
              refine .inr ⟨?_, .inl ⟨_, rfl⟩⟩
              rintro ⟨_, other, ⟨⟩, read, broken⟩
              rw [accepted] at read
              cases read
              rw [back] at broken
              cases broken

end Filter

/-! ## Queries -/

namespace Store

theorem startOf_foreign {cursor : Cursor} {filter : Filter} (foreign : cursor.order ≠ filter.order) :
    startOf filter (some cursor.encode) = .error (.cursorOrder cursor.order filter.order) := by
  rw [startOf]
  simp only [Cursor.decode_encode, bind, Except.bind, if_neg foreign]
  rfl

/-- A query is broken off before anything is said about its token: its partition is accepted, and
its window leaves the calendar. -/
def BreaksOff (partition : String) (filter : Filter) (now : Time.Instant) : Prop :=
  (Key.ofPartition partition "").isOk = true ∧ filter.LeavesCalendar now

variable (store : Store) (partition : String) {filter : Filter} (limit : Nat) {now : Time.Instant}

theorem query_breaksOff (broken : BreaksOff partition filter now) (token : Option String) :
    (store.query partition filter limit token now).result = .error .beforeCalendar := by
  rcases broken with ⟨named, leaves⟩
  unfold query
  cases accepted : Key.ofPartition partition "" with
  | error error =>
      rw [accepted] at named
      cases named
  | ok key =>
      rcases filter.pin_cases now with ⟨_, window⟩ | ⟨stays, _⟩
      · rw [window]
        rfl
      · exact absurd leaves stays

/-- A token of another order is refused, if nothing was wrong before. -/
theorem query_foreign {cursor : Cursor} (foreign : cursor.order ≠ filter.order) {key : Key}
    {pinned : PinnedFilter} (named : Key.ofPartition partition "" = .ok key)
    (window : filter.pin now = .ok pinned) :
    (store.query partition filter limit (some cursor.encode) now).result =
      .error (.cursorOrder cursor.order filter.order) := by
  unfold query
  rw [named, window, startOf_foreign foreign]
  rfl

theorem query_foreign_isValidation {cursor : Cursor} (foreign : cursor.order ≠ filter.order)
    (goesOn : ¬ BreaksOff partition filter now) :
    ∃ error, (store.query partition filter limit (some cursor.encode) now).result = .error error ∧
      error.isValidation = true := by
  cases named : Key.ofPartition partition "" with
  | error error =>
      refine ⟨.input error, ?_, rfl⟩
      unfold query
      rw [named]
      rfl
  | ok key =>
      have accepted : (Key.ofPartition partition "").isOk = true := by
        rw [named]
        rfl
      rcases filter.pin_cases now with ⟨leaves, _⟩ | ⟨_, ⟨pinned, window⟩ | ⟨error, window, mistake⟩⟩
      · exact absurd ⟨accepted, leaves⟩ goesOn
      · exact ⟨_, store.query_foreign partition limit foreign named window, rfl⟩
      · refine ⟨error, ?_, mistake⟩
        unfold query
        rw [named, window]
        rfl

end Store

/-- A cursor is read back from its token, which is made of letters, digits, hyphens and underscores and
is no other cursor's; any other text is read as a cursor or refused as a mistake.  A query by another
order than that of its token is refused as a mistake, unless its window leaves the calendar, which
breaks it off. -/
theorem token_round_trip (cursor : Cursor) :
    (∀ c ∈ cursor.encode.toList, c.isAlphanum = true ∨ c = '-' ∨ c = '_') ∧
    Cursor.decode cursor.encode = .ok cursor ∧
    (∀ other : Cursor, cursor ≠ other → cursor.encode ≠ other.encode) ∧
    (∀ token, (∃ read, Cursor.decode token = .ok read) ∨
      ∃ error, Cursor.decode token = .error error ∧ error.isValidation = true) ∧
    ∀ (store : Store) partition (filter : Filter) limit now,
      cursor.order ≠ filter.order →
        let answer := (store.query partition filter limit (some cursor.encode) now).result
        (∀ key pinned, Key.ofPartition partition "" = .ok key → filter.pin now = .ok pinned →
          answer = .error (.cursorOrder cursor.order filter.order)) ∧
        (¬ Store.BreaksOff partition filter now →
          ∃ error, answer = .error error ∧ error.isValidation = true) ∧
        (Store.BreaksOff partition filter now → answer = .error .beforeCalendar) := by
  refine ⟨fun c => Cursor.urlSafe_of_mem_encode, cursor.decode_encode, ?_, Cursor.decode_cases, ?_⟩
  · exact fun other different same => different (Cursor.encode_injective same)
  · intro store partition filter limit now foreign
    exact ⟨fun key pinned => store.query_foreign partition limit foreign,
      store.query_foreign_isValidation partition limit foreign,
      fun broken => store.query_breaksOff partition limit broken _⟩

/-- A sort value that is written with escapes and takes more bytes than characters. -/
theorem token_round_trip_escaped :
    let cursor : Cursor := ⟨.updated, "\"\\\u0001é", "a/b"⟩
    let now : Time.Instant := ⟨1714564800, 0⟩
    let ask (since : Option String) : Except StoreError Page :=
      (({} : Store).query "c_w" { since, order := .itemIds } 100 (some cursor.encode) now).result
    Cursor.decode cursor.encode = .ok cursor ∧
      cursor.encode ≠ { cursor with order := .itemIds : Cursor }.encode ∧
      ask none = .error (.cursorOrder .updated .itemIds) ∧
      ask (some "100000000d") = .error .beforeCalendar := by
  intro cursor now ask
  have different : cursor ≠ { cursor with order := .itemIds } := by simp [cursor]
  rcases token_round_trip cursor with ⟨_, read, apart, _, foreign⟩
  refine ⟨read, apart _ different, ?_, ?_⟩
  · exact (foreign {} "c_w" { order := .itemIds } 100 now nofun).1 _ _ rfl rfl
  · have far : Time.Span.ofText? "100000000d" = .ok ⟨8640000000000⟩ := by decide
    apply (foreign {} "c_w" { since := some "100000000d", order := .itemIds } 100 now nofun).2.2
    exact ⟨by decide, _, _, rfl, far, by decide⟩

end PayloadLedger
