import PayloadLedger.Proofs.Store.Paging

namespace PayloadLedger

/-!
What can go wrong in reading.

A query or a count may be refused for what is asked.  On a store that holds accounts it is never
refused for what is stored, and neither is the record of a payload.
-/

theorem Filter.kind_of_pin {filter : Filter} {now : Time.Instant} {error : StoreError}
    (failed : filter.pin now = .error error) : error.kind ≠ .corruptRecord := by
  rw [pin] at failed
  split at failed
  · cases failed
  · split at failed
    · cases failed
      intro corrupt
      cases corrupt
    · split at failed
      · cases failed
        intro corrupt
        cases corrupt
      · cases failed

theorem Cursor.kind_of_decode {token : String} {error : StoreError}
    (failed : decode token = .error error) : error.kind = .validation := by
  rw [decode] at failed
  cases symbols : Text.Base64.decode (Text.utf8 token) with
  | error fault =>
      rw [symbols] at failed
      cases failed
      rfl
  | ok bytes =>
      cases document : Json.document (Json.record "Cursor" fields {}) (Json.Source.ofBytes bytes) with
      | error fault =>
          simp only [symbols, document, Except.mapError, bind, Except.bind] at failed
          cases failed
          rfl
      | ok draft =>
          simp only [symbols, document, Except.mapError, bind, Except.bind] at failed
          split at failed
          · cases failed
          · cases failed
            rfl

namespace Store

theorem kind_of_startOf {filter : Filter} {token : Option String} {error : StoreError}
    (failed : startOf filter token = .error error) : error.kind = .validation := by
  cases token with
  | none => cases failed
  | some token =>
      rw [startOf] at failed
      cases decoded : Cursor.decode token with
      | error fault =>
          rw [decoded] at failed
          cases failed
          exact Cursor.kind_of_decode decoded
      | ok cursor =>
          simp only [decoded, bind, Except.bind] at failed
          split at failed
          · cases failed
          · cases failed
            rfl

section

variable (store : Store) (partition : String) (filter : Filter) (now : Time.Instant)

/-- A query is refused for what is asked, or it has a partition, a window and a position. -/
theorem query_cases (limit : Nat) (token : Option String) :
    (∃ error, (store.query partition filter limit token now).result = .error error ∧
      error.kind ≠ .corruptRecord) ∨
    ((Key.ofPartition partition "").isOk = true ∧
      ∃ pinned position, filter.pin now = .ok pinned ∧ startOf filter token = .ok position) := by
  unfold query
  cases named : Key.ofPartition partition "" with
  | error error => exact .inl ⟨.input error, rfl, fun corrupt => by cases corrupt⟩
  | ok key =>
      cases window : filter.pin now with
      | error error => exact .inl ⟨error, rfl, Filter.kind_of_pin window⟩
      | ok pinned =>
          cases start : startOf filter token with
          | error error =>
              refine .inl ⟨error, rfl, ?_⟩
              rw [kind_of_startOf start]
              intro corrupt
              cases corrupt
          | ok position => exact .inr ⟨rfl, pinned, position, rfl, rfl⟩

/-- A count is refused for what is asked, or it has a partition and a window. -/
theorem count_cases (limit : Option Nat) :
    (∃ error, (store.count partition filter limit now).result = .error error ∧
      error.kind ≠ .corruptRecord) ∨
    ((Key.ofPartition partition "").isOk = true ∧ ∃ pinned, filter.pin now = .ok pinned ∧
      ∃ counted, (store.count partition filter limit now).result =
        (store.scan partition pinned (limit.map (· + 1)) none).map counted) := by
  unfold count
  cases named : Key.ofPartition partition "" with
  | error error => exact .inl ⟨.input error, rfl, fun corrupt => by cases corrupt⟩
  | ok key =>
      cases window : filter.pin now with
      | error error => exact .inl ⟨error, rfl, Filter.kind_of_pin window⟩
      | ok pinned => exact .inr ⟨rfl, pinned, rfl, _, rfl⟩

end

/-- A scan of a store that reads in order ends with records. -/
theorem Asks.exists_scan {store : Store} {table : Table} {read : Row → Record}
    {partition : String} {filter : Filter} {now : Time.Instant} {pinned : PinnedFilter}
    (asks : store.Asks table read partition filter now pinned) (room : Option Nat)
    (position : Option Cursor) :
    ∃ found, store.scan partition pinned room position = .ok found := by
  rw [scan, asks.present]
  exact ⟨_, asks.orderly.scan_eq_visit asks.positive (Table.length_behind_lt_scanFuel room) room⟩

/-- No reading fails for what is stored. -/
structure ReadsWell (store : Store) : Prop where
  get : ∀ key error, (store.get key).result = .error error → error.kind ≠ .corruptRecord
  query : ∀ partition filter limit token now error,
    (store.query partition filter limit token now).result = .error error →
      error.kind ≠ .corruptRecord
  count : ∀ partition filter limit now error,
    (store.count partition filter limit now).result = .error error → error.kind ≠ .corruptRecord

theorem Holds.readsWell {store : Store} {accounts : Accounts} (holds : store.Holds accounts)
    (positive : 0 < store.sliceSize) : store.ReadsWell where
  get key error failed := by
    rw [holds.get_result] at failed
    cases failed
  query partition filter limit token now error failed := by
    rcases store.query_cases partition filter now limit token with
      ⟨other, refused, kind⟩ | ⟨accepted, pinned, position, window, start⟩
    · cases failed.symm.trans refused
      exact kind
    · rcases holds with ⟨table, present, kept⟩
      have asks : store.Asks table _ partition filter now pinned :=
        ⟨present, kept.isOrderly, positive, accepted, window⟩
      cases failed.symm.trans (asks.query_result start limit)
  count partition filter limit now error failed := by
    rcases store.count_cases partition filter now limit with
      ⟨other, refused, kind⟩ | ⟨accepted, pinned, window, counted, result⟩
    · cases failed.symm.trans refused
      exact kind
    · rcases holds with ⟨table, present, kept⟩
      have asks : store.Asks table _ partition filter now pinned :=
        ⟨present, kept.isOrderly, positive, accepted, window⟩
      rcases asks.exists_scan (limit.map (· + 1)) none with ⟨found, scanned⟩
      rw [result, scanned] at failed
      cases failed

end Store
end PayloadLedger
