import Mathlib.Data.List.Perm.Basic
import PayloadLedger.Proofs.Store.Batches
import PayloadLedger.Proofs.Store.Naming

namespace PayloadLedger

/-!
Looking up many payloads.

A batch look-up of a table that reads finds what single look-ups find: a record for each different
key that has one.  It therefore depends on the set of its keys only, and several look-ups put
together answer as one.  The states are noted under identifiers, which tell decoded keys apart.
-/

/-! ## Answers about sets of keys -/

/-- The answer of a look-up depends on the set of its keys only.  Keys may be permuted and repeated,
and calls that ask for the same keys together have the same answer together, up to its order. -/
structure AnswersSet [DecidableEq α] (ask : List Key → Except StoreError (List α))
    (keys : List Key) (answer : List α) : Prop where
  answered : ask keys = .ok answer
  repeated : ∀ other, (∀ key, key ∈ other ↔ key ∈ keys) → ask other = .ok answer
  joined : ∀ calls : List (List Key), (∀ key, key ∈ calls.flatten ↔ key ∈ keys) →
    ∃ answers, calls.mapM ask = .ok answers ∧ answers.flatten.dedup.Perm answer

/-- An answer is about a set if it has what is held under the keys that are asked for, and no item
twice. -/
theorem AnswersSet.of_mem [DecidableEq α] {ask : List Key → Except StoreError (List α)}
    {answer : List Key → List α} {held : Key → α → Prop} {keys : List Key}
    (answered : ∀ keys, ask keys = .ok (answer keys))
    (congr : ∀ one other, (∀ key, key ∈ one ↔ key ∈ other) → answer one = answer other)
    (mem : ∀ call, (∀ key ∈ call, key ∈ keys) →
      ∀ item, item ∈ answer call ↔ ∃ key ∈ call, held key item)
    (nodup : (answer keys).Nodup) : AnswersSet ask keys (answer keys) where
  answered := answered keys
  repeated other same := by rw [answered other, congr other keys same]
  joined calls same := by
    refine ⟨calls.map answer, mapM_eq_ok_map fun call _ => answered call, ?_⟩
    have part : ∀ call ∈ calls, ∀ key ∈ call, key ∈ keys := fun call asked key own =>
      (same key).mp (List.mem_flatten.mpr ⟨call, asked, own⟩)
    rw [List.perm_ext_iff_of_nodup (List.nodup_dedup _) nodup]
    intro item
    rw [List.mem_dedup, List.mem_flatten, mem keys fun _ own => own]
    constructor
    · rintro ⟨_, told, member⟩
      rcases List.mem_map.mp told with ⟨call, asked, rfl⟩
      rcases (mem call (part call asked) item).mp member with ⟨key, own, found⟩
      exact ⟨key, part call asked key own, found⟩
    · rintro ⟨key, own, found⟩
      rcases List.mem_flatten.mp ((same key).mpr own) with ⟨call, asked, member⟩
      exact ⟨answer call, List.mem_map_of_mem asked,
        (mem call (part call asked) item).mpr ⟨key, member, found⟩⟩

/-! ## Tables that read -/

/-- Every row has its own key, and reads. -/
structure Table.Reads (table : Table) : Prop where
  distinct : table.IsDistinct
  readable : ∀ row ∈ table, ∃ record, row.record = .ok record

namespace Table

/-- The record that is found under a key. -/
def recordOf? (table : Table) (key : Key) : Option Record :=
  (table.find? key).bind fun row => row.record.toOption

/-- The records of some keys, batch by batch. -/
def recordsOf (table : Table) (keys : List Key) : List Record :=
  (Store.batches Store.batchSize (Store.distinctKeys keys)).flatMap fun batch =>
    (table.rowsOf batch).filterMap fun row => row.record.toOption

/-- The states of some keys, noted record by record. -/
def statesOf (table : Table) (keys : List Key) : List (String × State) :=
  (table.recordsOf keys).foldl Store.noteState []

variable {table : Table} {key : Key} {record : Record}

/-- A record tells which key it was found under, and by which identifier. -/
theorem names_of_recordOf? (found : table.recordOf? key = some record) :
    record.key = key ∧ record.payloadId = key.payloadId := by
  rcases Option.bind_eq_some_iff.mp found with ⟨row, kept, reads⟩
  cases shown : row.record with
  | error error =>
      rw [shown] at reads
      cases reads
  | ok other =>
      rw [shown] at reads
      cases reads
      rw [Row.key_of_record shown, Row.payloadId_of_record shown, (mem_of_find? kept).2]
      exact ⟨rfl, rfl⟩

theorem recordsOf_congr (table : Table) {one other : List Key}
    (same : ∀ key, key ∈ one ↔ key ∈ other) : table.recordsOf one = table.recordsOf other := by
  rw [recordsOf, recordsOf, Store.distinctKeys_congr same]

namespace Reads

/-- Batch by batch, and key by key, the same is found. -/
theorem recordsOf_perm (reads : table.Reads) (keys : List Key) :
    (table.recordsOf keys).Perm (keys.dedup.filterMap table.recordOf?) := by
  have whole := Store.flatten_batches Store.batchSize (Store.distinctKeys keys)
  have once : ∀ batch ∈ Store.batches Store.batchSize (Store.distinctKeys keys), batch.Nodup := by
    intro batch member
    refine (Store.nodup_distinctKeys keys).sublist ?_
    rw [← whole]
    exact List.sublist_flatten_of_mem member
  have each : ∀ batch ∈ Store.batches Store.batchSize (Store.distinctKeys keys),
      ((table.rowsOf batch).filterMap fun row => row.record.toOption).Perm
        (batch.filterMap table.recordOf?) := by
    intro batch member
    have rows := reads.distinct.rowsOf_perm_filterMap (once batch member)
    refine (rows.filterMap _).trans (.of_eq ?_)
    rw [List.filterMap_filterMap]
    rfl
  have batched : (table.recordsOf keys).Perm
      ((Store.distinctKeys keys).filterMap table.recordOf?) := by
    refine (List.Perm.flatMap_left _ each).trans (.of_eq ?_)
    rw [List.flatMap_def, ← List.filterMap_flatten, whole]
  exact batched.trans ((Store.distinctKeys_perm_dedup keys).filterMap _)

theorem mem_recordsOf (reads : table.Reads) {keys : List Key} :
    record ∈ table.recordsOf keys ↔ ∃ key ∈ keys, table.recordOf? key = some record := by
  rw [(reads.recordsOf_perm keys).mem_iff, List.mem_filterMap]
  refine exists_congr fun key => ?_
  rw [List.mem_dedup]

/-- What has no repetition among the keys has none among the records that are found. -/
theorem nodup_recordsOf_map (reads : table.Reads) {keys : List Key} {name : Record → β}
    {keyName : Key → β}
    (named : ∀ key record, table.recordOf? key = some record → name record = keyName key)
    (apart : ∀ one ∈ keys, ∀ other ∈ keys, keyName one = keyName other → one = other) :
    ((table.recordsOf keys).map name).Nodup := by
  rw [((reads.recordsOf_perm keys).map name).nodup_iff]
  refine List.Nodup.map_on ?_ (List.Nodup.filterMap ?_ (List.nodup_dedup keys))
  · intro one member other otherMember same
    rcases List.mem_filterMap.mp member with ⟨key, own, found⟩
    rcases List.mem_filterMap.mp otherMember with ⟨otherKey, otherOwn, otherFound⟩
    rw [named key one found, named otherKey other otherFound] at same
    rw [List.mem_dedup] at own otherOwn
    cases apart key own otherKey otherOwn same
    exact Option.some.inj (found.symm.trans otherFound)
  · intro one other record found otherFound
    exact (names_of_recordOf? found).1.symm.trans (names_of_recordOf? otherFound).1

end Reads

theorem Holds.reads {accounts : Accounts} (holds : table.Holds accounts) : table.Reads :=
  ⟨holds.distinct, fun row member => ⟨_, holds.isOrderly.reads row member⟩⟩

end Table

/-! ## The look-ups of a store -/

namespace Store

variable {store : Store} {table : Table}

theorem get_eq_recordOf? (present : store.table = some table) (reads : table.Reads) (key : Key) :
    (store.get key).result = .ok (table.recordOf? key) := by
  simp only [get, answer, present, Table.recordOf?]
  cases kept : table.find? key with
  | none => rfl
  | some row =>
      rcases reads.readable row (Table.mem_of_find? kept).1 with ⟨record, shown⟩
      simp only [shown, Option.bind_some]
      rfl

theorem getState_eq_recordOf? (present : store.table = some table) (reads : table.Reads)
    (key : Key) :
    (store.getState key).result = .ok ((table.recordOf? key).map Record.state) := by
  rw [getState, Reply.map, get_eq_recordOf? present reads]
  rfl

theorem getMany_eq_recordsOf (present : store.table = some table) (reads : table.Reads)
    (keys : List Key) : (store.getMany keys).result = .ok (table.recordsOf keys) := by
  have fetched (batch : List Key) : store.fetch batch =
      .ok ((table.rowsOf batch).filterMap fun row => row.record.toOption) := by
    simp only [fetch, present]
    exact mapM_eq_ok_filterMap fun row member =>
      reads.readable row (Table.mem_rowsOf.mp member).1
  rw [getMany, answer, mapM_eq_ok_map fun batch _ => fetched batch]
  rfl

/-- Where every record has its own identifier, none replaces another. -/
theorem foldl_noteState {records : List Record} {noted : List (String × State)}
    (apart : (noted.map Prod.fst ++ records.map Record.payloadId).Nodup) :
    records.foldl noteState noted =
      noted ++ records.map fun record => (record.payloadId, record.state) := by
  induction records generalizing noted with
  | nil => rw [List.foldl_nil, List.map_nil, List.append_nil]
  | cons record records ih =>
      rw [List.map_cons, List.append_cons] at apart
      have kept : noted.filter (fun entry => entry.1 ≠ record.payloadId) = noted := by
        rw [List.filter_eq_self]
        intro entry member
        have fresh := (List.nodup_append.mp (List.nodup_append.mp apart).1).2.2 entry.1
          (List.mem_map_of_mem member) record.payloadId (List.mem_singleton_self _)
        exact decide_eq_true fresh
      rw [List.foldl_cons, noteState, kept, ih, List.map_cons, ← List.append_cons]
      rw [List.map_append]
      exact apart

/-- The identifiers of decoded keys are noted apart from one another. -/
theorem statesOf_eq_map (reads : table.Reads) {keys : List Key}
    (decoded : ∀ key ∈ keys, key.IsDecoded) :
    table.statesOf keys =
        (table.recordsOf keys).map (fun record => (record.payloadId, record.state)) ∧
      ((table.recordsOf keys).map Record.payloadId).Nodup := by
  have apart : ((table.recordsOf keys).map Record.payloadId).Nodup := by
    apply reads.nodup_recordsOf_map fun _ _ found => (Table.names_of_recordOf? found).2
    intro one own other otherOwn same
    exact (decoded one own).eq_of_payloadId (decoded other otherOwn) same
  refine ⟨?_, apart⟩
  rw [Table.statesOf, foldl_noteState (by rwa [List.map_nil, List.nil_append]), List.nil_append]

theorem mem_statesOf (reads : table.Reads) {keys : List Key}
    (decoded : ∀ key ∈ keys, key.IsDecoded) (entry : String × State) :
    entry ∈ table.statesOf keys ↔ ∃ key ∈ keys,
      entry.1 = key.payloadId ∧ (table.recordOf? key).map Record.state = some entry.2 := by
  rw [(statesOf_eq_map reads decoded).1, List.mem_map]
  constructor
  · rintro ⟨record, member, rfl⟩
    rcases reads.mem_recordsOf.mp member with ⟨key, own, found⟩
    rw [(Table.names_of_recordOf? found).2]
    exact ⟨key, own, rfl, by rw [found, Option.map_some]⟩
  · rintro ⟨key, own, named, state⟩
    rcases Option.map_eq_some_iff.mp state with ⟨record, found, same⟩
    refine ⟨record, reads.mem_recordsOf.mpr ⟨key, own, found⟩, ?_⟩
    rw [(Table.names_of_recordOf? found).2, same, ← named]

/-- The states are noted once under the identifiers of the keys, as single look-ups find them. -/
structure NotesStates (store : Store) (keys : List Key) (states : List (String × State)) :
    Prop where
  once : (states.map Prod.fst).Nodup
  named : ∀ entry ∈ states, ∃ key ∈ keys, entry.1 = key.payloadId
  noted : ∀ key, key.IsDecoded → ∀ state, (key.payloadId, state) ∈ states ↔
    key ∈ keys ∧ (store.getState key).result = .ok (some state)

theorem notesStates_statesOf (present : store.table = some table) (reads : table.Reads)
    {keys : List Key} (decoded : ∀ key ∈ keys, key.IsDecoded) :
    store.NotesStates keys (table.statesOf keys) where
  once := by
    rw [(statesOf_eq_map reads decoded).1, List.map_map]
    exact (statesOf_eq_map reads decoded).2
  named entry member := by
    rcases (mem_statesOf reads decoded entry).mp member with ⟨key, own, named, _⟩
    exact ⟨key, own, named⟩
  noted key named state := by
    rw [mem_statesOf reads decoded, getState_eq_recordOf? present reads, Except.ok.injEq]
    constructor
    · rintro ⟨other, own, same, found⟩
      cases named.eq_of_payloadId (decoded other own) same
      exact ⟨own, found⟩
    · rintro ⟨own, found⟩
      exact ⟨key, own, rfl, found⟩

/-- A batch look-up is many single look-ups.  Of a table whose rows read it answers with one record
for each different key that has one, as a single look-up finds it, and with nothing else.  For
decoded keys the states are noted under the identifiers of the keys that have one.  Neither answer
depends on the order of the keys, on repetitions among them, or on how they are distributed over
calls. -/
theorem lookups_agree (present : store.table = some table) (reads : table.Reads)
    (keys : List Key) :
    ∃ found : Key → Option Record, (∀ key, (store.get key).result = .ok (found key)) ∧
      (∃ records, AnswersSet (fun keys => (store.getMany keys).result) keys records ∧
        records.Perm (keys.dedup.filterMap found) ∧ (records.map Record.key).Nodup) ∧
      ((∀ key ∈ keys, key.IsDecoded) →
        ∃ states, AnswersSet (fun keys => (store.getStates keys).result) keys states ∧
          store.NotesStates keys states) := by
  refine ⟨table.recordOf?, get_eq_recordOf? present reads, ?_, ?_⟩
  · have apart : ((table.recordsOf keys).map Record.key).Nodup :=
      reads.nodup_recordsOf_map (fun _ _ found => (Table.names_of_recordOf? found).1)
        fun _ _ _ _ same => same
    refine ⟨_, .of_mem (getMany_eq_recordsOf present reads) (fun _ _ => table.recordsOf_congr)
      (fun _ _ _ => reads.mem_recordsOf) apart.of_map, reads.recordsOf_perm keys, apart⟩
  · intro decoded
    have noted := notesStates_statesOf present reads decoded
    have mem (call : List Key) (part : ∀ key ∈ call, key ∈ keys) :=
      mem_statesOf reads fun key own => decoded key (part key own)
    refine ⟨table.statesOf keys, .of_mem ?_ ?_ mem noted.once.of_map, noted⟩
    · intro call
      rw [getStates, Reply.map, getMany_eq_recordsOf present reads]
      rfl
    · intro one other same
      rw [Table.statesOf, Table.statesOf, table.recordsOf_congr same]

/-- More keys than one statement asks for, some of them twice.  One of them is claimed, and the one
after it is not known. -/
theorem lookups_agree_batches :
    let numbered (number : Nat) : Key := ⟨"c_w", toString number⟩
    let keys := (List.range 250).map fun number => numbered (number % 240)
    let store := (empty 1 1000).run [⟨numbered 7, ⟨1, 0⟩, .claim "one"⟩]
    ∃ table record records states, store.table = some table ∧ table.Reads ∧
      (store.get (numbered 7)).result = .ok (some record) ∧
      (store.getMany keys).result = .ok records ∧ records.count record = 1 ∧
      (store.getStates keys).result = .ok states ∧
      ("c/workflow-w/7", State.claimed) ∈ states ∧ ∀ state, ("c/workflow-w/8", state) ∉ states := by
  intro numbered keys store
  have parts : Key.AreParts "c" "w" := ⟨by decide, by decide, by decide⟩
  have decoded (number : Nat) : (numbered number).IsDecoded := parts.isDecoded (toString number)
  have proper : ∀ step ∈ [⟨numbered 7, ⟨1, 0⟩, .claim "one"⟩], Step.IsProper step := by
    intro step member
    rw [List.mem_singleton.mp member]
    exact ⟨decoded 7, by decide⟩
  rcases (empty_holds 1 1000).run proper with ⟨table, present, kept⟩
  have got := Holds.get_result ⟨table, present, kept⟩
  have asked : numbered 7 ∈ keys := List.mem_map.mpr ⟨7, by decide, rfl⟩
  rcases lookups_agree present kept.reads keys with
    ⟨found, single, ⟨records, answers, each, apart⟩, states⟩
  have named : ∀ key ∈ keys, key.IsDecoded := by
    intro key member
    rcases List.mem_map.mp member with ⟨number, _, rfl⟩
    exact decoded _
  rcases states named with ⟨states, noted, notes⟩
  refine ⟨table, _, records, states, present, kept.reads, got (numbered 7), answers.answered, ?_,
    noted.answered, ?_, ?_⟩
  · apply List.count_eq_one_of_mem apart.of_map
    rw [each.mem_iff, List.mem_filterMap]
    exact ⟨numbered 7, List.mem_dedup.mpr asked,
      Except.ok.inj ((single _).symm.trans (got (numbered 7)))⟩
  · have seven : (numbered 7).payloadId = "c/workflow-w/7" := by decide
    rw [← seven, notes.noted (numbered 7) (decoded 7)]
    refine ⟨asked, ?_⟩
    rw [getState, Reply.map, got]
    rfl
  · intro state member
    have eight : (numbered 8).payloadId = "c/workflow-w/8" := by decide
    rw [← eight] at member
    have known := ((notes.noted (numbered 8) (decoded 8) state).mp member).2
    rw [getState, Reply.map, got] at known
    cases known

end Store
end PayloadLedger
