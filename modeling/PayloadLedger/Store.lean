import PayloadLedger.Reply
import PayloadLedger.Store.Scan

namespace PayloadLedger

/-!
The ledger of payloads.

Each operation is one statement on the table and the reading of the row it returns.  An
operation answers with a result, the store as it is afterwards, and the samples that it
reports.  A write whose row cannot be read is still a write.
-/

/-- The ledger: its table, unless that is lost, and how it is read. -/
structure Store where
  table : Option Table := some []
  /-- Rows fetched by one statement of a scan. -/
  sliceSize : Nat := 100
  /-- The largest page. -/
  limitCap : Nat := 1000

namespace Store

/-- An empty store that reads with the given sizes, each at least one. -/
def empty (sliceSize limitCap : Nat) : Store where
  sliceSize := max 1 sliceSize
  limitCap := max 1 limitCap

/-- The answer of an operation that leaves the store as it is. -/
def answer (store : Store) (operation : Operation) (result : Except StoreError α) : Reply Store α :=
  ⟨result, store, .operation operation :: Reply.errorSamples operation result⟩

/-- The answer of an operation that never reached the table. -/
def refuse (store : Store) (operation : Operation) (error : StoreError) : Reply Store α :=
  ⟨.error error, store, [.operation operation]⟩

/-- The answer of an operation that wrote a row in a state. -/
def wrote (store : Store) (operation : Operation) (state : State) (row : Row) (table : Table) :
    Reply Store Record :=
  ⟨row.record, { store with table := some table },
    .operation operation :: .transition state :: Reply.errorSamples operation row.record⟩

/-- Carry out an unguarded transition. -/
def transition (store : Store) (operation : Operation) (state : State)
    (statement : Table → Option (Row × Table)) : Reply Store Record :=
  match store.table.bind statement with
  | none => store.answer operation (.error .database)
  | some (row, table) => store.wrote operation state row table

def get (store : Store) (key : Key) : Reply Store (Option Record) :=
  store.answer .get <|
    match store.table with
    | none => .error .database
    | some table =>
        match table.find? key with
        | none => .ok none
        | some row => some <$> row.record

/-- Reserve a payload for an execution.  While the payload is in flight the claim is
refused with what a second statement finds there. -/
def claim (store : Store) (key : Key) (execution : String) (moment : Time.Instant) :
    Reply Store Record :=
  match store.table with
  | none => store.answer .claim (.error .database)
  | some table =>
      match table.claim key execution moment with
      | .failed => store.answer .claim (.error .database)
      | .written row table => store.wrote .claim .claimed row table
      | .refused =>
          let holder := store.get key
          let result : Except StoreError Record :=
            match holder.result with
            | .error error => .error error
            | .ok record =>
                .error (.alreadyClaimed key.payloadId (record.map Record.state)
                  (record.bind Record.latestExecution))
          ⟨result, store, .operation .claim :: .claimConflict :: holder.samples⟩

def start (store : Store) (key : Key) (execution : String) (moment : Time.Instant) :
    Reply Store Record :=
  store.transition .start .processing fun table => table.start key execution moment

/-- Mark a payload as completed, with its outputs if there are some. -/
def complete (store : Store) (key : Key) (outputs : Option (List String))
    (moment : Time.Instant) : Reply Store Record :=
  store.transition .complete .completed fun table => some (table.complete key outputs moment)

def fail (store : Store) (key : Key) (message : String) (moment : Time.Instant) :
    Reply Store Record :=
  store.transition .fail .failed fun table => some (table.finish key .failed message moment)

def invalidate (store : Store) (key : Key) (message : String) (moment : Time.Instant) :
    Reply Store Record :=
  store.transition .invalidate .invalid fun table =>
    some (table.finish key .invalid message moment)

def abort (store : Store) (key : Key) (moment : Time.Instant) : Reply Store Record :=
  store.transition .abort .aborted fun table => some (table.finish key .aborted none moment)

/-- Replace the outputs of a payload without touching its state.  A payload that has no
record gets none. -/
def setOutputs (store : Store) (key : Key) (outputs : List String) (moment : Time.Instant) :
    Reply Store (Option Record) :=
  match store.table with
  | none => store.answer .setOutputs (.error .database)
  | some table =>
      match table.setOutputs key outputs moment with
      | none => store.answer .setOutputs (.ok none)
      | some (row, table) =>
          { store with table := some table : Store }.answer .setOutputs (some <$> row.record)

/-- Remove the record of a payload, if there is one. -/
def delete (store : Store) (key : Key) : Reply Store Unit :=
  match store.table with
  | none => store.answer .delete (.error .database)
  | some table =>
      { store with table := some (table.erase key) : Store }.answer .delete (.ok ())

def distinctKeys (keys : List Key) : List Key :=
  (keys.mergeSort fun one other => !other.before one).eraseDups

/-- Keys that one statement of a batch look-up asks for. -/
def batchSize : Nat := 100

/-- The keys in batches of one size, the last with those that are left. -/
def batches (size : Nat) : List Key → List (List Key)
  | [] => []
  | key :: keys => (key :: keys.take (size - 1)) :: batches size (keys.drop (size - 1))
termination_by keys => keys.length

/-- The records of a batch of keys, found by one statement and read one after another. -/
def fetch (store : Store) (batch : List Key) : Except StoreError (List Record) :=
  match store.table with
  | none => .error .database
  | some table => (table.rowsOf batch).mapM Row.record

/-- The records of many keys, in the order of the keys, each once.  The first batch that fails
ends the look-up. -/
def getMany (store : Store) (keys : List Key) : Reply Store (List Record) :=
  store.answer .getMany <|
    ((batches batchSize (distinctKeys keys)).mapM store.fetch).map List.flatten

/-- The state of a payload. -/
def getState (store : Store) (key : Key) : Reply Store (Option State) :=
  (store.get key).map fun record => record.map Record.state

/-- Note the state of a record under its payload's identifier, in place of what was noted there. -/
def noteState (states : List (String × State)) (record : Record) : List (String × State) :=
  states.filter (fun entry => entry.1 ≠ record.payloadId) ++ [(record.payloadId, record.state)]

/-- The states of many payloads, each noted once under its identifier. -/
def getStates (store : Store) (keys : List Key) : Reply Store (List (String × State)) :=
  (store.getMany keys).map fun records => records.foldl noteState []

/-- The position in a caller's token, which must belong to the order that is asked for. -/
def startOf (filter : Filter) (token : Option String) : Except StoreError (Option Cursor) :=
  match token with
  | none => .ok none
  | some token => do
      let cursor ← Cursor.decode token
      if cursor.order = filter.order then return some cursor
      else throw (.cursorOrder cursor.order filter.order)

def scan (store : Store) (partition : String) (filter : PinnedFilter) (room : Option Nat)
    (position : Option Cursor) : Except StoreError (List Record × Option Cursor) :=
  match store.table with
  | none => .error .database
  | some table =>
      table.scan partition filter store.sliceSize (table.scanFuel room) room position

/-- One page of the records of a partition.  Memory is not modelled: there is always enough of it
for a page, however large the limit and its cap are. -/
def query (store : Store) (partition : String) (filter : Filter) (limit : Nat)
    (token : Option String) (now : Time.Instant) : Reply Store Page :=
  let prepared : Except StoreError (PinnedFilter × Option Cursor) := do
    let _ ← (Key.ofPartition partition "").mapError .input
    let pinned ← filter.pin now
    return (pinned, ← startOf filter token)
  match prepared with
  | .error error => store.refuse .query error
  | .ok (pinned, position) =>
      let room := max 1 (min limit store.limitCap)
      store.answer .query <|
        (store.scan partition pinned (some room) position).map fun (items, stop) =>
          ⟨items, stop.map Cursor.encode⟩

/-- The number of wanted records of a partition, counted up to a limit. -/
def count (store : Store) (partition : String) (filter : Filter) (limit : Option Nat)
    (now : Time.Instant) : Reply Store Count :=
  let prepared : Except StoreError PinnedFilter := do
    let _ ← (Key.ofPartition partition "").mapError .input
    filter.pin now
  match prepared with
  | .error error => store.refuse .count error
  | .ok pinned =>
      store.answer .count <|
        (store.scan partition pinned (limit.map (· + 1)) none).map fun (items, _) =>
          match limit with
          | some limit => if limit < items.length then .moreThan limit else .exact items.length
          | none => .exact items.length

/-- Follow tokens from page to page until `wanted` records are there or none are left. -/
def collect (store : Store) (partition : String) (filter : Filter) (now : Time.Instant) :
    Nat → Nat → Option String → Except StoreError (List Record) × List Sample
  | 0, _, _ => (.ok [], [])
  | _, 0, _ => (.ok [], [])
  | fuel + 1, wanted, token =>
      let reply := store.query partition filter wanted token now
      match reply.result with
      | .error error => (.error error, reply.samples)
      | .ok page =>
          match page.next with
          | none => (.ok page.items, reply.samples)
          | some next =>
              let (others, samples) :=
                store.collect partition filter now fuel (wanted - page.items.length) (some next)
              (others.map (page.items ++ ·), reply.samples ++ samples)

/-- The first records of a partition, however many pages they take. -/
def getItems (store : Store) (partition : String) (filter : Filter) (limit : Nat)
    (now : Time.Instant) : Reply Store (List Record) :=
  let (result, samples) := store.collect partition filter now limit limit none
  ⟨result, store, samples⟩

/-- The pages of a partition, one after another, at most `most` of them. -/
def pages (store : Store) (partition : String) (filter : Filter) (limit : Nat)
    (now : Time.Instant) : Nat → Option String → Except StoreError (List Page) × List Sample
  | 0, _ => (.ok [], [])
  | most + 1, token =>
      let reply := store.query partition filter limit token now
      match reply.result with
      | .error error => (.error error, reply.samples)
      | .ok page =>
          match page.next with
          | none => (.ok [page], reply.samples)
          | some next =>
              let (others, samples) := store.pages partition filter limit now most (some next)
              (others.map (page :: ·), reply.samples ++ samples)

/-- Count the records of a partition for each of some states. -/
def countStates (store : Store) (partition : String) (since : Option String)
    (limit : Option Nat) (now : Time.Instant) :
    List State → Except StoreError (List (State × Count)) × List Sample
  | [] => (.ok [], [])
  | state :: states =>
      let reply := store.count partition { state := some state, since } limit now
      match reply.result with
      | .error error => (.error error, reply.samples)
      | .ok count =>
          let (others, samples) := store.countStates partition since limit now states
          (others.map ((state, count) :: ·), reply.samples ++ samples)

/-- The counts of a partition for every state. -/
def summary (store : Store) (partition : String) (since : Option String)
    (limit : Option Nat) (now : Time.Instant) : Reply Store Summary :=
  match Key.ofPartition partition "" with
  | .error error => ⟨.error (.input error), store, []⟩
  | .ok key =>
      let (counts, samples) := store.countStates partition since limit now State.all
      ⟨counts.map fun counts => ⟨key.collections, key.workflow, counts⟩, store, samples⟩

end Store

end PayloadLedger
