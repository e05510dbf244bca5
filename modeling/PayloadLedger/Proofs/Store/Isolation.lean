import PayloadLedger.Proofs.Store.Local

namespace PayloadLedger

/-!
Payloads do not disturb each other.

A request about a payload is answered from the row of its key, and changes that row alone.  So a
payload is answered and recorded as if nothing were ever asked about the others, and requests about
different payloads may change places without any reader noticing: what is read depends on which rows
there are, and not on their order in the table.
-/

/-! ## Requests about payloads -/

/-- A request about one payload. -/
inductive PointCall
  | change (step : Step)
  | get (key : Key)

def PointCall.key : PointCall → Key
  | change step => step.key
  | get key => key

namespace Store

def handle (store : Store) (call : PointCall) : Reply Store (Option Record) :=
  match call with
  | .change step => store.perform step
  | .get key => store.get key

def handleAll (store : Store) (calls : List PointCall) : Store :=
  calls.foldl (fun store call => (store.handle call).after) store

/-- The requests, each with what it is answered. -/
def transcript (store : Store) :
    List PointCall → List (PointCall × Except StoreError (Option Record))
  | [] => []
  | call :: calls =>
      (call, (store.handle call).result) :: (store.handle call).after.transcript calls

theorem handleAll_cons (store : Store) (call : PointCall) (calls : List PointCall) :
    store.handleAll (call :: calls) = (store.handle call).after.handleAll calls := rfl

theorem handle_isLocal (call : PointCall) : IsLocal (fun store => store.handle call) call.key := by
  cases call with
  | change step => exact perform_isLocal step
  | get key => exact get_isLocal key

theorem rowOf?_handle_of_ne {call : PointCall} {key : Key} (different : key ≠ call.key)
    (store : Store) : (store.handle call).after.rowOf? key = store.rowOf? key := by
  rcases handle_isLocal call store with ⟨edit, about, alike⟩
  rw [(alike store rfl).2]
  exact rowOf?_edited_of_ne about different store

/-- Stores that hold the same under the key of a request answer it alike and hold the same there
afterwards. -/
theorem handle_congr {call : PointCall} {one other : Store}
    (same : one.rowOf? call.key = other.rowOf? call.key) :
    (one.handle call).result = (other.handle call).result ∧
      (one.handle call).after.rowOf? call.key = (other.handle call).after.rowOf? call.key := by
  rcases handle_isLocal call other with ⟨edit, about, alike⟩
  rcases alike one same with ⟨result, after⟩
  refine ⟨result, ?_⟩
  rw [after, (alike other rfl).2]
  exact rowOf?_edited_congr same edit

/-- The requests about the other payloads may be left out. -/
theorem transcript_filter {one other : Store} {key : Key}
    (same : one.rowOf? key = other.rowOf? key) (calls : List PointCall) :
    (one.transcript calls).filter (fun entry => entry.1.key = key) =
        other.transcript (calls.filter fun call => call.key = key) ∧
      (one.handleAll calls).rowOf? key =
        (other.handleAll (calls.filter fun call => call.key = key)).rowOf? key := by
  induction calls generalizing one other with
  | nil => exact ⟨rfl, same⟩
  | cons call calls ih =>
      by_cases about : call.key = key
      · rcases handle_congr (about ▸ same) with ⟨result, after⟩
        rw [about] at after
        rcases ih after with ⟨others, last⟩
        simp only [transcript, List.filter_cons, about, decide_true, if_true, result, others]
        exact ⟨trivial, last⟩
      · have after : (one.handle call).after.rowOf? key = other.rowOf? key :=
          (rowOf?_handle_of_ne (Ne.symm about) one).trans same
        simp only [transcript, List.filter_cons, about, decide_false, Bool.false_eq_true, if_false]
        exact ih after

/-! ## Runs -/

theorem handle_edits (store : Store) (call : PointCall) :
    ∃ edit, (store.handle call).after = store.edited edit := by
  rcases handle_isLocal call store with ⟨edit, _, alike⟩
  exact ⟨edit, (alike store rfl).2⟩

theorem IsDistinct.edited {store : Store} (distinct : store.IsDistinct) (edit : Edit) :
    (store.edited edit).IsDistinct := by
  intro table present
  rcases Option.map_eq_some_iff.mp present with ⟨before, here, rfl⟩
  exact Edit.isDistinct_apply (distinct before here) edit

theorem IsDistinct.handleAll {store : Store} (distinct : store.IsDistinct)
    (calls : List PointCall) : (store.handleAll calls).IsDistinct := by
  induction calls generalizing store with
  | nil => exact distinct
  | cons call calls ih =>
      rcases store.handle_edits call with ⟨edit, after⟩
      rw [handleAll_cons, after]
      exact ih (distinct.edited edit)

theorem handleAll_sizes (store : Store) (calls : List PointCall) :
    (store.handleAll calls).sliceSize = store.sliceSize ∧
      (store.handleAll calls).limitCap = store.limitCap := by
  induction calls generalizing store with
  | nil => exact ⟨rfl, rfl⟩
  | cons call calls ih =>
      rcases store.handle_edits call with ⟨edit, after⟩
      rw [handleAll_cons, after]
      exact ih (store.edited edit)

theorem empty_isDistinct (sliceSize limitCap : Nat) : (empty sliceSize limitCap).IsDistinct := by
  intro table present
  cases present
  exact List.nodup_nil

/-! ## Isolation -/

/-- Requests that come in the same order for each payload lead to the same rows, however those about
different payloads are interleaved. -/
theorem handleAll_holdsAlike {store : Store} (distinct : store.IsDistinct)
    {calls others : List PointCall}
    (same : ∀ key, calls.filter (fun call => call.key = key) =
      others.filter fun call => call.key = key) :
    HoldsAlike (store.handleAll calls) (store.handleAll others) where
  sliceSize := (store.handleAll_sizes calls).1.trans (store.handleAll_sizes others).1.symm
  limitCap := (store.handleAll_sizes calls).2.trans (store.handleAll_sizes others).2.symm
  distinct := distinct.handleAll calls
  otherDistinct := distinct.handleAll others
  rows key := by
    rw [(transcript_filter rfl calls).2, (transcript_filter rfl others).2, same key]

theorem filter_swap {one other : PointCall} (different : one.key ≠ other.key)
    (later : List PointCall) (key : Key) :
    (one :: other :: later).filter (fun call => call.key = key) =
      (other :: one :: later).filter fun call => call.key = key := by
  simp only [List.filter_cons]
  by_cases first : one.key = key
  · have second : other.key ≠ key := fun same => different (first.trans same.symm)
    simp only [first, second, decide_true, decide_false]
    rfl
  · simp only [first, decide_false]
    rfl

/-- Every payload is answered, and ends up with the record, as if the requests about the others had
never been made; and no reader can tell in which order two requests about different payloads were
carried out, whatever is asked of the store afterwards. -/
theorem keys_isolated (sliceSize limitCap : Nat) (calls : List PointCall) :
    (∀ (store : Store) (key : Key),
      (store.transcript calls).filter (fun entry => entry.1.key = key) =
          store.transcript (calls.filter fun call => call.key = key) ∧
        ((store.handleAll calls).get key).result =
          ((store.handleAll (calls.filter fun call => call.key = key)).get key).result) ∧
    ∀ (one other : PointCall) (later : List PointCall), one.key ≠ other.key →
      ReadsAlike (((empty sliceSize limitCap).handleAll calls).handleAll (one :: other :: later))
        (((empty sliceSize limitCap).handleAll calls).handleAll (other :: one :: later)) := by
  constructor
  · intro store key
    have same : store.rowOf? key = store.rowOf? key := rfl
    rcases transcript_filter same calls with ⟨answers, last⟩
    exact ⟨answers, get_of_rowOf? last⟩
  · intro one other later different
    have distinct := (empty_isDistinct sliceSize limitCap).handleAll calls
    exact (handleAll_holdsAlike distinct (filter_swap different later)).readsAlike

/-- Two payloads of one partition: one is claimed while the other, which was being processed, is
removed. -/
theorem keys_isolated_in_partition :
    let one : PointCall := .change ⟨⟨"c_w", "a"⟩, ⟨60, 0⟩, .claim "first"⟩
    let other : PointCall := .change ⟨⟨"c_w", "b"⟩, ⟨90, 0⟩, .delete⟩
    let started := (empty 100 1000).handleAll [.change ⟨⟨"c_w", "b"⟩, ⟨30, 0⟩, .start "second"⟩]
    one.key ≠ other.key ∧
      ReadsAlike (started.handleAll [one, other, .get ⟨"c_w", "b"⟩])
        (started.handleAll [other, one, .get ⟨"c_w", "b"⟩]) := by
  intro one other started
  have different : one.key ≠ other.key := by decide
  exact ⟨different, (keys_isolated 100 1000 _).2 one other _ different⟩

end Store
end PayloadLedger
