import PayloadLedger.Proofs.Log.Aggregate
import PayloadLedger.Proofs.Store.Reading
import PayloadLedger.Proofs.Time.Reach

namespace PayloadLedger

/-!
Windows that reach back before the calendar begins.

A reader asks for what happened within some span before the present, and the span is subtracted from
the present without a check.  The only bound on spans is that of their milliseconds, which is far
beyond the calendar: a window that reaches back too far breaks the reading off.  Nothing else does.
-/

/-! ## Answers that are not broken off -/

/-- The answer is not broken off for a time before the calendar. -/
def Stays (result : Except StoreError α) : Prop :=
  ∀ error, result = .error error → error ≠ .beforeCalendar

namespace Stays

theorem ok (value : α) : Stays (.ok value) := by
  intro error failed
  cases failed

theorem error {error : StoreError} (other : error ≠ .beforeCalendar) :
    Stays (.error error : Except StoreError α) := by
  intro later failed
  cases failed
  exact other

theorem ne {result : Except StoreError α} (stays : Stays result) :
    result ≠ .error .beforeCalendar :=
  fun broken => stays _ broken rfl

theorem bind {result : Except StoreError α} {next : α → Except StoreError β}
    (stays : Stays result) (later : ∀ value, Stays (next value)) : Stays (result >>= next) := by
  cases result with
  | error failed => exact .error (stays failed rfl)
  | ok value => exact later value

theorem map {result : Except StoreError α} (stays : Stays result) (change : α → β) :
    Stays (result.map change) := by
  cases result with
  | error failed => exact .error (stays failed rfl)
  | ok value => exact .ok (change value)

/-- An error is the same whatever was asked for. -/
theorem error_eq_iff (failed : StoreError) :
    (.error failed : Except StoreError α) = .error .beforeCalendar ↔
      (.error failed : Except StoreError β) = .error .beforeCalendar := by
  constructor
  · rintro ⟨⟩
    rfl
  · rintro ⟨⟩
    rfl

theorem map_eq_iff (result : Except StoreError α) (change : α → β) :
    result.map change = .error .beforeCalendar ↔ result = .error .beforeCalendar := by
  cases result with
  | error failed => exact error_eq_iff failed
  | ok value => exact iff_of_false nofun nofun

theorem mapError {wrap : ε → StoreError} (other : ∀ error, wrap error ≠ .beforeCalendar)
    (result : Except ε α) : Stays (result.mapError wrap) := by
  cases result with
  | error failed => exact .error (other failed)
  | ok value => exact .ok value

theorem mapM {read : α → Except StoreError β} (stays : ∀ value, Stays (read value))
    (values : List α) : Stays (values.mapM read) := by
  induction values with
  | nil => exact .ok []
  | cons value values ih =>
      rw [List.mapM_cons]
      exact (stays value).bind fun _ => ih.bind fun _ => .ok _

end Stays

/-! ## Reading records -/

namespace Row

theorem readTime_stays (key : Key) (column : String) : Stays (readTime key column) := by
  apply Stays.mapError
  intro error broken
  cases broken

theorem readList_stays (column : String) : Stays (readList column) := by
  apply Stays.mapError
  intro error broken
  cases broken

theorem record_stays (row : Row) : Stays row.record := by
  unfold record
  cases Key.ofPartition row.partition row.itemIds with
  | error error => exact .error nofun
  | ok key =>
      cases State.ofPacked? row.stateUpdated with
      | none => exact .error nofun
      | some state =>
          refine .bind (.ok key) fun key => .bind (.ok state) fun state => ?_
          refine .bind (readTime_stays _ _) fun created => ?_
          refine .bind (readTime_stays _ _) fun updated => ?_
          refine .bind (readList_stays _) fun executions => ?_
          cases row.outputs with
          | none => exact .bind (.ok none) fun _ => .ok _
          | some outputs => exact .bind (.map (readList_stays _) _) fun _ => .ok _

end Row

namespace Table

theorem scan_stays (table : Table) (partition : String) (filter : PinnedFilter)
    (sliceSize fuel : Nat) (room : Option Nat) (position : Option Cursor) :
    Stays (table.scan partition filter sliceSize fuel room position) := by
  induction fuel generalizing room position with
  | zero => exact .error nofun
  | succ fuel ih =>
      have slice := Stays.mapM Row.record_stays
        (table.slice partition filter.toFilter position sliceSize)
      rw [scan]
      cases read : (table.slice partition filter.toFilter position sliceSize).mapM Row.record with
      | error failed => exact .error (slice failed read)
      | ok records =>
          dsimp only
          rcases visit filter room records with ⟨found, halt⟩
          cases halt with
          | windowLeft => exact .ok _
          | enough position => exact .ok _
          | sliceEnded =>
              dsimp only
              split
              · exact .ok _
              · split
                · next error failed => exact .error (ih _ _ error failed)
                · exact .ok _

end Table

/-! ## Reading the store -/

/-- The window is bounded, and reaches back before the calendar begins. -/
def Time.Instant.IsExceededBySince (now : Time.Instant) (since : Option String) : Prop :=
  ∃ text, since = some text ∧ now.IsExceededBy text

section

variable {now : Time.Instant} (modern : 0 ≤ now.seconds)

include modern

theorem Filter.pin_breaks_iff (filter : Filter) :
    filter.pin now = .error .beforeCalendar ↔ now.IsExceededBySince filter.since := by
  unfold pin Time.Instant.IsExceededBySince Time.Instant.IsExceededBy
  cases filter.since with
  | none => simp
  | some text =>
      cases accepted : Time.Span.ofText? text with
      | error error => simp [accepted]
      | ok span =>
          have reach := Time.Instant.minus?_eq_none_iff modern span.seconds
          cases back : now.minus? span.seconds with
          | none => simp [accepted, ← reach, back]
          | some cutoff => simp [accepted, ← reach, back]

namespace Store

variable (store : Store) (partition : String)

omit modern in
theorem scan_stays (filter : PinnedFilter) (room : Option Nat) (position : Option Cursor) :
    Stays (store.scan partition filter room position) := by
  unfold scan
  cases store.table with
  | none => exact .error nofun
  | some table => exact table.scan_stays _ _ _ _ _ _

theorem query_breaks_iff (filter : Filter) (limit : Nat) (token : Option String) :
    (store.query partition filter limit token now).result = .error .beforeCalendar ↔
      (Key.ofPartition partition "").isOk = true ∧ now.IsExceededBySince filter.since := by
  rw [← filter.pin_breaks_iff modern]
  unfold query
  cases Key.ofPartition partition "" with
  | error error => exact iff_of_false nofun fun both => nomatch both.1
  | ok key =>
      cases filter.pin now with
      | error error =>
          exact (Stays.error_eq_iff error).trans ⟨fun broken => ⟨rfl, broken⟩, And.right⟩
      | ok pinned =>
          refine iff_of_false ?_ fun both => nomatch both.2
          cases start : startOf filter token with
          | error error =>
              intro broken
              cases broken
              cases kind_of_startOf start
          | ok position => exact ((store.scan_stays partition _ _ _).map _).ne

theorem count_breaks_iff (filter : Filter) (limit : Option Nat) :
    (store.count partition filter limit now).result = .error .beforeCalendar ↔
      (Key.ofPartition partition "").isOk = true ∧ now.IsExceededBySince filter.since := by
  rw [← filter.pin_breaks_iff modern]
  unfold count
  cases Key.ofPartition partition "" with
  | error error => exact iff_of_false nofun fun both => nomatch both.1
  | ok key =>
      cases filter.pin now with
      | error error =>
          exact (Stays.error_eq_iff error).trans ⟨fun broken => ⟨rfl, broken⟩, And.right⟩
      | ok pinned =>
          refine iff_of_false ?_ fun both => nomatch both.2
          exact ((store.scan_stays partition _ _ _).map _).ne

/-- The states are counted one after another, and the window is the same for each of them. -/
theorem countStates_breaks_iff (since : Option String) (limit : Option Nat) (states : List State) :
    (store.countStates partition since limit now states).1 = .error .beforeCalendar ↔
      states ≠ [] ∧ (Key.ofPartition partition "").isOk = true ∧ now.IsExceededBySince since := by
  induction states with
  | nil => exact iff_of_false nofun fun both => both.1 rfl
  | cons state states ih =>
      have first := store.count_breaks_iff modern partition { state := some state, since } limit
      rw [countStates]
      cases counted : (store.count partition { state := some state, since } limit now).result with
      | error error =>
          rw [counted] at first
          rw [← first]
          exact (Stays.error_eq_iff error).trans ⟨fun broken => ⟨nofun, broken⟩, And.right⟩
      | ok count =>
          rw [counted] at first
          have inside := first.not.mp nofun
          refine iff_of_false ?_ fun both => inside both.2
          intro broken
          exact inside (ih.mp ((Stays.map_eq_iff _ _).mp broken)).2

theorem summary_breaks_iff (since : Option String) (limit : Option Nat) :
    (store.summary partition since limit now).result = .error .beforeCalendar ↔
      (Key.ofPartition partition "").isOk = true ∧ now.IsExceededBySince since := by
  have counted := store.countStates_breaks_iff modern partition since limit State.all
  have states : State.all ≠ [] := nofun
  unfold summary
  cases named : Key.ofPartition partition "" with
  | error error => exact iff_of_false nofun fun both => nomatch both.1
  | ok key =>
      rw [named] at counted
      refine (Stays.map_eq_iff _ _).trans ?_
      rw [counted]
      exact ⟨And.right, fun both => ⟨states, both⟩⟩

end Store

/-! ## Reading the event log -/

namespace EventLog

omit modern in
theorem countGroup_stays (group : Int × String) (members : List StoredEvent) :
    Stays (countGroup group members) := by
  unfold countGroup
  cases Time.Instant.ofMilliseconds? group.1 with
  | none => exact .error nofun
  | some bucket =>
      cases Measure.ofName? group.2 with
      | none => exact .error nofun
      | some measure => exact .ok _

omit modern in
theorem countIn_breaks_iff (log : EventLog) (operation : Operation)
    (window : Except StoreError Window) :
    (log.countIn operation window).result = .error .beforeCalendar ↔
      log.isEnabled = true ∧ window = .error .beforeCalendar := by
  cases log with
  | disabled => exact iff_of_false nofun fun both => nomatch both.1
  | kept mode events =>
      cases window with
      | error error =>
          exact (Stays.error_eq_iff error).trans ⟨fun broken => ⟨rfl, broken⟩, And.right⟩
      | ok window =>
          refine iff_of_false ?_ fun both => nomatch both.2
          cases events with
          | none => nofun
          | some events =>
              apply Stays.ne
              change Stays (aggregate events window)
              rw [aggregate_eq]
              exact .mapM (fun group => countGroup_stays group _) _

theorem ago_cases (seconds : Nat) :
    (ago now seconds = .error .beforeCalendar ∧ now.sinceFirst < seconds) ∨
      ∃ moment, ago now seconds = .ok moment ∧ seconds ≤ now.sinceFirst := by
  have reach := Time.Instant.minus?_eq_none_iff modern seconds
  unfold ago
  cases back : now.minus? seconds with
  | none => exact .inl ⟨rfl, reach.mp back⟩
  | some moment =>
      rw [back] at reach
      exact .inr ⟨moment, rfl, Int.not_lt.mp (reach.not.mp nofun)⟩

theorem queryBucket_breaks_iff (log : EventLog) (bucket duration : String) :
    (log.queryBucket bucket duration now).result = .error .beforeCalendar ↔
      log.isEnabled = true ∧
        (∃ size, Time.Span.ofText? bucket = .ok size ∧ size.milliseconds ≠ 0) ∧
        now.IsExceededBy duration := by
  unfold queryBucket Time.Instant.IsExceededBy
  rw [countIn_breaks_iff]
  apply and_congr_right'
  cases Time.Span.ofText? bucket with
  | error error => exact iff_of_false nofun fun ⟨⟨_, accepted, _⟩, _⟩ => nomatch accepted
  | ok size =>
      by_cases positive : size.milliseconds = 0
      · refine iff_of_false ?_ ?_
        · simp only [Except.mapError, bind, Except.bind, if_pos positive]
          nofun
        · rintro ⟨⟨_, ⟨⟩, other⟩, _⟩
          exact other positive
      · cases Time.Span.ofText? duration with
        | error error =>
            refine iff_of_false ?_ ?_
            · simp only [Except.mapError, bind, Except.bind, if_neg positive]
              nofun
            · rintro ⟨_, _, ⟨⟩, _⟩
        | ok length =>
            simp only [Except.mapError, bind, Except.bind, if_neg positive, pure, Except.pure]
            rcases ago_cases modern length.seconds with ⟨broken, far⟩ | ⟨moment, back, near⟩
            · rw [broken]
              exact iff_of_true rfl ⟨⟨size, rfl, positive⟩, length, rfl, far⟩
            · rw [back]
              refine iff_of_false nofun ?_
              rintro ⟨_, _, ⟨⟩, far⟩
              exact absurd far (Int.not_lt.mpr near)

theorem queryHour_breaks_iff (log : EventLog) (start finish : Nat) :
    (log.queryHour start finish now).result = .error .beforeCalendar ↔
      log.isEnabled = true ∧ finish ≤ start ∧ now.sinceFirst < start * 3600 := by
  unfold queryHour
  rw [countIn_breaks_iff]
  apply and_congr_right'
  by_cases reversed : start < finish
  · refine iff_of_false ?_ fun both => absurd reversed (Nat.not_lt.mpr both.1)
    simp only [bind, Except.bind, if_pos reversed]
    nofun
  · simp only [bind, Except.bind, if_neg reversed, pure, Except.pure]
    rcases ago_cases modern (start * 3600) with ⟨broken, far⟩ | ⟨moment, back, near⟩
    · rw [broken]
      exact iff_of_true rfl ⟨Nat.not_lt.mp reversed, by omega⟩
    · rw [back]
      -- The window ends after its start, so that its end lies in the calendar as well.
      rcases ago_cases modern (finish * 3600) with ⟨_, far⟩ | ⟨later, ends, _⟩
      · omega
      · rw [ends]
        exact iff_of_false nofun fun both => by omega

end EventLog

end

/-! ## All readers -/

/-- Which readings are broken off for a time before the calendar, for a present from 1970 on: those of
the store, and those of a log that is kept, whose window is accepted and reaches back before the
calendar begins.  Some spans are accepted and are too long for every present.  Whether a scan ends is
another question, and so is the memory for a page. -/
theorem reads_break_iff (store : Store) (log : EventLog) {now : Time.Instant}
    (modern : 0 ≤ now.seconds) :
    (∀ partition filter limit token,
      (store.query partition filter limit token now).result = .error .beforeCalendar ↔
        (Key.ofPartition partition "").isOk = true ∧ now.IsExceededBySince filter.since) ∧
    (∀ partition filter limit,
      (store.count partition filter limit now).result = .error .beforeCalendar ↔
        (Key.ofPartition partition "").isOk = true ∧ now.IsExceededBySince filter.since) ∧
    (∀ partition since limit,
      (store.summary partition since limit now).result = .error .beforeCalendar ↔
        (Key.ofPartition partition "").isOk = true ∧ now.IsExceededBySince since) ∧
    (∀ bucket duration,
      (log.queryBucket bucket duration now).result = .error .beforeCalendar ↔
        log.isEnabled = true ∧
          (∃ size, Time.Span.ofText? bucket = .ok size ∧ size.milliseconds ≠ 0) ∧
          now.IsExceededBy duration) ∧
    (∀ start finish : Nat,
      (log.queryHour start finish now).result = .error .beforeCalendar ↔
        log.isEnabled = true ∧ finish ≤ start ∧ now.sinceFirst < start * 3600) ∧
    (now.seconds ≤ Time.Instant.lastSecond → now.IsExceededBy "106751991167d") :=
  ⟨store.query_breaks_iff modern, store.count_breaks_iff modern, store.summary_breaks_iff modern,
    log.queryBucket_breaks_iff modern, log.queryHour_breaks_iff modern,
    Time.Instant.isExceededBy_long⟩

/-- On the first of May 2024 a hundred million days reach back before the calendar begins, and so does
the largest count of hours that fits in 32 bits. -/
theorem reads_break_iff_2024 :
    let now : Time.Instant := ⟨1714564800, 0⟩
    0 ≤ now.seconds ∧
      (({} : Store).query "c_w" { since := some "100000000d" } 100 none now).result =
        .error .beforeCalendar ∧
      ((EventLog.empty .strict).queryHour 4294967295 0 now).result = .error .beforeCalendar := by
  intro now
  have modern : 0 ≤ now.seconds := by decide
  have breaks := reads_break_iff {} (.empty .strict) modern
  have parts : "100000000d".toList = "100000000".toList ++ ['d'] := rfl
  have accepted := Time.Span.ofText?_eq_ok parts (by decide) (by decide) rfl (by decide) (by decide)
  refine ⟨modern, ?_, ?_⟩
  · exact (breaks.1 _ _ _ _).mpr ⟨by decide, _, rfl, _, accepted, by decide⟩
  · exact (breaks.2.2.2.2.1 _ _).mpr ⟨rfl, by decide, by decide⟩

end PayloadLedger
