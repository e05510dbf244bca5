import PayloadLedger.Time.Instant

namespace PayloadLedger
namespace Time
namespace Instant

/-!
Instants in whole milliseconds.

Events are logged and counted by their milliseconds, rounded down.  Going back by whole seconds
keeps the fraction, so that the milliseconds go back by exactly as much, and the milliseconds
between two instants with the same fraction are the difference of their milliseconds.
-/

/-- The calendar reaches the instant, a leap second counted as the one after it. -/
structure IsReached (moment : Instant) : Prop where
  first_le : first.seconds * 1000 ≤ moment.milliseconds
  lt_last : moment.milliseconds < (lastSecond + 1) * 1000

instance (moment : Instant) : Decidable moment.IsReached :=
  decidable_of_iff
    (first.seconds * 1000 ≤ moment.milliseconds ∧ moment.milliseconds < (lastSecond + 1) * 1000)
    ⟨fun ⟨first, last⟩ => ⟨first, last⟩, fun ⟨first, last⟩ => ⟨first, last⟩⟩

/-- The fraction cut down to whole milliseconds. -/
def floored (moment : Instant) : Instant :=
  ⟨moment.seconds, moment.nanos / 1000000 * 1000000⟩

theorem exists_ofMilliseconds? {count : Int} (first_le : first.seconds * 1000 ≤ count)
    (lt_last : count < (lastSecond + 1) * 1000) : ∃ moment, ofMilliseconds? count = some moment := by
  have within : first.seconds ≤ count / 1000 ∧ count / 1000 ≤ lastSecond := by omega
  exact ⟨_, if_pos within⟩

theorem milliseconds_ofMilliseconds? {count : Int} {moment : Instant}
    (found : ofMilliseconds? count = some moment) : moment.milliseconds = count := by
  rcases Option.ite_none_right_eq_some.mp found with ⟨_, same⟩
  obtain rfl := Option.some.inj same
  unfold milliseconds
  dsimp only
  omega

/-- Instants that are found are in the order of their milliseconds. -/
theorem lt_of_ofMilliseconds? {count otherCount : Int} {one other : Instant}
    (found : ofMilliseconds? count = some one) (otherFound : ofMilliseconds? otherCount = some other)
    (less : count < otherCount) : one < other := by
  rw [ofMilliseconds?] at found otherFound
  rcases Option.ite_none_right_eq_some.mp found with ⟨_, same⟩
  rcases Option.ite_none_right_eq_some.mp otherFound with ⟨_, otherSame⟩
  obtain rfl := Option.some.inj same
  obtain rfl := Option.some.inj otherSame
  change _ < _ ∨ _ = _ ∧ _ < _
  dsimp only
  omega

/-- An instant outside leap seconds is found by its milliseconds, but for what is rounded off. -/
theorem ofMilliseconds?_milliseconds {moment : Instant} (plain : moment.nanos < second)
    (reached : moment.IsReached) : ofMilliseconds? moment.milliseconds = some moment.floored := by
  rcases reached with ⟨first_le, lt_last⟩
  have whole : moment.milliseconds / 1000 = moment.seconds := by
    unfold milliseconds
    unfold second at plain
    omega
  have fraction : (moment.milliseconds % 1000).toNat = moment.nanos / 1000000 := by
    unfold milliseconds
    unfold second at plain
    omega
  have within : first.seconds ≤ moment.seconds ∧ moment.seconds ≤ lastSecond := by omega
  rw [ofMilliseconds?, whole, fraction, if_pos within]
  rfl

/-! ## Going back -/

variable {now earlier : Instant} {seconds : Nat}

/-- Whatever lies before the present lies in the calendar. -/
theorem first_le_of_minus? (reached : now.IsReached) (back : now.minus? seconds = some earlier) :
    first.seconds * 1000 ≤ earlier.milliseconds := by
  rw [minus?] at back
  by_cases none : seconds = 0
  · rw [if_pos none] at back
    cases back
    exact reached.first_le
  · rw [if_neg none] at back
    generalize (if second ≤ now.nanos then _ else now : Instant) = plain at back
    rcases Option.ite_none_right_eq_some.mp back with ⟨late, same⟩
    obtain rfl := Option.some.inj same
    unfold milliseconds
    dsimp only
    omega

/-- Outside leap seconds, going back moves the seconds and nothing else. -/
theorem eq_of_minus? (plain : now.nanos < second) (back : now.minus? seconds = some earlier) :
    earlier = ⟨now.seconds - seconds, now.nanos⟩ := by
  rw [minus?, if_neg (Nat.not_le.mpr plain)] at back
  by_cases none : seconds = 0
  · rw [if_pos none] at back
    cases back
    rw [none, Int.natCast_zero, Int.sub_zero]
  · rw [if_neg none] at back
    dsimp only at back
    split at back
    · cases back
      rfl
    · cases back

/-- The milliseconds between two instants with the same fraction of a plain second. -/
theorem millisecondsBetween_eq {start finish : Instant} (same : start.nanos = finish.nanos)
    (plain : finish.nanos < second) :
    start.millisecondsBetween finish = finish.milliseconds - start.milliseconds := by
  have ordinary : ¬ second ≤ finish.nanos := Nat.not_le.mpr plain
  have startOfDay : (start.secondOfDay : Int) = start.seconds % day := by
    unfold secondOfDay day
    omega
  have finishOfDay : (finish.secondOfDay : Int) = finish.seconds % day := by
    unfold secondOfDay day
    omega
  simp only [millisecondsBetween, milliseconds, same, if_neg ordinary, ite_self, startOfDay,
    finishOfDay]
  unfold day second
  omega

end Instant
end Time
end PayloadLedger
