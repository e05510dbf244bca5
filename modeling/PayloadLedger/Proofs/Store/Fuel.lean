import Mathlib.Data.List.ProdSigma
import Mathlib.Data.Nat.Find
import PayloadLedger.Proofs.Store.Trips

namespace PayloadLedger
namespace Table

/-!
Fuel of a scan.

A scan goes on with less room, if any, and from the position of a record of the table.  One that
ends never does so twice alike, because it would do the same again from there.  So the round trips
that it takes are no more than the rooms and positions that there are, and a scan that its fuel
leaves unfinished is one that no fuel ends.
-/

variable {table : Table} {partition : String} {filter : PinnedFilter} {sliceSize : Nat}
  {room : Option Nat} {position : Option Cursor}

/-! ## What a slice leads to -/

/-- A scan found these before it went on. -/
def prepend (found : List Record) (rest : List Record × Option Cursor) :
    List Record × Option Cursor :=
  (found ++ rest.1, rest.2)

/-- The room that a scan may come to have. -/
def rooms (room : Option Nat) : List (Option Nat) :=
  (List.range (room.getD 0 + 1)).map fun taken => room.map (· - taken)

theorem mem_rooms_iff {less : Option Nat} :
    less ∈ rooms room ↔ ∃ taken, less = room.map (· - taken) := by
  rw [rooms, List.mem_map]
  constructor
  · rintro ⟨taken, _, rfl⟩
    exact ⟨taken, rfl⟩
  · rintro ⟨taken, rfl⟩
    refine ⟨min taken (room.getD 0), List.mem_range.mpr (by omega), ?_⟩
    cases room with
    | none => rfl
    | some room =>
        have same : room - min taken room = room - taken := by omega
        exact congrArg some same

theorem rooms_trans {less least : Option Nat} (first : less ∈ rooms room)
    (next : least ∈ rooms less) : least ∈ rooms room := by
  rcases mem_rooms_iff.mp first with ⟨taken, rfl⟩
  rcases mem_rooms_iff.mp next with ⟨more, rfl⟩
  refine mem_rooms_iff.mpr ⟨taken + more, ?_⟩
  cases room with
  | none => rfl
  | some room => exact congrArg some (Nat.sub_sub room taken more)

/-- Where the records of the table stand. -/
def positions (table : Table) (order : SortIndex) : List (Option Cursor) :=
  table.filterMap fun row => row.record.toOption.map fun record =>
    some (Cursor.ofRecord order record)

theorem mem_positions {order : SortIndex} {row : Row} (member : row ∈ table) {record : Record}
    (reads : row.record = .ok record) : some (Cursor.ofRecord order record) ∈ table.positions order := by
  refine List.mem_filterMap.mpr ⟨row, member, ?_⟩
  rw [reads]
  rfl

/-- With its first slice the scan ends, or it goes on with the fuel that is left. -/
theorem scan_cases (table : Table) (partition : String) (filter : PinnedFilter) (sliceSize : Nat)
    (room : Option Nat) (position : Option Cursor) :
    (∃ answer, ∀ fuel,
      table.scan partition filter sliceSize (fuel + 1) room position = answer) ∨
    ∃ found less reached, less ∈ rooms room ∧
      (reached = position ∨ reached ∈ table.positions filter.order) ∧
      ∀ fuel, table.scan partition filter sliceSize (fuel + 1) room position =
        (table.scan partition filter sliceSize fuel less reached).map (prepend found) := by
  have members : ∀ row ∈ table.slice partition filter.toFilter position sliceSize, row ∈ table := by
    intro row fetched
    rw [slice_eq] at fetched
    exact (mem_behind.mp (List.mem_of_mem_take fetched)).1
  simp only [scan]
  generalize table.slice partition filter.toFilter position sliceSize = rows at members
  cases shown : rows.mapM Row.record with
  | error error => exact .inl ⟨.error error, fun _ => rfl⟩
  | ok records =>
      simp only
      rcases visit filter room records with ⟨found, halt⟩
      cases halt with
      | windowLeft => exact .inl ⟨.ok (found, none), fun _ => rfl⟩
      | enough cursor => exact .inl ⟨.ok (found, some cursor), fun _ => rfl⟩
      | sliceEnded =>
          by_cases last : rows.length < sliceSize
          · simp only [if_pos last]
            exact .inl ⟨.ok (found, none), fun _ => rfl⟩
          · simp only [if_neg last]
            refine .inr ⟨found, room.map (· - found.length),
              (records.getLast?.map (Cursor.ofRecord filter.order)).or position,
              mem_rooms_iff.mpr ⟨_, rfl⟩, ?_, ?_⟩
            · cases ends : records.getLast? with
              | none => exact .inl rfl
              | some record =>
                  have listed := List.mem_of_getLast? ends
                  rcases exists_of_mem_mapM shown record listed with ⟨row, fetched, reads⟩
                  exact .inr (mem_positions (members row fetched) reads)
            · intro fuel
              cases table.scan partition filter sliceSize fuel _ _ <;> rfl

theorem map_prepend_eq_endless_iff {found : List Record}
    {rest : Except StoreError (List Record × Option Cursor)} :
    rest.map (prepend found) = .error .endlessScan ↔ rest = .error .endlessScan := by
  cases rest with
  | error error => exact Iff.rfl
  | ok answer => exact iff_of_false nofun nofun

/-- More fuel than is enough changes nothing. -/
theorem scan_of_le {fuel more : Nat} (enough : fuel ≤ more)
    (ends : table.scan partition filter sliceSize fuel room position ≠ .error .endlessScan) :
    table.scan partition filter sliceSize more room position =
      table.scan partition filter sliceSize fuel room position := by
  induction fuel generalizing more room position with
  | zero => exact absurd rfl ends
  | succ fuel ih =>
      obtain ⟨more, rfl⟩ := Nat.exists_eq_add_one_of_ne_zero (Nat.ne_zero_of_lt enough)
      rcases table.scan_cases partition filter sliceSize room position with
        ⟨answer, settled⟩ | ⟨found, less, reached, _, _, goes⟩
      · rw [settled, settled]
      · rw [goes] at ends ⊢
        rw [goes, ih (Nat.le_of_succ_le_succ enough) (mt map_prepend_eq_endless_iff.mpr ends)]

/-! ## Fuel that is enough -/

/-- The scan ends with this much fuel and with no less. -/
structure Takes (table : Table) (partition : String) (filter : PinnedFilter) (sliceSize fuel : Nat)
    (room : Option Nat) (position : Option Cursor) : Prop where
  ends : table.scan partition filter sliceSize fuel room position ≠ .error .endlessScan
  least : ∀ less < fuel,
    table.scan partition filter sliceSize less room position = .error .endlessScan

theorem exists_takes {fuel : Nat}
    (ends : table.scan partition filter sliceSize fuel room position ≠ .error .endlessScan) :
    ∃ least ≤ fuel, table.Takes partition filter sliceSize least room position := by
  classical
  let IsEnough (fuel : Nat) : Prop :=
    table.scan partition filter sliceSize fuel room position ≠ .error .endlessScan
  have some : ∃ fuel, IsEnough fuel := ⟨fuel, ends⟩
  exact ⟨Nat.find some, Nat.find_min' some ends, Nat.find_spec some,
    fun less lower => not_not.mp (Nat.find_min some lower)⟩

/-- A scan that ends never has the same room at the same position twice. -/
theorem Takes.exists_states {fuel : Nat}
    (takes : table.Takes partition filter sliceSize fuel room position) :
    ∃ states : List (Option Nat × Option Cursor), states.length = fuel ∧ states.Nodup ∧
      ∀ state ∈ states, state.1 ∈ rooms room ∧
        (state.2 = position ∨ state.2 ∈ table.positions filter.order) ∧
        ∃ less ≤ fuel,
          table.scan partition filter sliceSize less state.1 state.2 ≠ .error .endlessScan := by
  induction fuel generalizing room position with
  | zero => exact absurd rfl takes.ends
  | succ fuel ih =>
      have here : room ∈ rooms room := mem_rooms_iff.mpr ⟨0, by cases room <;> rfl⟩
      rcases table.scan_cases partition filter sliceSize room position with
        ⟨answer, settled⟩ | ⟨found, less, reached, smaller, moved, goes⟩
      · obtain rfl : fuel = 0 := by
          by_contra more
          have ends := takes.ends
          rw [settled, ← settled 0, takes.least 1 (by omega)] at ends
          exact ends rfl
        refine ⟨[(room, position)], rfl, List.nodup_cons.mpr ⟨List.not_mem_nil, .nil⟩, ?_⟩
        intro state member
        rw [List.mem_singleton.mp member]
        exact ⟨here, .inl rfl, 1, Nat.le_refl 1, takes.ends⟩
      · have later : table.Takes partition filter sliceSize fuel less reached := by
          constructor
          · have ends := takes.ends
            rw [goes] at ends
            exact mt map_prepend_eq_endless_iff.mpr ends
          · intro lower below
            have unfinished := takes.least (lower + 1) (Nat.succ_lt_succ below)
            rw [goes] at unfinished
            exact map_prepend_eq_endless_iff.mp unfinished
        rcases ih later with ⟨states, length, distinct, each⟩
        refine ⟨(room, position) :: states, congrArg Nat.succ length, ?_, ?_⟩
        · refine List.nodup_cons.mpr ⟨?_, distinct⟩
          intro again
          rcases (each _ again).2.2 with ⟨lower, below, ends⟩
          exact ends (takes.least lower (Nat.lt_succ_of_le below))
        · intro state member
          rcases List.mem_cons.mp member with rfl | member
          · exact ⟨here, .inl rfl, fuel + 1, Nat.le_refl _, takes.ends⟩
          · rcases each state member with ⟨room, place, lower, below, ends⟩
            refine ⟨rooms_trans smaller room, ?_, lower, Nat.le_succ_of_le below, ends⟩
            rcases place with same | listed
            · exact same ▸ moved
            · exact .inr listed

theorem Takes.le_scanFuel {fuel : Nat}
    (takes : table.Takes partition filter sliceSize fuel room position) :
    fuel ≤ table.scanFuel room := by
  rcases takes.exists_states with ⟨states, rfl, distinct, each⟩
  have among : states ⊆ rooms room ×ˢ (position :: table.positions filter.order) := by
    intro state member
    rcases each state member with ⟨smaller, place, _⟩
    exact List.mem_product.mpr ⟨smaller, List.mem_cons.mpr place⟩
  have few : (table.positions filter.order).length ≤ table.length := List.length_filterMap_le _ _
  calc states.length
      ≤ (rooms room).length * ((table.positions filter.order).length + 1) := by
        have length := distinct.length_le_of_subset among
        rwa [List.length_product] at length
    _ = (room.getD 0 + 1) * ((table.positions filter.order).length + 1) := by
        rw [rooms, List.length_map, List.length_range]
    _ ≤ (room.getD 0 + 2) * (table.length + 1) :=
        Nat.mul_le_mul (Nat.le_succ _) (Nat.succ_le_succ few)
    _ = table.scanFuel room := Nat.mul_comm _ _

/-- A scan that ends with any fuel ends so with its own. -/
theorem scan_eq_of_ends {fuel : Nat}
    (ends : table.scan partition filter sliceSize fuel room position ≠ .error .endlessScan) :
    table.scan partition filter sliceSize (table.scanFuel room) room position =
      table.scan partition filter sliceSize fuel room position := by
  rcases exists_takes ends with ⟨least, below, takes⟩
  rw [scan_of_le takes.le_scanFuel takes.ends, scan_of_le below takes.ends]

/-- A scan is called endless if no fuel ends it. -/
theorem scan_endless_iff_fuel :
    table.scan partition filter sliceSize (table.scanFuel room) room position =
        .error .endlessScan ↔
      ∀ fuel, table.scan partition filter sliceSize fuel room position = .error .endlessScan := by
  constructor
  · intro endless fuel
    by_contra ends
    rw [scan_eq_of_ends ends] at endless
    exact ends endless
  · exact fun endless => endless _

/-! ## Round trips -/

theorem exists_trips_of_scan {fuel : Nat} {answer : List Record × Option Cursor}
    (scanned : table.scan partition filter sliceSize fuel room position = .ok answer) :
    ∃ slices, table.Trips partition filter sliceSize room position slices answer := by
  induction fuel generalizing room position answer with
  | zero => cases scanned
  | succ fuel ih =>
      rw [scan] at scanned
      cases shown : (table.slice partition filter.toFilter position sliceSize).mapM Row.record with
      | error error =>
          simp only [shown] at scanned
          cases scanned
      | ok records =>
          simp only [shown] at scanned
          generalize seen : visit filter room records = visited at scanned
          rcases visited with ⟨found, halt⟩
          cases halt with
          | windowLeft =>
              cases scanned
              exact ⟨_, .last rfl shown seen fun ended => by cases ended⟩
          | enough cursor =>
              cases scanned
              exact ⟨_, .last rfl shown seen fun ended => by cases ended⟩
          | sliceEnded =>
              simp only at scanned
              by_cases short :
                  (table.slice partition filter.toFilter position sliceSize).length < sliceSize
              · rw [if_pos short] at scanned
                cases scanned
                exact ⟨_, .last rfl shown seen fun _ => short⟩
              · rw [if_neg short] at scanned
                cases rest : table.scan partition filter sliceSize fuel
                    (room.map (· - found.length))
                    ((records.getLast?.map (Cursor.ofRecord filter.order)).or position) with
                | error error =>
                    simp only [rest] at scanned
                    cases scanned
                | ok answer =>
                    simp only [rest] at scanned
                    cases scanned
                    rcases ih rest with ⟨slices, later⟩
                    exact ⟨_, .next rfl shown seen short later⟩

/-- A scan answers what its round trips end with, if they do. -/
theorem scan_eq_ok_iff {answer : List Record × Option Cursor} :
    table.scan partition filter sliceSize (table.scanFuel room) room position = .ok answer ↔
      ∃ slices, table.Trips partition filter sliceSize room position slices answer := by
  constructor
  · exact exists_trips_of_scan
  · rintro ⟨slices, trips⟩
    have scanned := trips.scan_eq (Nat.le_refl slices.length)
    rw [scan_eq_of_ends (by rw [scanned]; nofun), scanned]

/-- Where the rows of a partition can be read, nothing else is in the way of an answer. -/
theorem ReadsAs.error_of_scan {read : Row → Record} (readsAs : table.ReadsAs partition read)
    {fuel : Nat} {error : StoreError}
    (failed : table.scan partition filter sliceSize fuel room position = .error error) :
    error = .endlessScan := by
  induction fuel generalizing room position with
  | zero =>
      cases failed
      rfl
  | succ fuel ih =>
      rw [scan] at failed
      have shown : (table.slice partition filter.toFilter position sliceSize).mapM Row.record =
          .ok ((table.slice partition filter.toFilter position sliceSize).map read) := by
        refine mapM_eq_ok_map fun row fetched => ?_
        rw [slice_eq] at fetched
        exact readsAs.of_behind (List.mem_of_mem_take fetched)
      simp only [shown] at failed
      split at failed
      · cases failed
      · cases failed
      · split at failed
        · cases failed
        · split at failed
          · next rest =>
              cases failed
              exact ih rest
          · cases failed

/-- Where the rows of a partition can be read, a scan is endless if its round trips never end. -/
theorem ReadsAs.scan_endless_iff {read : Row → Record} (readsAs : table.ReadsAs partition read) :
    table.scan partition filter sliceSize (table.scanFuel room) room position =
        .error .endlessScan ↔
      ∀ slices answer, ¬ table.Trips partition filter sliceSize room position slices answer := by
  constructor
  · intro endless slices answer trips
    rw [scan_eq_ok_iff.mpr ⟨slices, trips⟩] at endless
    cases endless
  · intro never
    cases scanned : table.scan partition filter sliceSize (table.scanFuel room) room position with
    | error error => rw [readsAs.error_of_scan scanned]
    | ok answer =>
        rcases scan_eq_ok_iff.mp scanned with ⟨slices, trips⟩
        exact absurd trips (never slices answer)

end Table
end PayloadLedger
