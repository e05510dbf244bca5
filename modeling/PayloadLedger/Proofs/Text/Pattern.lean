import Mathlib.Data.List.Basic
import PayloadLedger.Text.Pattern

namespace PayloadLedger
namespace Text
namespace Pattern

/-!
The ways to match a pattern.

A pattern that is tried at a place can end at several places.  Matching tries what comes next at
each of them, in the order in which they are listed here, and takes the first one that it succeeds
at.
-/

variable {allowed : Char → Bool} {place : Progress}

/-- The places at which a run of characters can end, the longest run first. -/
def runs (allowed : Char → Bool) (captured : List (Nat × List Char)) :
    Nat → List Char → List Progress
  | passed, [] => [⟨passed, [], captured⟩]
  | passed, c :: rest =>
      if allowed c then runs allowed captured (passed + 1) rest ++ [⟨passed, c :: rest, captured⟩]
      else [⟨passed, c :: rest, captured⟩]

/-- A place behind a group, with what the group captures. -/
def capture (number : Nat) (place after : Progress) : Progress :=
  { after with
    captured := (number, place.ahead.take (after.passed - place.passed)) :: after.captured }

/-- The places at which a pattern can end, in the order in which they are tried. -/
def ends : Pattern → Progress → List Progress
  | start, place => if place.passed = 0 then [place] else []
  | one allowed, place =>
      match place.ahead with
      | c :: rest => if allowed c then [⟨place.passed + 1, rest, place.captured⟩] else []
      | [] => []
  | many allowed, place => runs allowed place.captured place.passed place.ahead
  | both first second, place => (first.ends place).flatMap second.ends
  | optional inner, place => inner.ends place ++ [place]
  | group number inner, place => (inner.ends place).map (capture number place)

theorem takeRun_eq_findSome? (next : Progress → Option Progress)
    (captured : List (Nat × List Char)) (passed : Nat) (text : List Char) :
    takeRun allowed next captured passed text =
      (runs allowed captured passed text).findSome? next := by
  induction text generalizing passed with
  | nil => simp [takeRun, runs]
  | cons c rest ih =>
      by_cases fits : allowed c = true
      · rw [takeRun, runs, if_pos fits, if_pos fits, ih, List.findSome?_append]
        cases (runs allowed captured (passed + 1) rest).findSome? next <;> simp
      · rw [takeRun, runs, if_neg fits, if_neg fits]
        simp

/-- Matching goes on at the first place at which it can. -/
theorem go_eq_findSome? (pattern : Pattern) (next : Progress → Option Progress)
    (place : Progress) : pattern.go next place = (pattern.ends place).findSome? next := by
  induction pattern generalizing next place with
  | start =>
      rw [go, ends]
      split <;> simp
  | one allowed =>
      rw [go, ends]
      cases place.ahead with
      | nil => rfl
      | cons c rest =>
          dsimp only
          split <;> simp
  | many allowed => exact takeRun_eq_findSome? next place.captured place.passed place.ahead
  | both first second firstIh secondIh =>
      have tried : second.go next = fun after => (second.ends after).findSome? next :=
        funext (secondIh next)
      rw [go, ends, firstIh, tried, ← List.head?_filterMap (l := (first.ends place).flatMap _),
        List.filterMap_flatMap, List.head?_flatMap]
      simp only [List.head?_filterMap]
  | optional inner ih =>
      rw [go, ends, ih, List.findSome?_append]
      cases (inner.ends place).findSome? next <;> simp
  | group number inner ih =>
      rw [go, ends, ih, List.findSome?_map]
      rfl

/-- The groups of a pattern that matches at the start of a text. -/
theorem captures?_of_ends {pattern : Pattern} {text : String} {found : Progress}
    {others : List Progress} (tried : pattern.ends ⟨0, text.toList, []⟩ = found :: others) :
    pattern.captures? text =
      some (found.captured.map fun capture => (capture.1, String.ofList capture.2)) := by
  have matched : pattern.go some ⟨0, text.toList, []⟩ = some found := by
    rw [go_eq_findSome?, tried]
    rfl
  rw [captures?, find?.eq_def, matched]
  rfl

/-! ## Runs -/

/-- The place behind the longest run. -/
def Progress.past (place : Progress) (allowed : Char → Bool) : Progress :=
  ⟨place.passed + (place.ahead.takeWhile allowed).length, place.ahead.dropWhile allowed,
    place.captured⟩

/-- A run ends where no more characters fit, or else before one that does. -/
theorem ends_many (allowed : Char → Bool) (place : Progress) :
    ∃ shorter, (many allowed).ends place = place.past allowed :: shorter ∧
      ∀ other ∈ shorter, ∃ c rest, other.ahead = c :: rest ∧ allowed c = true := by
  rcases place with ⟨passed, text, captured⟩
  simp only [ends, Progress.past]
  induction text generalizing passed with
  | nil => exact ⟨[], rfl, by simp⟩
  | cons c rest ih =>
      by_cases fits : allowed c = true
      · rcases ih (passed + 1) with ⟨shorter, listed, held⟩
        refine ⟨shorter ++ [⟨passed, c :: rest, captured⟩], ?_, ?_⟩
        · rw [runs, if_pos fits, listed, List.takeWhile_cons_of_pos fits,
            List.dropWhile_cons_of_pos fits, List.length_cons, Nat.add_right_comm, Nat.add_assoc]
          rfl
        · intro other member
          rcases List.mem_append.mp member with behind | here
          · exact held other behind
          · rw [List.mem_singleton.mp here]
            exact ⟨c, rest, rfl, fits⟩
      · refine ⟨[], ?_, by simp⟩
        rw [runs, if_neg fits, List.takeWhile_cons_of_neg fits, List.dropWhile_cons_of_neg fits]
        rfl

/-- Before a character outside its class no run can end but the longest one. -/
theorem flatMap_ends_many {mark : Char → Bool}
    (apart : ∀ c, allowed c = true → mark c = false) {settle : Progress → Progress}
    (keeps : ∀ after, (settle after).ahead = after.ahead) (place : Progress) :
    ((many allowed).ends place).flatMap (fun after => (one mark).ends (settle after)) =
      (one mark).ends (settle (place.past allowed)) := by
  rcases ends_many allowed place with ⟨shorter, listed, held⟩
  have refused : shorter.flatMap (fun after => (one mark).ends (settle after)) = [] := by
    rw [List.flatMap_eq_nil_iff]
    intro after member
    rcases held after member with ⟨c, rest, ahead, fits⟩
    have other : ¬ mark c = true := by simp [apart c fits]
    rw [ends, keeps, ahead]
    exact if_neg other
  rw [listed, List.flatMap_cons, refused, List.append_nil]

/-- A group that is a run captures the longest one first. -/
theorem capture_past (number : Nat) (place : Progress) (allowed : Char → Bool) :
    capture number place (place.past allowed) =
      { place.past allowed with
        captured := (number, place.ahead.takeWhile allowed) :: place.captured } := by
  rw [capture, Progress.past, Nat.add_sub_cancel_left,
    ← List.prefix_iff_eq_take.mp (List.takeWhile_prefix allowed)]

end Pattern
end Text
end PayloadLedger
