namespace PayloadLedger
namespace Text

/-!
Patterns of text.

A pattern is matched from the front, and its groups capture what they match.  Where it can go on in
several ways they are tried in order, a longer run before a shorter one and an optional part before
nothing.  The first way in which the whole pattern matches is taken, at the earliest place of the
text at which there is one.
-/

inductive Pattern
  /-- The start of the text. -/
  | start
  /-- One character of a class. -/
  | one (allowed : Char → Bool)
  /-- Any number of characters of a class, as many as possible. -/
  | many (allowed : Char → Bool)
  /-- One pattern and then another. -/
  | both (first second : Pattern)
  /-- A pattern if possible, or else nothing. -/
  | optional (inner : Pattern)
  /-- A pattern whose text is captured under a number. -/
  | group (number : Nat) (inner : Pattern)

namespace Pattern

/-- How far a match has got. -/
structure Progress where
  /-- The number of characters before this place. -/
  passed : Nat
  ahead : List Char
  /-- What the groups have captured, the last of them first. -/
  captured : List (Nat × List Char)

/-- Take a run of characters and go on with `next`.  Where that fails the run is given back
character by character. -/
def takeRun (allowed : Char → Bool) (next : Progress → Option Progress)
    (captured : List (Nat × List Char)) : Nat → List Char → Option Progress
  | passed, [] => next ⟨passed, [], captured⟩
  | passed, c :: rest =>
      if allowed c then
        match takeRun allowed next captured (passed + 1) rest with
        | some found => some found
        | none => next ⟨passed, c :: rest, captured⟩
      else next ⟨passed, c :: rest, captured⟩

/-- Match a pattern and go on with `next`, which is tried after each way to match until it
succeeds. -/
def go : Pattern → (Progress → Option Progress) → Progress → Option Progress
  | start, next, place => if place.passed = 0 then next place else none
  | one allowed, next, place =>
      match place.ahead with
      | c :: rest => if allowed c then next ⟨place.passed + 1, rest, place.captured⟩ else none
      | [] => none
  | many allowed, next, place => takeRun allowed next place.captured place.passed place.ahead
  | both first second, next, place => first.go (second.go next) place
  | optional inner, next, place =>
      match inner.go next place with
      | some found => some found
      | none => next place
  | group number inner, next, place =>
      inner.go
        (fun after =>
          let text := place.ahead.take (after.passed - place.passed)
          next { after with captured := (number, text) :: after.captured })
        place

/-- The first match in a text of which `passed` characters are passed over. -/
def find? (pattern : Pattern) (passed : Nat) (text : List Char) : Option Progress :=
  match pattern.go some ⟨passed, text, []⟩, text with
  | some found, _ => some found
  | none, [] => none
  | none, _ :: rest => find? pattern (passed + 1) rest

/-- What the groups of a pattern capture in a text, if the pattern matches anywhere. -/
def captures? (pattern : Pattern) (text : String) : Option (List (Nat × String)) :=
  (pattern.find? 0 text.toList).map fun found =>
    found.captured.map fun capture => (capture.1, String.ofList capture.2)

end Pattern

end Text
end PayloadLedger
