import Mathlib.Data.List.TakeWhile
import PayloadLedger.Engine.ErrorLine
import PayloadLedger.Engine.Resolution
import PayloadLedger.Proofs.Json.Values
import PayloadLedger.Proofs.Text.Pattern

namespace PayloadLedger
namespace Engine
namespace TaskFailure

/-!
How an error line is split.

The colon that ends the type of an error is not itself a character of a type.  A run of such
characters that is directly followed by a colon is therefore the longest run at the start of the
line, and nothing that stands behind that colon moves the split, whatever it looks like.
-/

open Text.Pattern (Progress capture)

variable {line name rest : String}

/-! ## The type -/

/-- The name can be the type of an error. -/
structure IsTypeName (name : String) : Prop where
  filled : name ≠ ""
  typed : ∀ c ∈ name.toList, isTypeChar c = true

/-- The line starts with the type of an error and a colon. -/
structure Names (line name rest : String) : Prop where
  type : IsTypeName name
  line_eq : line = name ++ ":" ++ rest

theorem isTypeChar_colon : isTypeChar ':' = false := by decide +kernel

/-- Behind the first character of a type stands the longest run, and then a colon or nothing. -/
theorem ends_typePattern_cons {c : Char} (typed : isTypeChar c = true) (passed : Nat)
    (text : List Char) (captured : List (Nat × List Char)) :
    typePattern.ends ⟨passed, c :: text, captured⟩ =
      (Text.Pattern.one (· = ':')).ends
        ⟨passed + 1 + (text.takeWhile isTypeChar).length, text.dropWhile isTypeChar,
          (1, c :: text.takeWhile isTypeChar) :: captured⟩ := by
  let place : Progress := ⟨passed, c :: text, captured⟩
  let behind : Progress := ⟨passed + 1, text, captured⟩
  have tried : typePattern.ends place =
      ((Text.Pattern.many isTypeChar).ends behind).flatMap fun after =>
        (Text.Pattern.one (· = ':')).ends (capture 1 place after) := by
    simp only [typePattern, Text.Pattern.ends, place, if_pos typed, List.flatMap_singleton,
      List.flatMap_map, behind]
  have apart : ∀ d, isTypeChar d = true → decide (d = ':') = false := by
    intro d fits
    rw [decide_eq_false_iff_not]
    rintro rfl
    rw [isTypeChar_colon] at fits
    cases fits
  have keeps : ∀ after, (capture 1 place after).ahead = after.ahead := fun _ => rfl
  have whole : capture 1 place (behind.past isTypeChar) =
      ⟨passed + 1 + (text.takeWhile isTypeChar).length, text.dropWhile isTypeChar,
        (1, c :: text.takeWhile isTypeChar) :: captured⟩ := by
    rw [capture, Progress.past, Nat.add_right_comm, Nat.add_assoc, Nat.add_sub_cancel_left,
      List.take_succ_cons, ← List.prefix_iff_eq_take.mp (List.takeWhile_prefix isTypeChar)]
  rw [tried, Text.Pattern.flatMap_ends_many apart keeps, whole]

theorem ends_typePattern_named (names : Names line name rest) :
    typePattern.ends ⟨0, line.toList, []⟩ =
      [⟨name.toList.length + 1, rest.toList, [(1, name.toList)]⟩] := by
  have text : line.toList = name.toList ++ ':' :: rest.toList := by
    rw [names.line_eq, String.toList_append, String.toList_append, List.append_assoc]
    rfl
  rcases names.type with ⟨filled, typed⟩
  rw [text]
  cases chars : name.toList with
  | nil => exact absurd (String.toList_eq_nil_iff.mp chars) filled
  | cons c more =>
      rw [chars] at typed
      have others : ∀ d ∈ more, isTypeChar d = true :=
        fun d member => typed d (List.mem_cons_of_mem c member)
      have stops : ¬ isTypeChar ':' = true := by simp [isTypeChar_colon]
      rw [List.cons_append, ends_typePattern_cons (typed c List.mem_cons_self),
        List.takeWhile_append_of_pos others, List.dropWhile_append_of_pos others,
        List.takeWhile_cons_of_neg stops, List.dropWhile_cons_of_neg stops, List.append_nil]
      simp [Text.Pattern.ends, Nat.add_comm, Nat.add_left_comm]

theorem ends_typePattern_unnamed (plain : ∀ name rest, ¬ Names line name rest) :
    typePattern.ends ⟨0, line.toList, []⟩ = [] := by
  cases chars : line.toList with
  | nil => rfl
  | cons c text =>
      by_cases typed : isTypeChar c = true
      · rw [ends_typePattern_cons typed]
        cases behind : text.dropWhile isTypeChar with
        | nil => rfl
        | cons mark others =>
            have other : mark ≠ ':' := by
              rintro rfl
              refine plain (String.ofList (c :: text.takeWhile isTypeChar)) (String.ofList others)
                ⟨⟨?_, ?_⟩, ?_⟩
              · simp [← String.toList_inj]
              · intro d member
                rcases List.mem_cons.mp (String.toList_ofList ▸ member) with rfl | member
                · exact typed
                · exact List.all_eq_true.mp List.all_takeWhile d member
              · have whole := List.takeWhile_append_dropWhile (l := text) (p := isTypeChar)
                rw [behind] at whole
                simp [← String.toList_inj, chars, whole]
            simp [Text.Pattern.ends, other]
      · simp [typePattern, Text.Pattern.ends, typed]

/-! ## The message -/

/-- The message that a text starts with. -/
def messageOf (text : String) : String :=
  String.ofList ((Text.trimStart text.toList).takeWhile (· ≠ '\n'))

theorem ends_messagePattern (passed : Nat) (text : String) (captured : List (Nat × List Char)) :
    ∃ found others, messagePattern.ends ⟨passed, text.toList, captured⟩ = found :: others ∧
      found.captured = (2, (messageOf text).toList) :: captured := by
  let place : Progress := ⟨passed, text.toList, captured⟩
  let behind := place.past Text.isBlank
  rcases Text.Pattern.ends_many Text.isBlank place with ⟨lessSpace, space, -⟩
  rcases Text.Pattern.ends_many (· ≠ '\n') behind with ⟨shorter, run, -⟩
  have tried : messagePattern.ends place =
      capture 2 behind (behind.past (· ≠ '\n')) ::
        (shorter.map (capture 2 behind) ++
          lessSpace.flatMap (Text.Pattern.group 2 (.many (· ≠ '\n'))).ends) := by
    rw [messagePattern, Text.Pattern.ends, space, List.flatMap_cons, Text.Pattern.ends, run,
      List.map_cons, List.cons_append]
  refine ⟨_, _, tried, ?_⟩
  rw [Text.Pattern.capture_past, messageOf, String.toList_ofList]
  rfl

/-! ## Lines -/

/-- The type is tried first, and a line without it after that. -/
theorem ends_linePattern (text : List Char) :
    linePattern.ends ⟨0, text, []⟩ =
      (typePattern.ends ⟨0, text, []⟩).flatMap messagePattern.ends ++
        messagePattern.ends ⟨0, text, []⟩ := by
  simp [linePattern, Text.Pattern.ends]

theorem captures?_named (names : Names line name rest) :
    linePattern.captures? line = some [(2, messageOf rest), (1, name)] := by
  rcases ends_messagePattern (name.toList.length + 1) rest [(1, name.toList)] with
    ⟨found, others, message, captured⟩
  have tried : linePattern.ends ⟨0, line.toList, []⟩ =
      found :: (others ++ messagePattern.ends ⟨0, line.toList, []⟩) := by
    rw [ends_linePattern, ends_typePattern_named names, List.flatMap_singleton, message,
      List.cons_append]
  rw [Text.Pattern.captures?_of_ends tried, captured]
  simp

theorem captures?_unnamed (plain : ∀ name rest, ¬ Names line name rest) :
    linePattern.captures? line = some [(2, messageOf line)] := by
  rcases ends_messagePattern 0 line [] with ⟨found, others, message, captured⟩
  have tried : linePattern.ends ⟨0, line.toList, []⟩ = found :: others := by
    rw [ends_linePattern, ends_typePattern_unnamed plain, List.flatMap_nil, List.nil_append,
      message]
  rw [Text.Pattern.captures?_of_ends tried, captured]
  simp

/-- A line is split behind the type that it names, or else it is all message. -/
inductive Splits (line : String) : TaskFailure → Prop
  | named {name rest : String} (names : Names line name rest) :
      Splits line ⟨name, messageOf rest⟩
  | unnamed (plain : ∀ name rest, ¬ Names line name rest) :
      Splits line ⟨unnamedType, messageOf line⟩

theorem Splits.ofLine_eq {failure : TaskFailure} (splits : Splits line failure) :
    ofLine line = failure := by
  cases splits with
  | named names =>
      rw [ofLine, captures?_named names]
      rfl
  | unnamed plain =>
      rw [ofLine, captures?_unnamed plain]
      rfl

theorem exists_splits (line : String) : ∃ failure, Splits line failure := by
  by_cases named : ∃ name rest, Names line name rest
  · rcases named with ⟨name, rest, names⟩
    exact ⟨_, .named names⟩
  · exact ⟨_, .unnamed fun name rest names => named ⟨name, rest, names⟩⟩

theorem ofLine_eq_iff {failure : TaskFailure} :
    ofLine line = failure ↔ Splits line failure := by
  refine ⟨?_, Splits.ofLine_eq⟩
  rintro rfl
  rcases exists_splits line with ⟨failure, splits⟩
  rwa [splits.ofLine_eq]

theorem exists_captures (line : String) : ∃ groups, linePattern.captures? line = some groups := by
  rcases exists_splits line with ⟨failure, splits⟩
  cases splits with
  | named names => exact ⟨_, captures?_named names⟩
  | unnamed plain => exact ⟨_, captures?_unnamed plain⟩

/-! ## Lines that were joined -/

/-- The text is one line that does not start with white space. -/
structure IsPlain (text : String) : Prop where
  oneLine : '\n' ∉ text.toList
  flush : ∀ c, text.toList.head? = some c → Text.isBlank c = false

theorem messageOf_space {text : String} (plain : IsPlain text) :
    messageOf (" " ++ text) = text := by
  have space : (" " ++ text).toList = ' ' :: text.toList := by
    rw [String.toList_append]
    rfl
  have trimmed : Text.trimStart (' ' :: text.toList) = text.toList := by
    rw [Text.trimStart, List.dropWhile_cons_of_pos (by decide)]
    cases chars : text.toList with
    | nil => rfl
    | cons c more =>
        have visible : Text.isBlank c = false := plain.flush c (by rw [chars]; rfl)
        exact List.dropWhile_cons_of_neg (by simp [visible])
  have whole : text.toList.takeWhile (· ≠ '\n') = text.toList := by
    rw [List.takeWhile_eq_self_iff]
    intro c member
    simpa using ne_of_mem_of_not_mem member plain.oneLine
  rw [messageOf, space, trimmed, whole, String.ofList_toList]

theorem names_message {error : ExecutionError} (type : IsTypeName error.errorType) :
    Names error.message error.errorType (" " ++ error.detail) :=
  ⟨type, by rw [ExecutionError.message]; simp [← String.toList_inj]⟩

/-- Every line is matched by the pattern and is split behind the type that it names, if it names
one.  The line of an error whose type can be one and whose detail is plain is split into just these,
and so the error is judged as before. -/
theorem error_lines_split_back :
    (∀ line, (∃ groups, linePattern.captures? line = some groups) ∧
      ∀ failure, ofLine line = failure ↔ Splits line failure) ∧
    ∀ error : ExecutionError, IsTypeName error.errorType → IsPlain error.detail →
      ofLine error.message = ⟨error.errorType, error.detail⟩ ∧
        ∀ resolver : Resolver,
          resolver.isInvalidInput (ofLine error.message).errorType =
            resolver.isInvalidInput error.errorType := by
  refine ⟨fun line => ⟨exists_captures line, fun failure => ofLine_eq_iff⟩, ?_⟩
  intro error type plain
  have splits := Splits.named (names_message type)
  rw [messageOf_space plain] at splits
  rw [splits.ofLine_eq]
  exact ⟨rfl, fun _ => rfl⟩

/-- An error whose message looks like a line of its own. -/
theorem error_lines_split_back_nested :
    let cause := Json.object
      [("errorMessage", .string "ValueError: no assets: c.d"), ("errorType", .string "Error")]
    let error : ExecutionError := ⟨some "stactask.exceptions.InvalidInput", some cause.render⟩
    let resolver : Resolver := ⟨["ValueError"], .absent⟩
    IsTypeName error.errorType ∧ error.detail = "ValueError: no assets: c.d" ∧
      IsPlain error.detail ∧
      ofLine error.message = ⟨"stactask.exceptions.InvalidInput", "ValueError: no assets: c.d"⟩ ∧
      resolver.isInvalidInput (ofLine error.message).errorType = true := by
  intro cause error resolver
  have held : Json.IsHeld (Json.depthLimit - 1) cause := by decide
  have typed : error.errorType.toList.all isTypeChar = true := by decide +kernel
  have type : IsTypeName error.errorType := ⟨by decide, List.all_eq_true.mp typed⟩
  have detail : error.detail = "ValueError: no assets: c.d" := by
    rw [ExecutionError.detail]
    simp only [error, held.ofText?_render]
    rfl
  have plain : IsPlain error.detail := by
    rw [detail]
    refine ⟨by decide, ?_⟩
    rintro c ⟨⟩
    decide
  rcases error_lines_split_back.2 error type plain with ⟨split, judged⟩
  rw [detail] at split
  exact ⟨type, detail, plain, split, (judged resolver).trans (by decide)⟩

/-- A message of two lines is not kept. -/
example : ofLine "ValueError: one\ntwo" = ⟨"ValueError", "one"⟩ := by decide +kernel

end TaskFailure
end Engine
end PayloadLedger
