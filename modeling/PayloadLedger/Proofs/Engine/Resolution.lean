import PayloadLedger.Engine.Resolution
import PayloadLedger.Proofs.Text.Split

namespace PayloadLedger

/-!
What the end of an execution means.

The engine has four words for the end of an execution, and any other is refused.  A failure is
judged by one error alone: the one that was told with it, or else the one that the history
records, or else an unknown one.
-/

namespace EngineStatus

theorem ofName?_name (status : EngineStatus) : ofName? status.name = some status := by
  cases status <;> decide

theorem name_of_ofName? {text : String} {status : EngineStatus}
    (named : ofName? text = some status) : status.name = text := by
  have same := List.find?_some named
  exact eq_of_beq same

theorem ofName?_eq_none_iff {text : String} : ofName? text = none ↔ text ∉ all.map name := by
  constructor
  · intro unnamed member
    rcases List.mem_map.mp member with ⟨status, _, rfl⟩
    rw [ofName?_name] at unnamed
    cases unnamed
  · intro absent
    cases named : ofName? text with
    | none => rfl
    | some status =>
        have member : status.name ∈ all.map name := by cases status <;> decide
        exact absurd (name_of_ofName? named ▸ member) absent

end EngineStatus

namespace Engine
namespace Resolver

/-! ## Errors about the input -/

/-- The type of an error is about the input: it is listed, or the last of its parts says so. -/
inductive IsAboutInput (resolver : Resolver) (errorType : String) : Prop
  | listed (member : errorType ∈ resolver.invalidTypes)
  | whole (same : errorType = "InvalidInput")
  | last {front : String} (ends : errorType = front ++ ".InvalidInput")

theorem lastSegment_eq_iff (errorType : String) :
    lastSegment errorType = "InvalidInput".toList ↔
      errorType = "InvalidInput" ∨ ∃ front, errorType = front ++ ".InvalidInput" := by
  constructor
  · intro last
    rw [lastSegment] at last
    split at last
    · next before after cut =>
        have parts : errorType.toList = before ++ ".InvalidInput".toList := by
          rw [Text.eq_of_splitLast cut, last]
          rfl
        right
        refine ⟨String.ofList before, ?_⟩
        rw [← String.toList_inj, parts]
        simp only [String.toList_append, String.toList_ofList]
    · left
      exact String.toList_inj.mp last
  · rintro (rfl | ⟨front, rfl⟩)
    · decide
    · have parts : (front ++ ".InvalidInput").toList =
          front.toList ++ '.' :: "InvalidInput".toList := String.toList_append
      rw [lastSegment, parts, Text.splitLast_append_cons (by decide)]

theorem isInvalidInput_iff (resolver : Resolver) (errorType : String) :
    resolver.isInvalidInput errorType = true ↔ resolver.IsAboutInput errorType := by
  rw [isInvalidInput, Bool.or_eq_true, List.contains_iff_mem, decide_eq_true_eq,
    lastSegment_eq_iff]
  constructor
  · rintro (member | same | ⟨front, ends⟩)
    · exact .listed member
    · exact .whole same
    · exact .last ends
  · intro about
    cases about with
    | listed member => exact .inl member
    | whole same => exact .inr (.inl same)
    | last ends => exact .inr (.inr ⟨_, ends⟩)

/-! ## Failures -/

/-- The error by which the end of an execution is judged, if it is a failure. -/
inductive Fails (resolver : Resolver) (change : StatusChange) : ExecutionError → Prop
  | ranOut (status : change.status = "TIMED_OUT") :
      Fails resolver change ⟨some "TimedOutError", some "The workflow execution timed out."⟩
  | told {failure : ExecutionError} (status : change.status = "FAILED")
      (told : change.error = some failure) : Fails resolver change failure
  | recorded {lastError : String → Option ExecutionError} {failure : ExecutionError}
      (status : change.status = "FAILED") (silent : change.error = none)
      (kept : resolver.history = .kept lastError)
      (found : lastError change.execution = some failure) : Fails resolver change failure
  /-- There is no history, it cannot be read, or it records nothing for the execution. -/
  | unknown (status : change.status = "FAILED") (silent : change.error = none)
      (unrecorded : ∀ lastError, resolver.history = .kept lastError →
        lastError change.execution = none) :
      Fails resolver change ⟨some "Unknown", none⟩

theorem fails_of_failed (resolver : Resolver) {change : StatusChange}
    (status : change.status = "FAILED") :
    resolver.Fails change
      (change.error.getD (resolver.recordedFailure change.execution)) := by
  cases told : change.error with
  | some failure => exact .told status told
  | none =>
      rw [Option.getD_none, recordedFailure]
      cases kept : resolver.history with
      | absent => exact .unknown status told (by rw [kept]; nofun)
      | unavailable => exact .unknown status told (by rw [kept]; nofun)
      | kept lastError =>
          cases found : lastError change.execution with
          | some failure =>
              simp only [found, Option.getD_some]
              exact .recorded status told kept found
          | none =>
              simp only [found, Option.getD_none]
              refine .unknown status told ?_
              intro other same
              rw [kept] at same
              cases same
              exact found

/-! ## Judgements -/

/-- The state that the end of an execution leads to, and the error that is kept with it. -/
inductive Judges (resolver : Resolver) (change : StatusChange) : State → Option String → Prop
  | succeeded (status : change.status = "SUCCEEDED") : Judges resolver change .completed none
  | aborted (status : change.status = "ABORTED") : Judges resolver change .aborted none
  | invalid {failure : ExecutionError} (fails : resolver.Fails change failure)
      (about : resolver.IsAboutInput failure.errorType) :
      Judges resolver change .invalid (some failure.message)
  | failed {failure : ExecutionError} (fails : resolver.Fails change failure)
      (other : ¬ resolver.IsAboutInput failure.errorType) :
      Judges resolver change .failed (some failure.message)

section

variable {resolver : Resolver} {change : StatusChange}

theorem judges_classify {failure : ExecutionError} (fails : resolver.Fails change failure)
    (status : EngineStatus) :
    let resolution := resolver.classify status failure
    resolver.Judges change resolution.state resolution.error ∧
      resolution.event.target = some resolution.state := by
  rw [classify]
  by_cases about : resolver.isInvalidInput failure.errorType = true
  · rw [if_pos about]
    exact ⟨.invalid fails ((isInvalidInput_iff _ _).mp about), rfl⟩
  · have judged : resolver.Judges change .failed (some failure.message) :=
      .failed fails fun input => about ((isInvalidInput_iff _ _).mpr input)
    rw [if_neg about]
    -- The event tells whether time ran out, but either event leads to the same state.
    by_cases late : some failure.errorType = timedOut.error
    · rw [if_pos late]
      exact ⟨judged, rfl⟩
    · rw [if_neg late]
      exact ⟨judged, rfl⟩

/-- A status change is refused for a word that the engine does not use for the end of an
execution, and otherwise judged, with an event that leads to the state. -/
theorem resolve_cases (resolver : Resolver) (change : StatusChange) :
    (change.status ∉ EngineStatus.all.map EngineStatus.name ∧
      resolver.resolve change = .error (.unsupportedStatus change.status)) ∨
    (change.status ∈ EngineStatus.all.map EngineStatus.name ∧
      ∃ resolution, resolver.resolve change = .ok resolution ∧
        resolver.Judges change resolution.state resolution.error ∧
        resolution.event.target = some resolution.state) := by
  rw [resolve]
  cases named : EngineStatus.ofName? change.status with
  | none => exact .inl ⟨EngineStatus.ofName?_eq_none_iff.mp named, rfl⟩
  | some status =>
      right
      have word := EngineStatus.name_of_ofName? named
      constructor
      · rw [← word]
        cases status <;> decide
      cases status with
      | succeeded => exact ⟨_, rfl, .succeeded word.symm, rfl⟩
      | aborted => exact ⟨_, rfl, .aborted word.symm, rfl⟩
      | timedOut => exact ⟨_, rfl, judges_classify (.ranOut word.symm) .timedOut⟩
      | failed => exact ⟨_, rfl, judges_classify (resolver.fails_of_failed word.symm) .failed⟩

/-- The history is looked at for a failure that comes without an error, and only then. -/
theorem resolve_withHistory (looked : change.status ≠ "FAILED" ∨ change.error.isSome = true)
    (history : History) :
    { resolver with history }.resolve change = resolver.resolve change := by
  rw [resolve, resolve]
  cases named : EngineStatus.ofName? change.status with
  | none => rfl
  | some status =>
      cases status with
      | failed =>
          rcases looked with other | told
          · exact absurd (EngineStatus.name_of_ofName? named).symm other
          · rcases Option.isSome_iff_exists.mp told with ⟨failure, told⟩
            simp only [told, Option.getD_some]
            rfl
      | _ => rfl

end

end Resolver
end Engine
end PayloadLedger
