import PayloadLedger.Json.Reader

namespace PayloadLedger
namespace Json

/-!
Passing over values.

The value of a field that nobody asks for is read without being kept.  This needs no limit
on nesting, looks at the form of strings and numbers only, and finds a comma before a
closing bracket by the missing value.
-/

/-- Pass over the hexadecimal digits or the letter behind a backslash. -/
def skipEscape : Reader Unit := fun source =>
  match source with
  | [] => .error (.before .endOfString source)
  | some 'u' :: rest =>
      match hexFour rest with
      | .error fault => .error fault
      | .ok (_, rest) => .ok ((), rest)
  | some c :: rest =>
      if (letterEscape? c).isSome then .ok ((), rest)
      else .error (.within .invalidEscape source)
  | none :: _ => .error (.within .invalidEscape source)

/-- Pass over a string whose opening quote is read already. -/
def skipString : Nat → Reader Unit
  | 0, source => .error (.before .endOfString source)
  | fuel + 1, source =>
      match source with
      | [] => .error (.before .endOfString source)
      | some '"' :: rest => .ok ((), rest)
      | some '\\' :: rest =>
          match skipEscape rest with
          | .error fault => .error fault
          | .ok ((), rest) => skipString fuel rest
      | c :: rest =>
          if isControl c then .error (.before .controlCharacter source)
          else skipString fuel rest

def skipExponent : Reader Unit := fun source =>
  let digitsOf (source : Source) : Except Fault (Unit × Source) :=
    match source.digits with
    | ([], _) => .error (.within .invalidNumber source)
    | (_, rest) => .ok ((), rest)
  let part : Reader Unit := fun source =>
    match source with
    | some '+' :: rest => digitsOf rest
    | some '-' :: rest => digitsOf rest
    | _ => digitsOf source
  match source with
  | some 'e' :: rest => part rest
  | some 'E' :: rest => part rest
  | _ => .ok ((), source)

/-- Pass over a number whose sign is read already. -/
def skipNumber : Reader Unit := fun source =>
  let tail : Reader Unit := fun source =>
    match source with
    | some '.' :: rest =>
        match Source.digits rest with
        | ([], _) => .error (.within .invalidNumber rest)
        | (_, rest) => skipExponent rest
    | _ => skipExponent source
  match source with
  | some '0' :: rest =>
      if (Source.digit? rest).isSome then .error (.within .invalidNumber rest) else tail rest
  | _ =>
      match source.digits with
      | ([], _) => .error (.within .invalidNumber source)
      | (_, rest) => tail rest

/-- What encloses the value that is passed over. -/
inductive Enclosure
  | list
  | object
  deriving DecidableEq

mutual

/-- Pass over one value that stands inside `outer`. -/
def skipValue (outer : List Enclosure) : Nat → Reader Unit
  | 0, source => .error (.within .endOfValue source)
  | fuel + 1, source =>
      let source := source.skipSpace
      let leaf (result : Except Fault (Unit × Source)) : Except Fault (Unit × Source) :=
        match result with
        | .error fault => .error fault
        | .ok ((), rest) => skipAfter outer true fuel rest
      match source with
      | [] => .error (.within .endOfValue source)
      | some 'n' :: rest => leaf (word () ['u', 'l', 'l'] rest)
      | some 't' :: rest => leaf (word () ['r', 'u', 'e'] rest)
      | some 'f' :: rest => leaf (word () ['a', 'l', 's', 'e'] rest)
      | some '-' :: rest => leaf (skipNumber rest)
      | some '"' :: rest => leaf (skipString (rest.length + 1) rest)
      | some '[' :: rest => skipAfter (.list :: outer) false fuel rest
      | some '\x7b' :: rest => skipAfter (.object :: outer) false fuel rest
      | _ =>
          if source.digit?.isSome then leaf (skipNumber source)
          else .error (.within .expectedValue source)

/-- Pass over what follows a value or an opening bracket inside `outer`; `comma` says that
a value has gone before. -/
def skipAfter (outer : List Enclosure) (comma : Bool) : Nat → Reader Unit
  | 0, source => .error (.within .endOfValue source)
  | fuel + 1, source =>
      match outer with
      | [] => .ok ((), source)
      | enclosure :: rest =>
          let source := source.skipSpace
          match source with
          | [] =>
              .error (.within (match enclosure with
                | .list => .endOfList
                | .object => .endOfObject) source)
          | c :: after =>
              if c = some (match enclosure with | .list => ']' | .object => '\x7d') then
                skipAfter rest true fuel after
              else if comma = false then skipNext (enclosure :: rest) fuel source
              else if c = some ',' then skipNext (enclosure :: rest) fuel after
              else
                .error (.within (match enclosure with
                  | .list => .expectedListCommaOrEnd
                  | .object => .expectedObjectCommaOrEnd) source)

/-- Pass over the next value inside `outer`, with its key if it has one. -/
def skipNext (outer : List Enclosure) : Nat → Reader Unit
  | 0, source => .error (.within .endOfValue source)
  | fuel + 1, source =>
      match outer with
      | .object :: _ =>
          let source := source.skipSpace
          match source with
          | [] => .error (.within .endOfObject source)
          | some '"' :: rest =>
              match skipString (rest.length + 1) rest with
              | .error fault => .error fault
              | .ok ((), rest) =>
                  match colon rest with
                  | .error fault => .error fault
                  | .ok ((), rest) => skipValue outer fuel rest
          | _ => .error (.within .keyNotString source)
      | _ => skipValue outer fuel source

end

def skipAny : Reader Unit := fun source => skipValue [] (3 * source.length + 3) source

end Json
end PayloadLedger
