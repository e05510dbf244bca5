import PayloadLedger.Decimal.Scaled
import PayloadLedger.Json.Basic
import PayloadLedger.Json.Source

namespace PayloadLedger
namespace Json

/-!
Reading JSON values.

A reader takes a document and returns a value with the unread rest, or a fault.  Numbers
are whole where they have neither point nor exponent and fit in 64 bits with or without a
sign; minus zero and all others are doubles.  Arrays and objects may be nested below each
other up to a limit.
-/

/-- A reader of part of a document. -/
abbrev Reader (α : Type) := Source → Except Fault (α × Source)

/-- The deepest nesting is one less than this. -/
def depthLimit : Nat := 128

/-! ## Strings -/

def hexValue? : Option Char → Option Nat
  | none => none
  | some c =>
      if '0' ≤ c ∧ c ≤ '9' then some (c.toNat - '0'.toNat)
      else if 'a' ≤ c ∧ c ≤ 'f' then some (c.toNat - 'a'.toNat + 10)
      else if 'A' ≤ c ∧ c ≤ 'F' then some (c.toNat - 'A'.toNat + 10)
      else none

/-- Read the four digits of a hexadecimal escape. -/
def hexFour : Reader Nat := fun source =>
  if source.size < 4 then .error ⟨.endOfString, 0⟩
  else
    let malformed : Fault := ⟨.invalidEscape, source.size - 4⟩
    match source with
    | a :: b :: c :: d :: rest =>
        match hexValue? a, hexValue? b, hexValue? c, hexValue? d with
        | some a, some b, some c, some d => .ok (((a * 16 + b) * 16 + c) * 16 + d, rest)
        | _, _, _, _ => .error malformed
    | _ => .error malformed

/-- Read the second half of a pair of hexadecimal escapes whose first half is `high`. -/
def lowSurrogate (high : Nat) : Reader Char := fun source =>
  match source with
  | [] => .error (.before .endOfString source)
  | some '\\' :: source =>
      match source with
      | [] => .error (.before .endOfString source)
      | some 'u' :: source =>
          match hexFour source with
          | .error fault => .error fault
          | .ok (low, rest) =>
              if low < 0xDC00 ∨ 0xDFFF < low then .error (.before .loneSurrogate rest)
              else .ok (Char.ofNat ((high - 0xD800) * 0x400 + (low - 0xDC00) + 0x10000), rest)
      | _ => .error (.within .unfinishedHexEscape source)
  | _ => .error (.within .unfinishedHexEscape source)

def unicodeEscape : Reader Char := fun source =>
  match hexFour source with
  | .error fault => .error fault
  | .ok (value, rest) =>
      if 0xDC00 ≤ value ∧ value ≤ 0xDFFF then .error (.before .loneSurrogate rest)
      else if 0xD800 ≤ value ∧ value ≤ 0xDBFF then lowSurrogate value rest
      else .ok (Char.ofNat value, rest)

/-- The character of a one-letter escape. -/
def letterEscape? : Char → Option Char
  | '"' => some '"'
  | '\\' => some '\\'
  | '/' => some '/'
  | 'b' => some '\x08'
  | 'f' => some '\x0c'
  | 'n' => some '\n'
  | 'r' => some '\r'
  | 't' => some '\t'
  | _ => none

def escape : Reader Char := fun source =>
  match source with
  | [] => .error (.before .endOfString source)
  | some 'u' :: rest => unicodeEscape rest
  | some c :: rest =>
      match letterEscape? c with
      | some escaped => .ok (escaped, rest)
      | none => .error (.within .invalidEscape source)
  | none :: _ => .error (.within .invalidEscape source)

/-- The character may not stand in a string as it is. -/
def isControl : Option Char → Bool
  | some c => c.toNat < 0x20
  | none => false

/-- Read the characters of a string up to its closing quote, at most `fuel` of them. -/
def stringBody : Nat → Reader Source
  | 0, source => .error (.before .endOfString source)
  | fuel + 1, source =>
      match source with
      | [] => .error (.before .endOfString source)
      | some '"' :: rest => .ok ([], rest)
      | some '\\' :: rest =>
          match escape rest with
          | .error fault => .error fault
          | .ok (c, rest) =>
              match stringBody fuel rest with
              | .error fault => .error fault
              | .ok (body, rest) => .ok (some c :: body, rest)
      | c :: rest =>
          if isControl c then .error (.before .controlCharacter rest)
          else match stringBody fuel rest with
            | .error fault => .error fault
            | .ok (body, rest) => .ok (c :: body, rest)

/-- The characters of a string, if every byte of it belongs to one. -/
def wholeText? : Source → Option (List Char)
  | [] => some []
  | none :: _ => none
  | some c :: rest => (wholeText? rest).map (c :: ·)

/-- Read a string whose opening quote is read already. -/
def stringRest : Reader String := fun source =>
  match stringBody (source.length + 1) source with
  | .error fault => .error fault
  | .ok (body, rest) =>
      match wholeText? body with
      | some text => .ok (String.ofList text, rest)
      | none => .error (.before .invalidCodePoint rest)

/-! ## Numbers -/

/-- The largest significand kept while reading a number. -/
def largestSignificand : Nat := 0xFFFFFFFFFFFFFFFF

/-- Append digits to a significand until the next one would make it too large; what is
left of the digits is returned with it. -/
def absorb (significand : Nat) : List Char → Nat × List Char
  | [] => (significand, [])
  | c :: rest =>
      let longer := significand * 10 + (c.toNat - '0'.toNat)
      if largestSignificand < longer then (significand, c :: rest) else absorb longer rest

/-- The double of a number read up to `rest`. -/
def scaled (negative : Bool) (significand : Nat) (exponent : Int) : Reader Json := fun rest =>
  match Decimal.scaledBits? negative (UInt64.ofNat significand) exponent with
  | some bits => .ok (.float bits, rest)
  | none => .error (.before .numberOutOfRange rest)

/-- The largest exponent that is evaluated. -/
def largestExponent : Nat := 0x7FFFFFFF

/-- The number of leading digits after which a number first exceeds the largest
exponent. -/
def overflowAt (value count : Nat) : List Char → Option Nat
  | [] => none
  | c :: rest =>
      let longer := value * 10 + (c.toNat - '0'.toNat)
      if largestExponent < longer then some (count + 1) else overflowAt longer (count + 1) rest

/-- Read the digits of an exponent and scale the significand by it. -/
def exponentDigits (negative : Bool) (significand : Nat) (start : Int) (down : Bool) :
    Reader Json := fun source =>
  match source with
  | [] => .error (.before .endOfValue source)
  | _ =>
      let (run, rest) := source.digits
      if run = [] then .error (.within .invalidNumber source)
      else match overflowAt 0 0 run with
        | some count =>
            if significand ≠ 0 ∧ down = false then
              .error (.before .numberOutOfRange (source.drop count))
            else scaled negative 0 0 rest
        | none =>
            let size : Int := Nat.ofDigitChars 10 run 0
            scaled negative significand (if down then start - size else start + size) rest

def exponentPart (negative : Bool) (significand : Nat) (start : Int) : Reader Json
  | some '+' :: rest => exponentDigits negative significand start false rest
  | some '-' :: rest => exponentDigits negative significand start true rest
  | rest => exponentDigits negative significand start false rest

def exponent? (negative : Bool) (significand : Nat) (start : Int) : Reader Json
  | some 'e' :: rest => exponentPart negative significand start rest
  | some 'E' :: rest => exponentPart negative significand start rest
  | rest => scaled negative significand start rest

def decimalPart (negative : Bool) (significand : Nat) (start : Int) : Reader Json :=
  fun source =>
    match source.digits with
    | ([], []) => .error (.before .endOfValue source)
    | ([], _) => .error (.within .invalidNumber source)
    | (run, rest) =>
        let (longer, unused) := absorb significand run
        exponent? negative longer (start - (run.length - unused.length)) rest

/-- Read what follows the whole digits of a number, which is a whole number if nothing
does and the digits fit. -/
def numberRest (negative : Bool) (significand : Nat) (unused : List Char) : Reader Json
  | some '.' :: rest => decimalPart negative significand unused.length rest
  | some 'e' :: rest => exponentPart negative significand unused.length rest
  | some 'E' :: rest => exponentPart negative significand unused.length rest
  | rest =>
      if unused ≠ [] then scaled negative significand unused.length rest
      else if negative = false then .ok (.int significand, rest)
      else if significand = 0 ∨ 0x8000000000000000 < significand then
        scaled negative significand 0 rest
      else .ok (.int (-significand), rest)

/-- Read a number whose sign is read already. -/
def number (negative : Bool) : Reader Json := fun source =>
  match source with
  | [] => .error (.before .endOfValue source)
  | some '0' :: rest =>
      if (Source.digit? rest).isSome then .error (.within .invalidNumber rest)
      else numberRest negative 0 [] rest
  | _ =>
      match source.digits with
      | ([], _) => .error (.within .invalidNumber source)
      | (run, rest) =>
          let (significand, unused) := absorb 0 run
          numberRest negative significand unused rest

/-! ## Values -/

/-- Read the rest of a word such as `null` and return its value. -/
def word (value : α) : List Char → Reader α
  | [], source => .ok (value, source)
  | c :: expected, source =>
      match source with
      | [] => .error (.before .endOfValue source)
      | some next :: rest =>
          if next = c then word value expected rest else .error (.within .expectedIdent source)
      | none :: _ => .error (.within .expectedIdent source)

/-- Find the next item of an array: `none` at its end, which is read, and the rest before
the item otherwise.  `first` says that no item has been read yet. -/
def nextItem (first : Bool) (source : Source) : Except Fault (Option Source × Source) :=
  let source := source.skipSpace
  match source with
  | [] => .error (.within .endOfList source)
  | some ']' :: rest => .ok (none, rest)
  | _ =>
      if first then .ok (some source, source)
      else match source with
        | some ',' :: rest =>
            let rest := Source.skipSpace rest
            match rest with
            | [] => .error (.within .endOfValue rest)
            | some ']' :: _ => .error (.within .trailingComma rest)
            | _ => .ok (some rest, rest)
        | _ => .error (.within .expectedListCommaOrEnd source)

/-- Find the next key of an object: `none` at its end, which is read, and the rest behind
the opening quote of the key otherwise. -/
def nextKey (first : Bool) (source : Source) : Except Fault (Option Source × Source) :=
  let source := source.skipSpace
  match source with
  | [] => .error (.within .endOfObject source)
  | some '\x7d' :: rest => .ok (none, rest)
  | _ =>
      if first then
        match source with
        | some '"' :: rest => .ok (some rest, rest)
        | _ => .error (.within .keyNotString source)
      else match source with
        | some ',' :: rest =>
            let rest := Source.skipSpace rest
            match rest with
            | [] => .error (.within .endOfValue rest)
            | some '"' :: rest => .ok (some rest, rest)
            | some '\x7d' :: _ => .error (.within .trailingComma rest)
            | _ => .error (.within .keyNotString rest)
        | _ => .error (.within .expectedObjectCommaOrEnd source)

def colon : Reader Unit := fun source =>
  let source := source.skipSpace
  match source with
  | [] => .error (.within .endOfObject source)
  | some ':' :: rest => .ok ((), rest)
  | _ => .error (.within .expectedColon source)

mutual

/-- Read a value below `depth` more levels of nesting. -/
def value (depth : Nat) : Nat → Reader Json
  | 0, source => .error (.within .endOfValue source)
  | fuel + 1, source =>
      let source := source.skipSpace
      match source with
      | [] => .error (.within .endOfValue source)
      | some 'n' :: rest => word .null ['u', 'l', 'l'] rest
      | some 't' :: rest => word (.bool true) ['r', 'u', 'e'] rest
      | some 'f' :: rest => word (.bool false) ['a', 'l', 's', 'e'] rest
      | some '-' :: rest => number true rest
      | some '"' :: rest =>
          match stringRest rest with
          | .error fault => .error fault
          | .ok (text, rest) => .ok (.string text, rest)
      | some '[' :: rest =>
          if depth ≤ 1 then .error (.within .recursionLimit source)
          else match items (depth - 1) true fuel rest with
            | .error fault => .error fault
            | .ok (items, rest) => .ok (.array items, rest)
      | some '\x7b' :: rest =>
          if depth ≤ 1 then .error (.within .recursionLimit source)
          else match fields (depth - 1) true [] fuel rest with
            | .error fault => .error fault
            | .ok (fields, rest) => .ok (.object fields, rest)
      | _ =>
          if source.digit?.isSome then number false source
          else .error (.within .expectedValue source)

def items (depth : Nat) (first : Bool) : Nat → Reader (List Json)
  | 0, source => .error (.within .endOfList source)
  | fuel + 1, source =>
      match nextItem first source with
      | .error fault => .error fault
      | .ok (none, rest) => .ok ([], rest)
      | .ok (some rest, _) =>
          match value depth fuel rest with
          | .error fault => .error fault
          | .ok (item, rest) =>
              match items depth false fuel rest with
              | .error fault => .error fault
              | .ok (others, rest) => .ok (item :: others, rest)

/-- Read the fields of an object into `sorted`, and the object's end. -/
def fields (depth : Nat) (first : Bool) (sorted : List (String × Json)) :
    Nat → Reader (List (String × Json))
  | 0, source => .error (.within .endOfObject source)
  | fuel + 1, source =>
      match nextKey first source with
      | .error fault => .error fault
      | .ok (none, rest) => .ok (sorted, rest)
      | .ok (some rest, _) =>
          match stringRest rest with
          | .error fault => .error fault
          | .ok (name, rest) =>
              match colon rest with
              | .error fault => .error fault
              | .ok ((), rest) =>
                  match value depth fuel rest with
                  | .error fault => .error fault
                  | .ok (item, rest) =>
                      fields depth false (insertField name item sorted) fuel rest

end

/-- Steps that are enough for a document: each takes at least one character of it. -/
def fuelFor (source : Source) : Nat :=
  2 * source.length + 2

def anyValue : Reader Json := fun source => value depthLimit (fuelFor source) source

/-- Read a whole document, which holds one thing and then nothing but white space. -/
def document (reader : Reader α) (source : Source) : Except ReadError α :=
  match reader source with
  | .error fault => .error (.ofFault source fault)
  | .ok (value, rest) =>
      let rest := Source.skipSpace rest
      if rest = [] then .ok value
      else .error (.ofFault source (.within .trailingCharacters rest))

def ofText? (text : String) : Except ReadError Json :=
  document anyValue (Source.ofString text)

end Json
end PayloadLedger
