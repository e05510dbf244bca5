import PayloadLedger.Json.Printer
import PayloadLedger.Json.Reader
import PayloadLedger.Text.Blank
import PayloadLedger.Text.Split

namespace PayloadLedger
namespace Json
namespace Relaxed

/-!
Lists that are extended as text.

A table may add an item to a list without knowing what the other items are.  It reads the
list in a relaxed grammar, with comments, single quotes, bare names, trailing commas and
more ways to write numbers, and keeps of each item its *written form*: the same item in the
strict grammar, without white space.  Strings and numbers that are strict already keep
their spelling, so that `1.50` stays `1.50`.
-/

/-- A reader of part of a text: a written form and the rest of the text. -/
abbrev Reader := List Char → Option (List Char × List Char)

def depthLimit : Nat := 1000

/-! ## Gaps -/

/-- The character may stand between tokens. -/
def isGap (c : Char) : Bool :=
  (Text.isBlank c && c != '\u0085') || c == '\ufeff'

def isLineEnd (c : Char) : Bool :=
  c == '\n' || c == '\r' || c == '\u2028' || c == '\u2029'

/-- A text without the white space and the comments at its start, at most `fuel` of them. -/
def skipGaps : Nat → List Char → List Char
  | 0, text => text
  | fuel + 1, text =>
      match text with
      | '/' :: '*' :: rest =>
          match Text.splitFirst ['*', '/'] rest with
          | some (_, rest) => skipGaps fuel rest
          | none => text
      | '/' :: '/' :: rest => skipGaps fuel ((rest.dropWhile fun c => !isLineEnd c).drop 1)
      | c :: rest => if isGap c then skipGaps fuel rest else text
      | [] => []

/-- A text without the white space and the comments at its start. -/
def afterGaps (text : List Char) : List Char :=
  skipGaps text.length text

/-! ## Strings -/

/-- The text starts with `count` hexadecimal digits. -/
def startsWithHex (count : Nat) (text : List Char) : Bool :=
  (text.take count).length == count && (text.take count).all fun c => (hexValue? (some c)).isSome

/-- The written form of an escape: of the character behind the backslash, with what follows
it.  Hexadecimal digits that belong to the escape are left to be read as they are.  A
vertical tabulator is written as a horizontal one. -/
def escape? (c : Char) (rest : List Char) : Option (List Char) :=
  if (letterEscape? c).isSome then some ['\\', c]
  else if c = 'u' then if startsWithHex 4 rest then some ['\\', 'u'] else none
  else if c = 'x' then if startsWithHex 2 rest then some ['\\', 'u', '0', '0'] else none
  else if c = '\'' then some ['\'']
  else if c = 'v' then some ['\\', 'u', '0', '0', '0', '9']
  else if c = '0' then some (escapeChar '\x00')
  else if isLineEnd c then some []
  else none

def body (mark : Char) : Reader
  | [] => none
  | '\\' :: '\r' :: '\n' :: rest => body mark rest
  | '\\' :: c :: rest =>
      match escape? c rest with
      | some written => (body mark rest).map fun (text, rest) => (written ++ text, rest)
      | none => none
  | c :: rest =>
      if c = mark then some ([], rest)
      else (body mark rest).map fun (text, rest) => (escapeChar c ++ text, rest)

def quoted (text : List Char) : List Char :=
  '"' :: (text ++ ['"'])

def string (mark : Char) : Reader := fun text =>
  (body mark text).map fun (text, rest) => (quoted text, rest)

/-! ## Numbers and words -/

/-- The written form of numbers that are too large for the strict grammar. -/
def infinity : List Char := "9e999".toList

/-- The text starts with a word, whatever the case of its letters. -/
def startsWithWord (word text : List Char) : Bool :=
  (text.take word.length).map Char.toLower == word

/-- The text starts with a word that ends there. -/
def isWord (word text : List Char) : Bool :=
  text.take word.length == word && !((text.drop word.length).head?.any Char.isAlphanum)

/-- The named values, in lower case, with their written forms. -/
def names : List (List Char × List Char) :=
  [("inf".toList, infinity), ("infinity".toList, infinity), ("nan".toList, "null".toList),
    ("qnan".toList, "null".toList), ("snan".toList, "null".toList)]

def word : Reader := fun text =>
  match ["null".toList, "true".toList, "false".toList].find? fun word => isWord word text with
  | some word => some (word, text.drop word.length)
  | none =>
      (names.find? fun name => isWord name.1 ((text.take (name.1.length + 1)).map Char.toLower)).map
        fun name => (name.2, text.drop name.1.length)

def exponent : Reader := fun text =>
  match text with
  | [] => some ([], [])
  | e :: rest =>
      if e = 'e' ∨ e = 'E' then
        let sign := match rest with
          | c :: _ => if c = '+' ∨ c = '-' then [c] else []
          | [] => []
        let digits := (rest.drop sign.length).takeWhile Char.isDigit
        if digits = [] then none
        else some (e :: (sign ++ digits), rest.drop (sign.length + digits.length))
      else some ([], text)

/-- Digits, with a zero where there are none. -/
def orZero (digits : List Char) : List Char :=
  if digits = [] then ['0'] else digits

/-- Read a number in decimal digits.  Its point may come first or last. -/
def decimal : Reader := fun text =>
  let whole := text.takeWhile Char.isDigit
  let rest := text.drop whole.length
  if whole.head? = some '0' ∧ whole ≠ ['0'] then none
  else match rest with
    | '.' :: rest =>
        let places := rest.takeWhile Char.isDigit
        if whole = [] ∧ places = [] then none
        else (exponent (rest.drop places.length)).map fun (tail, rest) =>
          (orZero whole ++ '.' :: orZero places ++ tail, rest)
    | _ =>
        if whole = [] then none
        else (exponent rest).map fun (tail, rest) => (whole ++ tail, rest)

def magnitude : Reader := fun text =>
  match text with
  | '0' :: x :: rest =>
      if (x = 'x' ∨ x = 'X') ∧ startsWithHex 1 rest then
        let digits := rest.takeWhile fun c => (hexValue? (some c)).isSome
        let value := digits.foldl (fun value c => value * 16 + (hexValue? (some c)).getD 0) 0
        some (if value < 0x10000000000000000 then Text.decimal value else "9.0e999".toList,
          rest.drop digits.length)
      else decimal text
  | _ => decimal text

/-- Read a number behind a sign, which may also be an infinity. -/
def signed : Reader := fun text =>
  if startsWithWord "infinity".toList text then some (infinity, text.drop 8)
  else if startsWithWord "inf".toList text then some (infinity, text.drop 3)
  else magnitude text

def leaf : Reader := fun text =>
  match text with
  | '"' :: rest => string '"' rest
  | '\'' :: rest => string '\'' rest
  | '+' :: rest => signed rest
  | '-' :: rest => (signed rest).map fun (written, rest) => ('-' :: written, rest)
  | '.' :: _ => magnitude text
  | c :: _ => if c.isDigit then magnitude text else word text
  | [] => none

/-! ## Lists and objects -/

/-- The letters of a bare name at the start of a text, and the rest. -/
def bareName : List Char → List Char × List Char
  | [] => ([], [])
  | c :: rest =>
      let isLetter := c.isAlphanum || c == '$' || c == '_' || (0x80 ≤ c.toNat && !isGap c)
      if isLetter || (c == '\\' && rest.head? == some 'u' && startsWithHex 4 (rest.drop 1)) then
        let (name, rest) := bareName rest
        (c :: name, rest)
      else ([], c :: rest)

/-- Read the name of a field.  A bare name is no value. -/
def fieldName : Reader := fun text =>
  match text with
  | '"' :: rest => string '"' rest
  | '\'' :: rest => string '\'' rest
  | c :: _ =>
      if c.isDigit ∨ (word text).isSome then none
      else match bareName text with
        | ([], _) => none
        | (name, rest) => some (quoted name, rest)
  | [] => none

def field (value : Reader) : Reader := fun text =>
  match fieldName (afterGaps text) with
  | none => none
  | some (name, rest) =>
      match afterGaps rest with
      | ':' :: rest => (value rest).map fun (value, rest) => (name ++ ':' :: value, rest)
      | _ => none

/-- Read items, at most `fuel` of them, up to the closing bracket.  A comma may stand behind
the last one. -/
def items (close : Char) (item : Reader) :
    Nat → List Char → Option (List (List Char) × List Char)
  | 0, _ => none
  | fuel + 1, text =>
      match afterGaps text with
      | [] => none
      | c :: rest =>
          if c = close then some ([], rest)
          else match item text with
            | none => none
            | some (first, rest) =>
                match afterGaps rest with
                | ',' :: rest =>
                    (items close item fuel rest).map fun (others, rest) => (first :: others, rest)
                | c :: rest => if c = close then some ([first], rest) else none
                | [] => none

/-- Written forms between brackets, with commas between them. -/
def bracketed (opening closing : Char) (items : List (List Char)) : List Char :=
  opening :: (List.intercalate [','] items ++ [closing])

/-- Read a value that is nested at most so deep. -/
def value : Nat → Reader
  | 0, text => leaf (afterGaps text)
  | depth + 1, text =>
      match afterGaps text with
      | '[' :: rest =>
          (items ']' (value depth) (rest.length + 1) rest).map fun (items, rest) =>
            (bracketed '[' ']' items, rest)
      | '\x7b' :: rest =>
          (items '\x7d' (field (value depth)) (rest.length + 1) rest).map fun (fields, rest) =>
            (bracketed '\x7b' '\x7d' fields, rest)
      | text => leaf text

/-! ## Documents -/

/-- A document: a list by the written forms of its items, or the written form of any other
value. -/
inductive Outline
  | list (items : List (List Char))
  | other (written : List Char)
  deriving DecidableEq, Repr

/-- The outline of a document.  The document ends at the first null character. -/
def outline? (document : String) : Option Outline := do
  let text := document.toList.takeWhile fun c => c != '\x00'
  let (outline, rest) ← match afterGaps text with
    | '[' :: rest =>
        (items ']' (value (depthLimit - 1)) (rest.length + 1) rest).map fun (items, rest) =>
          (Outline.list items, rest)
    | _ => (value depthLimit text).map fun (written, rest) => (Outline.other written, rest)
  if (afterGaps rest).isEmpty then return outline else none

/-- The written form of an item reads as the given text.  A list or an object reads as its
own written form. -/
def readsAs (item : List Char) (text : String) : Bool :=
  match item with
  | '"' :: _ =>
      match Json.ofText? (String.ofList item) with
      | .ok (.string read) => read == text
      | _ => false
  | '[' :: _ => String.ofList item == text
  | '\x7b' :: _ => String.ofList item == text
  | _ => false

end Relaxed
end Json
end PayloadLedger
