import PayloadLedger.InputError

namespace PayloadLedger
namespace Json

/-!
Documents to be read, and what can be wrong with them.

A document is a list of characters.  Documents that come as raw bytes may hold bytes that
belong to no character; each of those is kept as `none`.  A fault remembers how many bytes
of the document were still unread, from which its line and column follow: lines are
counted from one, and columns count the bytes of the line up to the fault.
-/

/-- The characters of a document. -/
abbrev Source := List (Option Char)

namespace Source

def ofString (text : String) : Source :=
  text.toList.map some

/-- The first character of some bytes and the number of bytes it takes. -/
def firstChar? (bytes : List UInt8) : Option (Char × Nat) :=
  [1, 2, 3, 4].findSome? fun width =>
    if bytes.length < width then none
    else match String.fromUTF8? ⟨(bytes.take width).toArray⟩ with
      | some text => text.toList.head?.map fun c => (c, width)
      | none => none

/-- The characters of bytes that are not all text, one step for each. -/
def ofMixed : Nat → List UInt8 → Source
  | 0, _ => []
  | _, [] => []
  | fuel + 1, byte :: rest =>
      match firstChar? (byte :: rest) with
      | some (c, width) => some c :: ofMixed fuel ((byte :: rest).drop width)
      | none => none :: ofMixed fuel rest

def ofBytes (bytes : List UInt8) : Source :=
  match String.fromUTF8? ⟨bytes.toArray⟩ with
  | some text => ofString text
  | none => ofMixed bytes.length bytes

/-- The bytes of one character of a document. -/
def width : Option Char → Nat
  | some c => c.utf8Size
  | none => 1

def size (source : Source) : Nat :=
  (source.map width).foldr (· + ·) 0

/-- The line after the first `count` bytes, and the bytes of it so far. -/
def position : Source → Nat → Nat × Nat → Nat × Nat
  | [], _, place => place
  | c :: rest, count, (line, column) =>
      if count = 0 then (line, column)
      else if count < width c then (line, column + count)
      else if c = some '\n' then position rest (count - 1) (line + 1, 0)
      else position rest (count - width c) (line, column + width c)

def isSpace : Option Char → Bool
  | some ' ' | some '\n' | some '\t' | some '\r' => true
  | _ => false

/-- A document without the white space at its start. -/
def skipSpace (source : Source) : Source :=
  source.dropWhile isSpace

def digit? : Source → Option Char
  | some c :: _ => if c.isDigit then some c else none
  | _ => none

/-- The digits at the start of a document, and the rest. -/
def digits : Source → List Char × Source
  | some c :: rest =>
      if c.isDigit then
        let (run, after) := digits rest
        (c :: run, after)
      else ([], some c :: rest)
  | rest => ([], rest)

end Source

/-- What is wrong at some place of a document. -/
inductive Cause
  | endOfList
  | endOfObject
  | endOfString
  | endOfValue
  | expectedColon
  | expectedListCommaOrEnd
  | expectedObjectCommaOrEnd
  | expectedIdent
  | expectedValue
  | invalidEscape
  | invalidNumber
  | numberOutOfRange
  | invalidCodePoint
  | controlCharacter
  | keyNotString
  | loneSurrogate
  | trailingComma
  | trailingCharacters
  | unfinishedHexEscape
  | recursionLimit
  /-- A value of one kind where another is needed. -/
  | invalidType (found needed : String)
  | unknownVariant (name : String) (known : List String)
  | missingField (name : String)
  | duplicateField (name : String)
  | invalidLength (length : Nat) (needed : String)
  | timestamp (fault : TimestampFault)
  deriving DecidableEq, Repr

namespace Cause

/-- A name between the quotation marks used for names. -/
def ticked (name : String) : String :=
  "`" ++ name ++ "`"

/-- The words for a cause. -/
def message : Cause → String
  | endOfList => "EOF while parsing a list"
  | endOfObject => "EOF while parsing an object"
  | endOfString => "EOF while parsing a string"
  | endOfValue => "EOF while parsing a value"
  | expectedColon => "expected `:`"
  | expectedListCommaOrEnd => "expected `,` or `]`"
  | expectedObjectCommaOrEnd => "expected `,` or `\x7d`"
  | expectedIdent => "expected ident"
  | expectedValue => "expected value"
  | invalidEscape => "invalid escape"
  | invalidNumber => "invalid number"
  | numberOutOfRange => "number out of range"
  | invalidCodePoint => "invalid unicode code point"
  | controlCharacter => "control character (\\u0000-\\u001F) found while parsing a string"
  | keyNotString => "key must be a string"
  | loneSurrogate => "lone leading surrogate in hex escape"
  | trailingComma => "trailing comma"
  | trailingCharacters => "trailing characters"
  | unfinishedHexEscape => "unexpected end of hex escape"
  | recursionLimit => "recursion limit exceeded"
  | invalidType found needed => "invalid type: " ++ found ++ ", expected " ++ needed
  | unknownVariant name known =>
      "unknown variant " ++ ticked name ++ ", expected " ++
        match known with
        | [] => "nothing"
        | [only] => ticked only
        | [first, second] => ticked first ++ " or " ++ ticked second
        | many => "one of " ++ String.intercalate ", " (many.map ticked)
  | missingField name => "missing field " ++ ticked name
  | duplicateField name => "duplicate field " ++ ticked name
  | invalidLength length needed =>
      "invalid length " ++ toString length ++ ", expected " ++ needed
  | timestamp fault => fault.message

end Cause

/-- A cause and the number of bytes that were unread when it was found. -/
structure Fault where
  cause : Cause
  unread : Nat
  deriving DecidableEq, Repr

namespace Fault

/-- A fault found just before `rest`. -/
def before (cause : Cause) (rest : Source) : Fault :=
  ⟨cause, rest.size⟩

/-- A fault found in the first byte of `rest`, or at the end of the document. -/
def within (cause : Cause) (rest : Source) : Fault :=
  ⟨cause, rest.size - 1⟩

end Fault

/-- A cause with its place in a document, or with no place for a value that was never
text. -/
structure ReadError where
  cause : Cause
  place : Option (Nat × Nat)
  deriving DecidableEq, Repr

namespace ReadError

def message (error : ReadError) : String :=
  match error.place with
  | some (line, column) =>
      error.cause.message ++ " at line " ++ toString line ++ " column " ++ toString column
  | none => error.cause.message

/-- Find the place of a fault in its document. -/
def ofFault (source : Source) (fault : Fault) : ReadError :=
  ⟨fault.cause, some (source.position (source.size - fault.unread) (1, 0))⟩

end ReadError

end Json
end PayloadLedger
