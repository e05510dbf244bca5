import PayloadLedger.Toml.DateTime
import PayloadLedger.Toml.Number
import PayloadLedger.Toml.Quoted
import PayloadLedger.Toml.Table

namespace PayloadLedger
namespace Toml

/-!
Settings files.

A settings file is a TOML document: lines that set a name to a value, under headers that
name the table which the lines belong to.
-/

/-! ## Names -/

/-- The character may stand in a name without quotes. -/
def isBare (c : Char) : Bool :=
  c.isAlphanum || c = '-' || c = '_'

/-- One name, with or without quotes. -/
def name? (text : List Char) : Option (String × List Char) :=
  match text with
  | '"' :: rest => (basic? (rest.length + 1) rest).map fun read => (String.ofList read.1, read.2)
  | '\'' :: rest => (literal? rest).map fun read => (String.ofList read.1, read.2)
  | _ =>
      match text.takeWhile isBare with
      | [] => none
      | name => some (String.ofList name, text.dropWhile isBare)

/-- A dotted name with blanks around its parts: the names before the last one, the last
one, and the rest. -/
def dottedName? : Nat → List Char → Option (List String × String × List Char)
  | 0, _ => none
  | fuel + 1, text => do
      let (name, rest) ← name? (text.dropWhile isBlank)
      match rest.dropWhile isBlank with
      | '.' :: rest => do
          let (path, last, rest) ← dottedName? fuel rest
          return (name :: path, last, rest)
      | rest => return ([], name, rest)

/-- The largest number of parts of a name, and of values inside one another. -/
def depthLimit : Nat := 80

/-! ## Values -/

/-- The text without a comment at its front. -/
def dropComment : List Char → List Char
  | '#' :: rest => rest.dropWhile isPlain
  | text => text

/-- The text without the blanks, comments and line breaks at its front. -/
def dropGap : Nat → List Char → List Char
  | 0, text => text
  | fuel + 1, text =>
      let text := dropComment (text.dropWhile isBlank)
      match afterLineBreak? text with
      | some rest => dropGap fuel rest
      | none => text

/-- The character may stand in a value without quotes and brackets. -/
def isWordChar (c : Char) : Bool :=
  c.isAlphanum || c = '_' || c = '+' || c = '-' || c = '.' || c = ':'

def word? (word : List Char) : Option Setting :=
  if word = "true".toList then some (.flag true)
  else if word = "false".toList then some (.flag false)
  else match dateTime? word with
    | some text => some (.text (String.ofList text))
    | none => number? word

/-- A value without quotes and brackets.  A date may be followed by a blank and a time. -/
def plainValue? (text : List Char) : Option (Setting × List Char) :=
  let word := text.takeWhile isWordChar
  let rest := text.dropWhile isWordChar
  match whole? date word, rest with
  | some _, ' ' :: digit :: later =>
      if digit.isDigit then
        let time := (digit :: later).takeWhile isWordChar
        (word? (word ++ ' ' :: time)).map fun value =>
          (value, (digit :: later).dropWhile isWordChar)
      else (word? word).map fun value => (value, rest)
  | _, _ => (word? word).map fun value => (value, rest)

mutual

/-- A value; `depth` bounds the values inside one another. -/
def value? (depth : Nat) : Nat → List Char → Option (Setting × List Char)
  | 0, _ => none
  | fuel + 1, text =>
      match text, depth with
      | '[' :: _, 0 | '\x7b' :: _, 0 => none
      | '[' :: rest, depth + 1 => do
          let (items, rest) ← items? depth fuel rest
          return (.list items, rest)
      | '\x7b' :: rest, depth + 1 => do
          match rest.dropWhile isBlank with
          | '\x7d' :: rest => return (.table [], rest)
          | rest => do
              let (fields, rest) ← inlineFields? depth fuel [] rest
              return (.table (Fields.entriesOf fields), rest)
      | '"' :: _, _ | '\'' :: _, _ => (string? text).map fun read => (.text read.1, read.2)
      | _, _ => plainValue? text

/-- The items of a list, up to its closing bracket. -/
def items? (depth : Nat) : Nat → List Char → Option (List Setting × List Char)
  | 0, _ => none
  | fuel + 1, text =>
      match dropGap (text.length + 1) text with
      | ']' :: rest => some ([], rest)
      | text => do
          let (item, rest) ← value? depth fuel text
          match dropGap (rest.length + 1) rest with
          | ']' :: rest => return ([item], rest)
          | ',' :: rest => do
              let (others, rest) ← items? depth fuel rest
              return (item :: others, rest)
          | _ => none

/-- The fields of a table on one line, up to its closing brace. -/
def inlineFields? (depth : Nat) : Nat → Fields → List Char → Option (Fields × List Char)
  | 0, _, _ => none
  | fuel + 1, fields, text => do
      let (path, name, rest) ← dottedName? depthLimit text
      match rest with
      | '=' :: rest => do
          let (value, rest) ← value? depth fuel (rest.dropWhile isBlank)
          let fields ← fields.addValue path name value
          match rest.dropWhile isBlank with
          | ',' :: rest => inlineFields? depth fuel fields rest
          | '\x7d' :: rest => return (fields, rest)
          | _ => none
      | _ => none

end

/-! ## Lines -/

/-- The header that the lines being read stand under. -/
inductive Header
  | none
  | table (path : List String) (name : String)
  | element (path : List String) (name : String)
  deriving DecidableEq, Repr

/-- What has been read of a document: the tables of closed headers, and the table of the
open one. -/
structure Draft where
  closed : Fields := []
  header : Header := .none
  opened : Fields := []

namespace Draft

/-- Put the open table in its place. -/
def close (draft : Draft) : Option Fields :=
  match draft.header with
  | .none => some draft.opened
  | .table path name => draft.closed.closeTable path name draft.opened
  | .element path name => draft.closed.closeElement path name draft.opened

def openTable (draft : Draft) (path : List String) (name : String) : Option Draft := do
  let (closed, opened) ← (← draft.close).openTable path name
  return ⟨closed, .table path name, opened⟩

def openElement (draft : Draft) (path : List String) (name : String) : Option Draft := do
  let closed ← (← draft.close).openElement path name
  return ⟨closed, .element path name, []⟩

def addValue (draft : Draft) (path : List String) (name : String) (value : Setting) :
    Option Draft := do
  return { draft with opened := ← draft.opened.addValue path name value }

end Draft

/-- The text behind the end of a line, where only a comment may stand before it. -/
def endLine? (text : List Char) : Option (List Char) :=
  match dropComment (text.dropWhile isBlank) with
  | [] => some []
  | text => afterLineBreak? text

def line? (draft : Draft) (text : List Char) : Option (Draft × List Char) :=
  match text with
  | '[' :: '[' :: rest => do
      let (path, name, rest) ← dottedName? depthLimit rest
      match rest with
      | ']' :: ']' :: rest => return (← draft.openElement path name, ← endLine? rest)
      | _ => none
  | '[' :: rest => do
      let (path, name, rest) ← dottedName? depthLimit rest
      match rest with
      | ']' :: rest => return (← draft.openTable path name, ← endLine? rest)
      | _ => none
  | text => do
      let (path, name, rest) ← dottedName? depthLimit text
      match rest with
      | '=' :: rest => do
          let text := rest.dropWhile isBlank
          let (value, rest) ← value? (depthLimit - 1) (text.length + 1) text
          return (← draft.addValue path name value, ← endLine? rest)
      | _ => none

def lines? : Nat → Draft → List Char → Option Draft
  | 0, _, _ => none
  | fuel + 1, draft, text =>
      match text.dropWhile isBlank with
      | [] => some draft
      | text =>
          match endLine? text with
          | some rest => lines? fuel draft rest
          | none => do
              let (draft, rest) ← line? draft text
              lines? fuel draft rest

/-- The settings in a document, with their names. -/
def ofText? (text : String) : Option (List (String × Setting)) := do
  let text := match text.toList with
    | '\ufeff' :: rest => rest
    | text => text
  let draft ← lines? (text.length + 1) {} text
  return Fields.entriesOf (← draft.close)

end Toml
end PayloadLedger
