namespace PayloadLedger
namespace Toml

/-!
Strings in a settings file.

A basic string has escapes and a literal one has none.  Each comes in a long form between
tripled quotes, which may run over lines: a line break directly behind the opening quotes is
left out, and in a long basic string so are a backslash at the end of a line and all white
space behind it.
-/

/-- The character may stand in a string or a comment. -/
def isPlain (c : Char) : Bool :=
  c = '\t' || (' ' ≤ c && c ≠ '\x7f')

/-- The character separates words of a line. -/
def isBlank (c : Char) : Bool :=
  c = ' ' || c = '\t'

/-- The text behind a line break. -/
def afterLineBreak? : List Char → Option (List Char)
  | '\n' :: rest => some rest
  | '\r' :: '\n' :: rest => some rest
  | _ => none

/-- The text without the white space and line breaks at its front. -/
def dropLines : Nat → List Char → List Char
  | 0, text => text
  | fuel + 1, text =>
      let text := text.dropWhile isBlank
      match afterLineBreak? text with
      | some rest => dropLines fuel rest
      | none => text

/-! ## Escapes -/

def hexValue? (c : Char) : Option Nat :=
  if c.isDigit then some (c.toNat - '0'.toNat)
  else if 'a' ≤ c ∧ c ≤ 'f' then some (c.toNat - 'a'.toNat + 10)
  else if 'A' ≤ c ∧ c ≤ 'F' then some (c.toNat - 'A'.toNat + 10)
  else none

/-- The character with the code that some hexadecimal digits give. -/
def coded? (digits : List Char) : Option Char := do
  let values ← digits.mapM hexValue?
  let code := values.foldl (fun code value => 16 * code + value) 0
  if h : code.isValidChar then some (Char.ofNatAux code h) else none

/-- The character of an escape, whose backslash has been read. -/
def escape? : List Char → Option (Char × List Char)
  | 'b' :: rest => some ('\x08', rest)
  | 't' :: rest => some ('\t', rest)
  | 'n' :: rest => some ('\n', rest)
  | 'f' :: rest => some ('\x0c', rest)
  | 'r' :: rest => some ('\r', rest)
  | '"' :: rest => some ('"', rest)
  | '\\' :: rest => some ('\\', rest)
  | 'u' :: rest => coded rest 4
  | 'U' :: rest => coded rest 8
  | _ => none
where
  coded (text : List Char) (count : Nat) : Option (Char × List Char) :=
    if text.length < count then none
    else (coded? (text.take count)).map fun c => (c, text.drop count)

/-! ## Strings on one line -/

def literal? : List Char → Option (List Char × List Char)
  | [] => none
  | c :: rest =>
      if c = '\'' then some ([], rest)
      else if isPlain c then (literal? rest).map fun read => (c :: read.1, read.2)
      else none

/-- A basic string, whose opening quote has been read. -/
def basic? : Nat → List Char → Option (List Char × List Char)
  | 0, _ | _, [] => none
  | fuel + 1, c :: rest =>
      if c = '"' then some ([], rest)
      else if c = '\\' then do
        let (c, rest) ← escape? rest
        let (text, rest) ← basic? fuel rest
        return (c :: text, rest)
      else if isPlain c then do
        let (text, rest) ← basic? fuel rest
        return (c :: text, rest)
      else none

/-! ## Long strings -/

/-- A long string, whose opening quotes have been read.  Up to two quotes may stand directly
before the closing ones. -/
def long? (quote : Char) (escapes : Bool) : Nat → List Char → Option (List Char × List Char)
  | 0, _ | _, [] => none
  | fuel + 1, c :: rest =>
      if c = quote then
        let quotes := (c :: rest).takeWhile (· = quote)
        if 3 ≤ quotes.length then
          some (List.replicate (min 2 (quotes.length - 3)) quote,
            (c :: rest).drop (min 5 quotes.length))
        else do
          let (text, rest) ← long? quote escapes fuel ((c :: rest).drop quotes.length)
          return (quotes ++ text, rest)
      else if escapes && c = '\\' then
        match afterLineBreak? (rest.dropWhile isBlank) with
        | some rest => long? quote escapes fuel (dropLines rest.length rest)
        | none => do
            let (c, rest) ← escape? rest
            let (text, rest) ← long? quote escapes fuel rest
            return (c :: text, rest)
      else match afterLineBreak? (c :: rest) with
        | some rest => do
            let (text, rest) ← long? quote escapes fuel rest
            return ('\n' :: text, rest)
        | none =>
            if isPlain c then do
              let (text, rest) ← long? quote escapes fuel rest
              return (c :: text, rest)
            else none

def string? (text : List Char) : Option (String × List Char) :=
  let read := match text with
    | '"' :: '"' :: '"' :: rest =>
        long? '"' true (rest.length + 1) ((afterLineBreak? rest).getD rest)
    | '"' :: rest => basic? (rest.length + 1) rest
    | '\'' :: '\'' :: '\'' :: rest =>
        long? '\'' false (rest.length + 1) ((afterLineBreak? rest).getD rest)
    | '\'' :: rest => literal? rest
    | _ => none
  read.map fun read => (String.ofList read.1, read.2)

end Toml
end PayloadLedger
