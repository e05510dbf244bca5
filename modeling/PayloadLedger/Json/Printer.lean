import PayloadLedger.Decimal.Shortest
import PayloadLedger.Json.Basic

namespace PayloadLedger
namespace Json

/-!
Writing JSON.

The compact form has no white space.  The pretty form puts each item and field on a line
of its own, indented by two spaces for each level, and keeps empty arrays and objects on
one line.
-/

def hexDigit (value : Nat) : Char :=
  Nat.digitChar value

def escapeChar (c : Char) : List Char :=
  if c = '"' then ['\\', '"']
  else if c = '\\' then ['\\', '\\']
  else if 0x20 ≤ c.toNat then [c]
  else if c.toNat = 0x08 then ['\\', 'b']
  else if c.toNat = 0x09 then ['\\', 't']
  else if c.toNat = 0x0A then ['\\', 'n']
  else if c.toNat = 0x0C then ['\\', 'f']
  else if c.toNat = 0x0D then ['\\', 'r']
  else ['\\', 'u', '0', '0', hexDigit (c.toNat / 16), hexDigit (c.toNat % 16)]

def quote (text : List Char) : List Char :=
  '"' :: (text.flatMap escapeChar ++ ['"'])

mutual

def compact : Json → List Char
  | null => "null".toList
  | bool true => "true".toList
  | bool false => "false".toList
  | int value => Text.signed value
  | float bits => Decimal.text bits
  | string value => quote value.toList
  | array items => '[' :: (compactItems items ++ [']'])
  | object fields => '\x7b' :: (compactFields fields ++ ['\x7d'])

/-- Items with commas between them. -/
def compactItems : List Json → List Char
  | [] => []
  | [only] => compact only
  | first :: second :: rest => compact first ++ ',' :: compactItems (second :: rest)

/-- Fields with commas between them. -/
def compactFields : List (String × Json) → List Char
  | [] => []
  | [(name, value)] => quote name.toList ++ ':' :: compact value
  | (name, value) :: second :: rest =>
      quote name.toList ++ ':' :: compact value ++ ',' :: compactFields (second :: rest)

end

/-- A line break and the indentation of a level. -/
def lineBreak (level : Nat) : List Char :=
  '\n' :: List.replicate (2 * level) ' '

mutual

/-- The pretty form of a value that stands at a level of nesting. -/
def prettyAt (level : Nat) : Json → List Char
  | null => "null".toList
  | bool true => "true".toList
  | bool false => "false".toList
  | int value => Text.signed value
  | float bits => Decimal.text bits
  | string value => quote value.toList
  | array [] => "[]".toList
  | array (first :: rest) =>
      '[' :: (prettyItems (level + 1) (first :: rest) ++ lineBreak level ++ [']'])
  | object [] => ['\x7b', '\x7d']
  | object (first :: rest) =>
      '\x7b' :: (prettyFields (level + 1) (first :: rest) ++ lineBreak level ++ ['\x7d'])

/-- Items, each on a line of its own. -/
def prettyItems (level : Nat) : List Json → List Char
  | [] => []
  | [only] => lineBreak level ++ prettyAt level only
  | first :: second :: rest =>
      lineBreak level ++ prettyAt level first ++ ',' :: prettyItems level (second :: rest)

/-- Fields, each on a line of its own. -/
def prettyFields (level : Nat) : List (String × Json) → List Char
  | [] => []
  | [(name, value)] =>
      lineBreak level ++ quote name.toList ++ ':' :: ' ' :: prettyAt level value
  | (name, value) :: second :: rest =>
      lineBreak level ++ quote name.toList ++ ':' :: ' ' :: prettyAt level value ++
        ',' :: prettyFields level (second :: rest)

end

def render (value : Json) : String :=
  String.ofList value.compact

def renderPretty (value : Json) : String :=
  String.ofList (value.prettyAt 0)

end Json
end PayloadLedger
