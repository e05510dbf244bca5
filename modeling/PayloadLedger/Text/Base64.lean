namespace PayloadLedger
namespace Text
namespace Base64

/-!
Bytes as text in the URL-safe alphabet.

Three bytes are written as four symbols of six bits each, a last group of one or two bytes
as two or three symbols, without padding.  Reading refuses whatever writing does not
produce: symbols outside the alphabet, padding, a single symbol left over, and bits of a
last symbol that belong to no byte.
-/

/-- The symbols, in the order of their values. -/
def alphabet : List Char :=
  "ABCDEFGHIJKLMNOPQRSTUVWXYZabcdefghijklmnopqrstuvwxyz0123456789-_".toList

def symbol (value : Nat) : Char :=
  alphabet.getD value 'A'

def value? (byte : UInt8) : Option Nat :=
  let code := byte.toNat
  if 65 ≤ code ∧ code ≤ 90 then some (code - 65)
  else if 97 ≤ code ∧ code ≤ 122 then some (code - 71)
  else if 48 ≤ code ∧ code ≤ 57 then some (code + 4)
  else if code = 45 then some 62
  else if code = 95 then some 63
  else none

/-- Write bytes as symbols. -/
def encode : List UInt8 → List Char
  | [] => []
  | [a] => [symbol (a.toNat / 4), symbol (a.toNat % 4 * 16)]
  | [a, b] =>
      [symbol (a.toNat / 4), symbol (a.toNat % 4 * 16 + b.toNat / 16),
        symbol (b.toNat % 16 * 4)]
  | a :: b :: c :: rest =>
      symbol (a.toNat / 4) :: symbol (a.toNat % 4 * 16 + b.toNat / 16) ::
        symbol (b.toNat % 16 * 4 + c.toNat / 64) :: symbol (c.toNat % 64) :: encode rest

/-- Why a text is not written in symbols. -/
inductive Fault
  | byte (value : UInt8) (offset : Nat)
  | length
  | lastSymbol (value : UInt8) (offset : Nat)
  | padding
  deriving DecidableEq, Repr

namespace Fault

def message : Fault → String
  | byte value offset =>
      "Invalid byte " ++ toString value.toNat ++ ", offset " ++ toString offset ++ "."
  | length => "Encoded text cannot have a 6-bit remainder."
  | lastSymbol value offset =>
      "Invalid last symbol " ++ toString value.toNat ++ ", offset " ++ toString offset ++ "."
  | padding => "Invalid padding"

end Fault

/-- The byte that pads the last group in other uses of the alphabet. -/
def pad : UInt8 := 61

/-- The values of the symbols of a text.  Padding is only passed over as the third or
fourth symbol of the last group, to be refused by name; `padded` is where it began. -/
def values (offset : Nat) (padded : Option Nat) : List UInt8 → Except Fault (List Nat)
  | [] => if padded.isSome then .error .padding else .ok []
  | byte :: rest =>
      if byte = pad then
        if offset % 4 < 2 then .error (.byte pad (padded.getD offset))
        else values (offset + 1) (some (padded.getD offset)) rest
      else match padded, value? byte with
        | some start, _ => .error (.byte pad start)
        | none, none => .error (.byte byte offset)
        | none, some value =>
            match values (offset + 1) none rest with
            | .error fault => .error fault
            | .ok others => .ok (value :: others)

/-- The bytes of groups of values, where `last` is the last byte read and `offset` its
place. -/
def bytes (last : UInt8) (offset : Nat) : List Nat → Except Fault (List UInt8)
  | [] => .ok []
  | [_] => .error .length
  | [a, b] =>
      if b % 16 = 0 then .ok [UInt8.ofNat (a * 4 + b / 16)]
      else .error (.lastSymbol last offset)
  | [a, b, c] =>
      if c % 4 = 0 then
        .ok [UInt8.ofNat (a * 4 + b / 16), UInt8.ofNat (b % 16 * 16 + c / 4)]
      else .error (.lastSymbol last offset)
  | a :: b :: c :: d :: rest =>
      match bytes last offset rest with
      | .error fault => .error fault
      | .ok others =>
          .ok (UInt8.ofNat (a * 4 + b / 16) :: UInt8.ofNat (b % 16 * 16 + c / 4) ::
            UInt8.ofNat (c % 4 * 64 + d) :: others)

/-- Read the bytes that symbols stand for. -/
def decode (symbols : List UInt8) : Except Fault (List UInt8) :=
  let last := symbols.getLast?.getD pad
  if symbols.length % 4 = 1 then
    if last ≠ pad ∧ value? last = none then .error (.byte last (symbols.length - 1))
    else .error .length
  else
    match values 0 none symbols with
    | .error fault => .error fault
    | .ok values => bytes last (symbols.length - 1) values

end Base64

def utf8 (text : String) : List UInt8 :=
  text.toUTF8.data.toList

end Text
end PayloadLedger
