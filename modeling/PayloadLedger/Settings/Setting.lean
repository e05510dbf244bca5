import PayloadLedger.Decimal.Nearest

namespace PayloadLedger

/-!
Values of settings.

A settings file and the environment give values of different kinds for the same setting: a
number in one may be a text in the other.  A setting is therefore taken as the kind that is
wanted wherever that makes sense.
-/

/-- The value of a setting before it is known what is wanted. -/
inductive Setting
  | nothing
  | flag (value : Bool)
  | whole (value : Int)
  | real (bits : UInt64)
  | text (value : String)
  | list (items : List Setting)
  | table (entries : List (String × Setting))
  deriving Inhabited

namespace Setting

/-- The largest count that a setting can give. -/
def largestCount : Nat := 0xFFFFFFFFFFFFFFFF

def small (text : String) : List Char :=
  text.toList.map Char.toLower

/-- The texts that mean yes. -/
def yes : List (List Char) := ["true".toList, "on".toList, "yes".toList]

def no : List (List Char) := ["false".toList, "off".toList, "no".toList]

def text? : Setting → Option String
  | text value => some value
  | flag value => some (if value then "true" else "false")
  | whole value => some (String.ofList (Text.signed value))
  | real bits => some (String.ofList (Decimal.plain bits))
  | nothing | list _ | table _ => none

/-- The setting as a yes or a no. -/
def flag? : Setting → Option Bool
  | flag value => some value
  | whole value => some (value ≠ 0)
  | real bits => some (Decimal.magnitudeBits bits ≠ 0)
  | text value =>
      if small value = ['1'] ∨ small value ∈ yes then some true
      else if small value = ['0'] ∨ small value ∈ no then some false
      else none
  | nothing | list _ | table _ => none

/-- The setting as a count. -/
def count? : Setting → Option Nat
  | flag value => some (if value then 1 else 0)
  | whole value => if 0 ≤ value then some value.toNat else none
  | real bits => some (Decimal.rounded largestCount bits)
  | text value =>
      if small value ∈ yes then some 1
      else if small value ∈ no then some 0
      else if value.toList.head? = some '-' then none
      else (Decimal.wholeWithin? 0 largestCount value.toList).map Int.toNat
  | nothing | list _ | table _ => none

end Setting

end PayloadLedger
