import YamlOrder.Text.Quoted

/-!
This module contains the reading of integers of 64 bits, in decimal or in the base that they
announce.
-/

namespace YamlOrder
namespace Text

def isDigit (b : UInt8) : Bool := 48 ≤ b && b ≤ 57

/-- The value of decimal digits; nothing for the empty text and for any other byte. -/
def digits? (t : Text) : Option Nat :=
  if !t.isEmpty && t.all isDigit then
    some (t.foldl (fun n b => n * 10 + (b.toNat - 48)) 0)
  else
    none

/-- An optional sign in front of a number: whether it is a minus, and what follows. -/
def splitSign : Text → Bool × Text
  | b :: t => if b == 45 then (true, t) else if b == 43 then (false, t) else (false, b :: t)
  | [] => (false, [])

/-- The least natural number that does not fit into 64 bits. -/
def wordLimit : Nat := 18446744073709551616

/-- The least natural number that does not fit into 64 bits together with a sign. -/
def signedLimit : Nat := 9223372036854775808

/-- Whether an integer fits into 64 bits. -/
def fitsInt64 (n : Int) : Bool := -(signedLimit : Int) ≤ n && n < (signedLimit : Int)

/-- Why a text is no integer. -/
inductive IntegerFault where
  | malformed
  | outOfRange
  deriving DecidableEq, Repr

def IntegerFault.message : IntegerFault → Text
  | .malformed => "invalid syntax"
  | .outOfRange => "value out of range"

/-- A sign and decimal digits as an integer of 64 bits. -/
def toInt (t : Text) : Except IntegerFault Int :=
  let (negative, rest) := splitSign t
  match digits? rest with
  | none => .error .malformed
  | some n =>
    let value : Int := if negative then -n else n
    if fitsInt64 value then .ok value else .error .outOfRange

/-- The value of a digit in bases up to 16, or 16 if the byte is no digit. -/
def digitValue (b : UInt8) : Nat :=
  if 48 ≤ b && b ≤ 57 then b.toNat - 48
  else if 97 ≤ b && b ≤ 102 then b.toNat - 87
  else if 65 ≤ b && b ≤ 70 then b.toNat - 55
  else 16

def underscore : UInt8 := 95

/-- The value of digits in a base, underscores left out, after digits with the value `n`. -/
def digitsFrom (base : Nat) : Nat → Text → Except IntegerFault Nat
  | n, [] => .ok n
  | n, b :: t =>
    if b == underscore then digitsFrom base n t
    else if base ≤ digitValue b then .error .malformed
    else
      let n := n * base + digitValue b
      if wordLimit ≤ n then .error .outOfRange else digitsFrom base n t

/-- Whether every underscore follows a digit and is followed by one. -/
def groupsDigits : (afterDigit : Bool) → Text → Bool
  | _, [] => true
  | afterDigit, b :: t =>
    if b == underscore then afterDigit && t.head?.any (· != underscore) && groupsDigits false t
    else groupsDigits true t

/-- The base that a number announces, and its digits. A leading 0 alone announces octal digits. -/
def splitBase : Text → Nat × Text
  | 48 :: b :: c :: t =>
    if b == 98 || b == 66 then (2, c :: t)
    else if b == 111 || b == 79 then (8, c :: t)
    else if b == 120 || b == 88 then (16, c :: t)
    else (8, b :: c :: t)
  | 48 :: t => (8, t)
  | t => (10, t)

/--
A sign and a number of 64 bits in the base that it announces. Underscores may stand between its
digits and after the announcement.
-/
def toIntAnyBase (t : Text) : Except IntegerFault Int := do
  let (negative, rest) := splitSign t
  if rest.isEmpty then
    throw .malformed
  let (base, digits) := splitBase rest
  let n ← digitsFrom base 0 digits
  if !groupsDigits (rest.length != digits.length) digits then
    throw .malformed
  let value : Int := if negative then -n else n
  if fitsInt64 value then return value else throw .outOfRange

/-- The words for the two truth values. -/
def toBool? (t : Text) : Option Bool :=
  if (["1", "t", "T", "TRUE", "true", "True"] : List Text).contains t then some true
  else if (["0", "f", "F", "FALSE", "false", "False"] : List Text).contains t then some false
  else none

end Text
end YamlOrder
