import YamlOrder.Text.Integer

/-!
This module contains the number formats of plain scalars.
-/

namespace YamlOrder
namespace Yaml
namespace Number

/-- The value of digits in a base; no digits at all count as 0. -/
def digitsIn? (base : Nat) (t : Text) : Option Nat :=
  if t.all (Text.digitValue · < base) then some
  (t.foldl (fun n b => n * base + Text.digitValue b) 0) else none

/-- The value of one or more digits in a base. -/
def digitsIn1? (base : Nat) (t : Text) : Option Nat :=
  if t.isEmpty then none else digitsIn? base t

/-- The base that a byte after a leading 0 stands for. -/
def baseOf? (b : UInt8) : Option Nat :=
  if b == 98 || b == 66 then some 2
  else if b == 111 || b == 79 then some 8
  else if b == 120 || b == 88 then some 16
  else none

/-- The value of a number without a sign. A leading 0 starts an octal number or announces a base. -/
def natural? : Text → Option Nat
  | 48 :: rest =>
    match rest with
    | b :: c :: t =>
      match baseOf? b with
      | some base => digitsIn? base (c :: t)
      | none => digitsIn? 8 rest
    | _ => digitsIn? 8 rest
  | t => digitsIn1? 10 t

/-- Whether a value with a sign fits into 64 bits. -/
def fitsSigned (negative : Bool) (n : Nat) : Bool :=
  if negative then n ≤ Text.signedLimit else n < Text.signedLimit

/-- Whether digits in a base, with a sign or without, fit into 64 bits. -/
def isSignedIn (base : Nat) (t : Text) : Bool :=
  let (negative, rest) := Text.splitSign t
  (digitsIn1? base rest).any (fitsSigned negative)

/-- Whether a text is an integer of 64 bits. Without a sign it may use all of them. -/
def isInteger (t : Text) : Bool :=
  let (negative, rest) := Text.splitSign t
  (natural? rest).any fun n => fitsSigned negative n ||
    (rest.length == t.length && n < Text.wordLimit)

/-- Whether a base is announced and a sign stands between it and the digits. -/
def isSignedInside : Text → Bool
  | 48 :: 98 :: t => isSignedIn 2 t
  | 48 :: 111 :: t => isSignedIn 8 t
  | _ => false

/-- The digits of a decimal number and its exponent: it is the digits' value times a power of 10. -/
structure Decimal where
  digits : Text
  exponent : Int

/-- The exponent part of a decimal number, which may be missing. -/
def exponent? : Text → Option Int
  | [] => some 0
  | e :: t =>
    if e == 101 || e == 69 then
      let (negative, rest) := Text.splitSign t
      (Text.digits? rest).map fun n => if negative then -(n : Int) else n
    else
      none

/--
A decimal number without a sign: digits, with a point before, in between or after them, and an
exponent.
-/
def decimal? (t : Text) : Option Decimal :=
  let whole := t.takeWhile Text.isDigit
  match t.dropWhile Text.isDigit with
  | 46 :: rest =>
    let fraction := rest.takeWhile Text.isDigit
    if whole.isEmpty && fraction.isEmpty then none
    else
      (exponent? (rest.dropWhile Text.isDigit)).map fun e =>
        ⟨whole ++ fraction, e - fraction.length⟩
  | rest => if whole.isEmpty then none else (exponent? rest).map fun e => ⟨whole, e⟩

/-- The least number that is too large for a floating point number of 64 bits. -/
def overflowLimit : Nat := Nat.pow 2 1024 - Nat.pow 2 970

/-- Whether a decimal number is too large for a floating point number of 64 bits. -/
def Decimal.overflows (d : Decimal) : Bool :=
  let digits := d.digits.dropWhile (· == 48)
  let size : Int := digits.length + d.exponent
  if digits.isEmpty || size < 300 then false
  else if size > 320 then true
  else
    let n := (digitsIn? 10 digits).getD 0
    if d.exponent < 0 then overflowLimit * Nat.pow 10 (-d.exponent).toNat ≤ n
    else overflowLimit ≤ n * Nat.pow 10 d.exponent.toNat

/-- Whether a text is a decimal number with a sign or without. -/
def isDecimal (t : Text) : Bool := (decimal? (Text.splitSign t).2).isSome

/-- Whether a text is a decimal number that a floating point number can hold. -/
def isFloat (t : Text) : Bool := (decimal? (Text.splitSign t).2).any (!·.overflows)

/-- Whether every underscore stands between two digits. -/
def underscoresBetweenDigits : Text → Bool
  | [] => true
  | b :: t => (b != 95) && go b t
where
  go : UInt8 → Text → Bool
    | _, [] => true
    | before, b :: t =>
      (b != 95 || (Text.isDigit before && t.head?.any Text.isDigit)) && go b t

/-- Whether a text that starts with a point is a floating point number; digits may be grouped. -/
def isPointFloat (t : Text) : Bool := underscoresBetweenDigits t && isFloat (t.filter (· != 95))

end Number
end Yaml
end YamlOrder
