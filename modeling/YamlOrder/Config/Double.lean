import YamlOrder.Text.Basic
import YamlOrder.Text.Integer

/-!
This module contains decimal numbers, and floating point numbers of 64 bits. A decimal number is
read as the nearest of them, of two equally near ones as that with the even mantissa, and one is
written with the fewest digits that are read back as the same number.
-/

namespace YamlOrder
namespace Config

/-- The number `digits * 10 ^ exponent`, with a sign. -/
structure Decimal where
  negative : Bool := false
  digits : Nat
  exponent : Int
  deriving DecidableEq, Repr, Inhabited

namespace Decimal

def zero : Decimal := ⟨false, 0, 0⟩

/--
Take the zeros at the end of the digits into the exponent; the first argument bounds their number.
-/
def shorten : Nat → Nat → Int → Nat × Int
  | 0, digits, exponent => (digits, exponent)
  | n + 1, digits, exponent =>
    if digits % 10 == 0 then shorten n (digits / 10) (exponent + 1) else (digits, exponent)

/-- The same number without zeros at the end of its digits. -/
def normalize (d : Decimal) : Decimal :=
  if d.digits == 0 then { d with exponent := 0 }
  else
    let (digits, exponent) := shorten (toString d.digits).length d.digits d.exponent
    { d with digits, exponent }

/-- The whole part, without the sign. -/
def wholeNat (d : Decimal) : Nat :=
  if d.exponent < 0 then
    let places := (-d.exponent).toNat
    if (toString d.digits).length ≤ places then 0 else d.digits / Nat.pow 10 places
  else
    d.digits * Nat.pow 10 d.exponent.toNat

/-- The number without its fraction. -/
def truncate (d : Decimal) : Int := if d.negative then -d.wholeNat else d.wholeNat

def isZero (d : Decimal) : Bool := d.digits == 0

def sign (d : Decimal) : Text := if d.negative then [45] else []

/-- The digits with a point, if there is a fraction, and without an exponent. -/
def positional (d : Decimal) : Text :=
  let d := d.normalize
  let digits := Text.ofNat d.digits
  if 0 ≤ d.exponent then d.sign ++ digits ++ List.replicate d.exponent.toNat 48
  else
    let places := (-d.exponent).toNat
    let padded := List.replicate (places + 1 - digits.length) 48 ++ digits
    let whole := padded.length - places
    d.sign ++ padded.take whole ++ 46 :: padded.drop whole

/-- The exponent of the first digit. -/
def magnitude (d : Decimal) : Int := (Text.ofNat d.digits).length - 1 + d.exponent

/-- One digit, a point, the other digits, and an exponent of at least two digits. -/
def scientific (d : Decimal) : Text :=
  let d := d.normalize
  let digits := Text.ofNat d.digits
  let fraction := if digits.length > 1 then 46 :: digits.drop 1 else []
  let size := Text.ofNat d.magnitude.natAbs
  let size := if size.length < 2 then 48 :: size else size
  d.sign ++ digits.take 1 ++ fraction ++ [101, if d.magnitude < 0 then 45 else 43] ++ size

/-- Numbers from 0.0001 up to a million are positional, all others are scientific. -/
def toText (d : Decimal) : Text :=
  let m := d.normalize.magnitude
  if d.isZero || (-4 ≤ m && m < 6) then d.positional else d.scientific

end Decimal

/-- A floating point number. A finite one is `mantissa * 2 ^ exponent`, with a sign. -/
inductive Double where
  | nan
  | infinite (negative : Bool)
  | finite (negative : Bool) (mantissa : Nat) (exponent : Int)
  deriving DecidableEq, Repr, Inhabited

namespace Double

/-- The number of bits of a mantissa. -/
def precision : Nat := 53

/-- The exponent of the smallest numbers. -/
def minExponent : Int := -1074

/-- The exponent of the largest numbers. -/
def maxExponent : Int := 971

/-- A quotient rounded to the nearest integer, and to the even one of two. -/
def roundDiv (num den : Nat) : Nat :=
  let q := num / den
  let r := 2 * (num % den)
  if r < den then q else if den < r then q + 1 else q + q % 2

/-- `num / den` over a power of 2, as a quotient. -/
def scaled (num den : Nat) (exponent : Int) : Nat × Nat :=
  (num * Nat.pow 2 (-exponent).toNat, den * Nat.pow 2 exponent.toNat)

/-- The number that is nearest to a quotient greater than 0. -/
def ofQuotient (negative : Bool) (num den : Nat) : Double :=
  let guess : Int := (Nat.log2 num : Int) - Nat.log2 den - (precision - 1)
  let (n, d) := scaled num den guess
  -- The quotient may be just below a power of 2, and then has one bit less than guessed.
  let exponent := max minExponent (if n / d < Nat.pow 2 (precision - 1) then guess - 1 else guess)
  let (n, d) := scaled num den exponent
  let mantissa := roundDiv n d
  if mantissa == Nat.pow 2 precision then
    if exponent == maxExponent then .infinite negative
    else .finite negative (Nat.pow 2 (precision - 1)) (exponent + 1)
  else if maxExponent < exponent then .infinite negative
  else .finite negative mantissa exponent

/-- The number that is nearest to a decimal number. -/
def ofDecimal (d : Decimal) : Double :=
  let size : Int := (Text.ofNat d.digits).length + d.exponent
  if d.digits == 0 || size < -330 then .finite d.negative 0 minExponent
  else if 320 < size then .infinite d.negative
  else if d.exponent < 0 then ofQuotient d.negative d.digits (Nat.pow 10 (-d.exponent).toNat)
  else ofQuotient d.negative (d.digits * Nat.pow 10 d.exponent.toNat) 1

/-- The number that is nearest to an integer. -/
def ofInt (n : Int) : Double := ofDecimal { negative := n < 0, digits := n.natAbs, exponent := 0 }

/-- The exponent of the first digit of a quotient greater than 0. -/
def firstPlace (num den : Nat) : Int :=
  if den ≤ num then (Text.ofNat (num / den)).length - 1
  else
    let k := (Text.ofNat (den / num)).length
    if den ≤ num * Nat.pow 10 (k - 1) then -((k - 1 : Nat) : Int) else -(k : Int)

/-- An interval around a value, all in one unit. -/
structure Interval where
  low : Nat
  value : Nat
  high : Nat
  /-- Whether the ends belong to the interval. -/
  closed : Bool

def Interval.contains (i : Interval) (n : Nat) : Bool :=
  if i.closed then i.low ≤ n && n ≤ i.high else i.low < n && n < i.high

/--
The multiple of a place within the interval; the one nearest to the value, and the even one of two.
-/
def Interval.multiple? (i : Interval) (place : Nat) : Option Nat :=
  let below := i.value / place
  let above := below + 1
  match i.contains (below * place), i.contains (above * place) with
  | true, true => some (roundDiv i.value place)
  | true, false => some below
  | false, true => some above
  | false, false => none

/-- The reals that are read as a number, in the unit `2 ^ (exponent - 2) / factor`. -/
def interval (mantissa : Nat) (exponent : Int) (factor : Nat) : Interval where
  low :=
    if mantissa == Nat.pow 2 (precision - 1) && minExponent <
    exponent then (4 * mantissa - 1) * factor
    else (4 * mantissa - 2) * factor
  value := 4 * mantissa * factor
  high := (4 * mantissa + 2) * factor
  closed := mantissa % 2 == 0

/-- The digits that end at a place and are read back as `mantissa * 2 ^ exponent`. -/
def digitsAt? (mantissa : Nat) (exponent place : Int) : Option (Nat × Int) :=
  let two := exponent - 2
  let factor := Nat.pow 2 two.toNat * Nat.pow 10 (-place).toNat
  let unit := Nat.pow 2 (-two).toNat * Nat.pow 10 place.toNat
  ((interval mantissa exponent factor).multiple? unit).map fun n => (n, place)

/-- The first digits that are read back as `mantissa * 2 ^ exponent`, from a place on downwards. -/
def firstDigits (mantissa : Nat) (exponent : Int) : Nat → Int → Nat × Int
  | 0, place => ((digitsAt? mantissa exponent place).getD (0, 0))
  | fuel + 1, place =>
    match digitsAt? mantissa exponent place with
    | some r => r
    | none => firstDigits mantissa exponent fuel (place - 1)

/--
The fewest digits that are read back as `mantissa * 2 ^ exponent`. Seventeen are always enough.
-/
def shortest (negative : Bool) (mantissa : Nat) (exponent : Int) : Decimal :=
  if mantissa == 0 then { negative, digits := 0, exponent := 0 }
  else
    let first := firstPlace (mantissa * Nat.pow 2 exponent.toNat) (Nat.pow 2 (-exponent).toNat)
    let (digits, exponent) := firstDigits mantissa exponent 17 first
    { negative, digits, exponent }

/-- The text of a number: digits with a point, or with an exponent where that is usual. -/
def toText : Double → Text
  | .nan => "NaN"
  | .infinite negative => if negative then "-Inf" else "+Inf"
  | .finite negative mantissa exponent => (shortest negative mantissa exponent).toText

/-- The text of a number without an exponent. -/
def positional : Double → Text
  | .finite negative mantissa exponent => (shortest negative mantissa exponent).positional
  | d => d.toText

/-- The text of a number in a YAML document. -/
def toYaml : Double → Text
  | .nan => ".nan"
  | .infinite negative => if negative then "-.inf" else ".inf"
  | d => d.toText

def isZero : Double → Bool
  | .finite _ mantissa _ => mantissa == 0
  | _ => false

/-- The number without its fraction, as an integer of 64 bits; the least one if there is none. -/
def truncate : Double → Int
  | .finite negative mantissa exponent =>
    let size := mantissa * Nat.pow 2 exponent.toNat / Nat.pow 2 (-exponent).toNat
    let n : Int := if negative then -size else size
    if -Text.signedLimit ≤ n && n < Text.signedLimit then n else -Text.signedLimit
  | _ => -Text.signedLimit

end Double
end Config
end YamlOrder
