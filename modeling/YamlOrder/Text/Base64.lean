import YamlOrder.Text.Basic

/-!
This module contains the text form of bytes in base 64: four characters stand for three bytes, and
the last four are filled up with equals signs.
-/

namespace YamlOrder
namespace Text
namespace Base64

/-- The value of a digit. -/
def digit? (b : UInt8) : Option Nat :=
  if 65 ≤ b && b ≤ 90 then some (b.toNat - 65)
  else if 97 ≤ b && b ≤ 122 then some (b.toNat - 71)
  else if 48 ≤ b && b ≤ 57 then some (b.toNat + 4)
  else if b == 43 then some 62
  else if b == 47 then some 63
  else none

/-- The digit of a value. -/
def ofDigit (n : Nat) : UInt8 :=
  if n < 26 then (n + 65).toUInt8
  else if n < 52 then (n + 71).toUInt8
  else if n < 62 then (n - 4).toUInt8
  else if n == 62 then 43
  else 47

/-- The bytes of four characters at a time. Equals signs stand at the very end only. -/
def decodeGroups : Text → Option Text
  | [] => some []
  | [a, b, 61, 61] => do
    let n := (← digit? a) * 64 + (← digit? b)
    return [(n / 16).toUInt8]
  | [a, b, c, 61] => do
    let n := ((← digit? a) * 64 + (← digit? b)) * 64 + (← digit? c)
    return [(n / 1024).toUInt8, (n / 4 % 256).toUInt8]
  | a :: b :: c :: d :: rest => do
    let n := (((← digit? a) * 64 + (← digit? b)) * 64 + (← digit? c)) * 64 + (← digit? d)
    return (n / 65536).toUInt8 :: (n / 256 % 256).toUInt8 :: (n % 256).toUInt8 ::
      (← decodeGroups rest)
  | _ => none

/-- The bytes that a text stands for. Line breaks do not count. -/
def decode? (t : Text) : Option Text :=
  decodeGroups (t.filter fun b => b != 10 && b != 13)

/-- The text that stands for bytes. -/
def encode : Text → Text
  | [] => []
  | [a] =>
    let n := a.toNat * 16
    [ofDigit (n / 64), ofDigit (n % 64), 61, 61]
  | [a, b] =>
    let n := (a.toNat * 256 + b.toNat) * 4
    [ofDigit (n / 4096), ofDigit (n / 64 % 64), ofDigit (n % 64), 61]
  | a :: b :: c :: rest =>
    let n := (a.toNat * 256 + b.toNat) * 256 + c.toNat
    ofDigit (n / 262144) :: ofDigit (n / 4096 % 64) :: ofDigit (n / 64 % 64) :: ofDigit
      (n % 64) :: encode rest

/--
A text in lines of a length, each with a line feed at its end; a text that fits one line has none.
-/
def wrap (width : Nat) (t : Text) : Text :=
  if t.length < width then t else go (t.length + 1) t
where
  go : Nat → Text → Text
    | 0, _ => []
    | fuel + 1, t => if t.isEmpty then [] else t.take width ++ 10 :: go fuel (t.drop width)

end Base64
end Text
end YamlOrder
