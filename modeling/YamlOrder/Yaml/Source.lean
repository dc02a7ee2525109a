import YamlOrder.Yaml.CharClass
import YamlOrder.Yaml.Fault

/-!
This module contains the characters of a stream. The bytes are decoded in blocks, and the characters
of a block with a fault are held back, so a fault in the first block is found before anything else.
-/

namespace YamlOrder
namespace Yaml

/-- The encodings that a stream can announce by a byte order mark. -/
inductive Encoding where
  | utf8
  | utf16 (bigEndian : Bool)
  deriving DecidableEq, Repr

/--
The readable characters of a stream, and the fault that ends them early. Those that share a block
with the fault are held back; `front` is the number of characters in the first block.
-/
structure Source where
  chars : List Char
  fault : Option Problem
  held : List Char := []
  front : Nat := 0
  deriving Repr

namespace Source

/-- The result of looking at the next character of a block. -/
inductive Step where
  | char (c : Char) (width : Nat)
  | incomplete (p : Problem)
  | fault (p : Problem)

/-- A decoded number as a character, if it may stand in a stream. -/
def checked (n width : Nat) : Step :=
  if isAllowed n then .char (Char.ofNat n) width else .fault .controlCharacter

/-- How many bytes a first byte announces. -/
def octetCount (b : UInt8) : Option Nat :=
  if b < 0x80 then some 1
  else if b < 0xC0 then none
  else if b < 0xE0 then some 2
  else if b < 0xF0 then some 3
  else if b < 0xF8 then some 4
  else none

/-- The bits that a first byte gives to its character. -/
def leadBits (b : UInt8) (width : Nat) : Nat :=
  match width with
  | 1 => b.toNat
  | 2 => b.toNat % 32
  | 3 => b.toNat % 16
  | _ => b.toNat % 8

/-- The smallest number that needs a width. -/
def leastOf (width : Nat) : Nat :=
  match width with
  | 1 => 0
  | 2 => 0x80
  | 3 => 0x800
  | _ => 0x10000

/-- The next character in UTF-8. -/
def utf8Step (b : UInt8) (rest : Text) : Step :=
  match octetCount b with
  | none => .fault .invalidLeadingOctet
  | some width =>
    let tail := rest.take (width - 1)
    if tail.length < width - 1 then .incomplete .incompleteOctets
    else if tail.any fun t => t < 0x80 || 0xC0 ≤ t then .fault .invalidTrailingOctet
    else
      let n := tail.foldl (fun n t => n * 64 + t.toNat % 64) (leadBits b width)
      if n < leastOf width then .fault .invalidLength
      else if (0xD800 ≤ n && n ≤ 0xDFFF) || 0x10FFFF < n then .fault .invalidCharacter
      else checked n width

/-- A unit of UTF-16. -/
def unit16 (bigEndian : Bool) (a b : UInt8) : Nat :=
  if bigEndian then a.toNat * 256 + b.toNat else b.toNat * 256 + a.toNat

/-- The next character in UTF-16. -/
def utf16Step (bigEndian : Bool) : Text → Step
  | a :: b :: rest =>
    let n := unit16 bigEndian a b
    if 0xDC00 ≤ n && n ≤ 0xDFFF then .fault .unexpectedLowSurrogate
    else if 0xD800 ≤ n && n ≤ 0xDBFF then
      match rest with
      | c :: d :: _ =>
        let low := unit16 bigEndian c d
        if 0xDC00 ≤ low && low ≤ 0xDFFF then
          checked (0x10000 + (n % 0x400) * 0x400 + low % 0x400) 4
        else .fault .expectedLowSurrogate
      | _ => .incomplete .incompletePair
    else checked n 2
  | _ => .incomplete .incompleteUnit

def step (e : Encoding) (b : UInt8) (rest : Text) : Step :=
  match e with
  | .utf8 => utf8Step b rest
  | .utf16 bigEndian => utf16Step bigEndian (b :: rest)

/-- The characters of a block, the number of its bytes that they take, and what comes after them. -/
def decodeBlock (e : Encoding) (block : Text) : List Char × Nat × Option Step :=
  go block 0
where
  go : Text → Nat → List Char × Nat × Option Step
    | [], _ => ([], 0, none)
    | _ :: t, k + 1 =>
      let (cs, n, stop) := go t k
      (cs, n + 1, stop)
    | b :: t, 0 =>
      match step e b t with
      | .char c width =>
        let (cs, n, stop) := go t (width - 1)
        (c :: cs, n + 1, stop)
      | stop => ([], 0, some stop)

/-- The size of a block. -/
def blockSize : Nat := 512

/--
The characters of the bytes from a block of `size` bytes on. An incomplete character moves to the
next block, and is a fault once there are no more bytes.
-/
def decodeBlocks (e : Encoding) : Nat → Nat → Text → Source
  | 0, _, _ => { chars := [], fault := none }
  | fuel + 1, size, bytes =>
    if bytes.isEmpty then { chars := [], fault := none }
    else
      let block := bytes.take size
      match decodeBlock e block with
      | (cs, _, some (.fault p)) => { chars := [], fault := some p, held := cs }
      | (cs, n, some (.incomplete p)) =>
        if bytes.length ≤ size then { chars := cs, fault := some p, front := cs.length }
        else
          let rest := decodeBlocks e fuel blockSize (bytes.drop n)
          { rest with chars := cs ++ rest.chars, front := cs.length }
      | (cs, n, _) =>
        let rest := decodeBlocks e fuel blockSize (bytes.drop n)
        { rest with chars := cs ++ rest.chars, front := cs.length }

/-- The encoding of a stream and the length of its byte order mark. -/
def detect : Text → Encoding × Nat
  | 0xFF :: 0xFE :: _ => (.utf16 false, 2)
  | 0xFE :: 0xFF :: _ => (.utf16 true, 2)
  | 0xEF :: 0xBB :: 0xBF :: _ => (.utf8, 3)
  | _ => (.utf8, 0)

/-- The characters of a stream. An empty stream is read as an empty line. -/
def ofText (t : Text) : Source :=
  let t := if t.isEmpty then [Text.newline] else t
  let (e, width) := detect t
  decodeBlocks e (t.length + 1) (blockSize - width) (t.drop width)

end Source
end Yaml
end YamlOrder
