import YamlOrder.Text.Utf8

/-!
This module contains text with control sequences: text that is dimmed on a terminal, the removal of
the control sequences for a reader that is none, and the width of a text on a terminal.
-/

namespace YamlOrder
namespace Log

/-- Where a reader of control sequences is. -/
inductive ControlStage where
  | ground
  | escape
  | escapeIntermediate
  | entry
  | parameter
  | intermediate
  | deviceEntry
  | deviceParameter
  | deviceIntermediate
  | deviceString
  /-- A string for an application, a private message or a plain string. -/
  | string
  /-- A command for the operating system. -/
  | command
  deriving DecidableEq, Repr, Inhabited

namespace ControlStage

/-- The control characters that no stage gives a meaning of its own. -/
def isControl (b : UInt8) : Bool := b < 0x18 || b == 0x19 || (0x1C ≤ b && b < 0x20)

def isBetween (lo hi b : UInt8) : Bool := lo ≤ b && b ≤ hi

/-- How many bytes follow the first byte of a character of several bytes. -/
def tailLength (b : UInt8) : Nat :=
  if isBetween 0xC2 0xDF b then 1
  else if isBetween 0xE0 0xEF b then 2
  else if isBetween 0xF0 0xF4 b then 3
  else 0

/-- What a byte means in every stage that says nothing else, and whether it is kept. -/
def anywhere (b : UInt8) : ControlStage × Bool :=
  if b == 0x18 || b == 0x1A then (.ground, true)
  else if b == 0x1B then (.escape, false)
  else if b == 0x90 then (.deviceEntry, false)
  else if b == 0x98 || b == 0x9E || b == 0x9F then (.string, false)
  else if b == 0x9B then (.entry, false)
  else if b == 0x9D then (.command, false)
  else if isBetween 0x80 0x9C b then (.ground, true)
  else (.ground, tailLength b != 0)

/-- The end of the strings: an escape, a string terminator, a cancellation or a substitution. -/
def inString (stay : ControlStage) (b : UInt8) : ControlStage × Bool :=
  if b == 0x1B then (.escape, false)
  else if b == 0x9C || b == 0x18 || b == 0x1A then (.ground, false)
  else (stay, false)

def afterEscape (b : UInt8) : ControlStage × Bool :=
  if isControl b then (.escape, true)
  else if b == 0x7F then (.escape, false)
  else if isBetween 0x20 0x2F b then (.escapeIntermediate, false)
  else if b == 0x50 then (.deviceEntry, false)
  else if b == 0x58 || b == 0x5E || b == 0x5F then (.string, false)
  else if b == 0x5B then (.entry, false)
  else if b == 0x5D then (.command, false)
  else if isBetween 0x30 0x7E b then (.ground, false)
  else anywhere b

/--
The stages of a sequence that ends with a letter; `parameters` come before its intermediate bytes.
-/
def inSequence (stage parameters intermediates : ControlStage) (b : UInt8) : ControlStage × Bool :=
  if isControl b then (stage, true)
  else if b == 0x7F then (stage, false)
  else if isBetween 0x20 0x2F b then (intermediates, false)
  else if isBetween 0x30 0x3F b then (parameters, false)
  else if isBetween 0x40 0x7E b then (.ground, false)
  else anywhere b

/-- The stages before the string of a device. -/
def inDevice (stage parameters : ControlStage) (b : UInt8) : ControlStage × Bool :=
  if stage == .deviceEntry && (isBetween 0x08 0x0D b || b == 0x1B) then (.deviceString, false)
  else if isControl b || b == 0x7F then (stage, false)
  else if isBetween 0x20 0x2F b then (.deviceIntermediate, false)
  else if isBetween 0x30 0x3F b then (parameters, false)
  else if isBetween 0x40 0x7E b then (.deviceString, false)
  else anywhere b

/-- The stage after a byte, and whether the byte is kept. -/
def step (s : ControlStage) (b : UInt8) : ControlStage × Bool :=
  match s with
  | .ground => if isControl b || isBetween 0x20 0x7F b then (.ground, true) else anywhere b
  | .escape => afterEscape b
  | .escapeIntermediate => inSequence .escapeIntermediate .ground .escapeIntermediate b
  | .entry => inSequence .entry .parameter .intermediate b
  | .parameter => inSequence .parameter .parameter .intermediate b
  | .intermediate => inSequence .intermediate .ground .intermediate b
  | .deviceEntry => inDevice .deviceEntry .deviceParameter b
  | .deviceParameter => inDevice .deviceParameter .deviceParameter b
  | .deviceIntermediate => inDevice .deviceIntermediate .deviceString b
  | .deviceString => inString .deviceString b
  | .string =>
    if 0x80 ≤ b && b != 0x9C then anywhere b else inString .string b
  | .command => if b == 0x07 then (.ground, false) else inString .command b

end ControlStage

/-- A text without its control sequences. -/
def dropControls (t : Text) : Text := go .ground 0 t
where
  go (s : ControlStage) : Nat → Text → Text
    | _, [] => []
    | k + 1, b :: rest => b :: go .ground k rest
    | 0, b :: rest =>
      match s.step b with
      | (s, true) => b :: go s (ControlStage.tailLength b) rest
      | (s, false) => go s 0 rest

/-- A text between the sequences that dim it on a terminal; an empty one stays as it is. -/
def dim (t : Text) : Text :=
  if t.isEmpty then [] else Text.ofString "\x1b[2m" ++ t ++ "\x1b[m"

/-- The ranges of the characters that take two places on a terminal. -/
def wideRanges : List (Nat × Nat) :=
  [(0x1100, 0x115F), (0x2E80, 0x303E), (0x3041, 0xA4CF), (0xA960, 0xA97C), (0xAC00, 0xD7A3),
    (0xF900, 0xFAFF), (0xFE30, 0xFE6F), (0xFF01, 0xFF60), (0xFFE0, 0xFFE6), (0x1F300, 0x1F64F),
    (0x1F680, 0x1F6FF), (0x1F900, 0x1F9FF), (0x20000, 0x3FFFD)]

/-- The ranges of the characters that take no place of their own. -/
def zeroRanges : List (Nat × Nat) :=
  [(0, 0x1F), (0x7F, 0x9F), (0xAD, 0xAD), (0x300, 0x36F), (0x200B, 0x200F), (0x2028, 0x202E),
    (0x2060, 0x2064), (0x20D0, 0x20FF), (0xFE00, 0xFE0F), (0xFEFF, 0xFEFF)]

def charWidth (c : Char) : Nat :=
  let within := fun (r : Nat × Nat) => decide (r.1 ≤ c.toNat ∧ c.toNat ≤ r.2)
  if zeroRanges.any within then 0 else if wideRanges.any within then 2 else 1

/-- How many places a text takes on a terminal. -/
def displayWidth (t : Text) : Nat :=
  (Text.toChars (dropControls t)).foldl (fun n c => n + charWidth c) 0

/-- Lines with spaces after them, so that all are as wide as the widest. -/
def padLines (lines : List Text) : List Text :=
  let width := lines.foldl (fun w l => max w (displayWidth l)) 0
  lines.map fun l => l ++ Text.spaces (width - displayWidth l)

end Log
end YamlOrder
