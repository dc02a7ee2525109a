import YamlOrder.Text.Utf8
import YamlOrder.Yaml.Cursor
import YamlOrder.Yaml.Token

/-!
This module contains the reading of names: anchors, aliases, tags and directives.
-/

namespace YamlOrder
namespace Yaml

/-- Read the name of an anchor or an alias after its indicator. -/
def scanAnchor (c : Cursor) : Except Fault (Text × Cursor) :=
  let name := c.skip.takeWhile isWordChar
  let after := c.skip.skipWhile isWordChar
  if name.isEmpty ||
      !(isBlankOrEnd after.peek || ['?', ':', ',', ']', '\x7d', '%', '@', '\x60'].contains
      after.peek) then
    .error (after.problem c.mark .noAlphanumeric)
  else
    .ok (Text.ofChars name, after)

/-- The characters of a tag, escapes apart. -/
def isUriChar (c : Char) : Bool :=
  isWordChar c ||
    [';', '/', '?', ':', '@', '&', '=', '+', '$', ',', '.', '!', '~', '*', '\'', '(', ')', '[', ']',
      '%'].contains c

/--
How many bytes the first byte of an escaped character announces; none for a byte that is no first
one.
-/
def uriWidth (n : Nat) : Option Nat :=
  if n < 0x80 then some 1
  else if n < 0xC0 then none
  else if n < 0xE0 then some 2
  else if n < 0xF0 then some 3
  else if n < 0xF8 then some 4
  else none

/-- An escaped byte, if one is next. -/
def uriOctet? (c : Cursor) : Option Nat :=
  if c.peek == '%' && isHexDigit (c.peek 1) && isHexDigit (c.peek 2) then
    some (hexValue (c.peek 1) * 16 + hexValue (c.peek 2))
  else
    none

/-- The bytes of one escaped character. -/
def scanUriEscapes (start : Mark) (c : Cursor) : Except Fault (Text × Cursor) :=
  let c := c.need 3
  match uriOctet? c with
  | none => .error (c.problem start .noUriOctet)
  | some n =>
    match uriWidth n with
    | none => .error (c.problem start .badUriLead)
    | some width => go (width - 1) [n.toUInt8] (c.skipN 3)
where
  go : Nat → Text → Cursor → Except Fault (Text × Cursor)
    | 0, acc, c => .ok (acc, c)
    | k + 1, acc, c =>
      let c := c.need 3
      match uriOctet? c with
      | none => .error (c.problem start .noUriOctet)
      | some n =>
        if 0x80 ≤ n && n < 0xC0 then go k (acc ++ [n.toUInt8]) (c.skipN 3)
        else .error (c.problem start .badUriTail)

/-- Read the characters of a tag after a part of it that is known; there must be any at all. -/
def scanUri (start : Mark) (known : Text) (c : Cursor) : Except Fault (Text × Cursor) :=
  go (c.rest.length + 1) [] c
where
  go : Nat → Text → Cursor → Except Fault (Text × Cursor)
    | 0, acc, c => .ok (known.drop 1 ++ acc, c)
    | fuel + 1, acc, now =>
      let now := now.need 1
      if isUriChar now.peek then
        if now.peek == '%' then do
          let (octets, now) ← scanUriEscapes start now
          go fuel (acc ++ octets) now
        else
          go fuel (acc ++ Text.ofChars [now.peek]) now.skip
      else if known.isEmpty && now.mark.index == c.mark.index then
        .error (now.problem start .noTagUri)
      else
        .ok (known.drop 1 ++ acc, now)

/-- Read the handle of a tag. In a directive it has to be complete. -/
def scanHandle (start : Mark) (directive : Bool) (c : Cursor) : Except Fault (Text × Cursor) :=
  if c.peek != '!' then
    .error (c.problem start .noTagBang)
  else
    let word := c.skip.takeWhile isWordChar
    let after := c.skip.skipWhile isWordChar
    if after.peek == '!' then
      .ok (Text.ofChars ('!' :: word ++ ['!']), after.skip)
    else if directive && !word.isEmpty then
      .error (after.problem start .noTagBang)
    else
      .ok (Text.ofChars ('!' :: word), after)

/-- Whether a handle has an exclamation mark at both ends. -/
def isFullHandle (handle : Text) : Bool := 1 < handle.length && handle.getLast? == some 33

/-- Read the handle and the suffix of a tag. -/
def scanTag (c : Cursor) : Except Fault (Text × Text × Cursor) := do
  let c := c.need 2
  let (handle, suffix, after) ←
    if c.peek 1 == '<' then do
      let (suffix, after) ← scanUri c.mark [] c.skip.skip
      if after.peek == '>' then
        pure (([] : Text), suffix, after.skip)
      else
        throw (after.problem c.mark .noVerbatimEnd)
    else do
      let (handle, after) ← scanHandle c.mark false c
      if isFullHandle handle then
        let (suffix, after) ← scanUri c.mark [] after
        pure (handle, suffix, after)
      else
        let (suffix, after) ← scanUri c.mark handle after
        if suffix.isEmpty then pure ([], handle, after) else pure (([33] : Text), suffix, after)
  let after := after.need 1
  if isBlankOrEnd after.peek then
    return (handle, suffix, after)
  else
    throw (after.problem c.mark .noBlankOrBreak)

/-- Read a number of a version, which has one or two digits. -/
def scanVersionNumber (start : Mark) (c : Cursor) : Except Fault (Nat × Cursor) :=
  let digits := c.takeWhile Char.isDigit
  if digits.isEmpty then
    .error (c.problem start .noVersion)
  else if 2 < digits.length then
    .error ((c.skipN 2).problem start .longVersion)
  else
    .ok (digits.foldl (fun n d => n * 10 + (d.toNat - 48)) 0, c.skipN digits.length)

/-- Read the value of a version directive. -/
def scanVersion (start : Mark) (c : Cursor) : Except Fault (TokenKind × Cursor) := do
  let (major, c) ← scanVersionNumber start c.skipBlanks
  if c.peek != '.' then
    throw (c.problem start .noVersionDot)
  let (minor, c) ← scanVersionNumber start c.skip
  return (.versionDirective major minor, c)

/-- Read the value of a tag directive. -/
def scanTagDirective (start : Mark) (c : Cursor) : Except Fault (TokenKind × Cursor) := do
  let (handle, c) ← scanHandle start true c.skipBlanks
  if !isBlank c.peek then
    throw (c.problem start .noBlank)
  let (uri, c) ← scanUri start [] c.skipBlanks
  if !isBlankOrEnd c.peek then
    throw (c.problem start .noBlankOrBreak)
  return (.tagDirective handle uri, c)

/-- Read a directive and step over the rest of its line. -/
def scanDirective (c : Cursor) : Except Fault (Token × Cursor) := do
  let start := c.mark
  let name := c.skip.takeWhile isWordChar
  let after := c.skip.skipWhile isWordChar
  if name.isEmpty then
    throw (after.problem start .noDirectiveName)
  if !isBlankOrEnd after.peek then
    throw (after.problem start .badDirectiveName)
  let (kind, after) ←
    if name == ['Y', 'A', 'M', 'L'] then scanVersion start after
    else if name == ['T', 'A', 'G'] then scanTagDirective start after
    else throw (after.problem start .unknownDirective)
  let token : Token := ⟨kind, start, after.mark⟩
  let after := after.skipBlanks
  let after := if after.peek == '#' then after.skipToBreak else after
  if isBreakOrEnd after.peek then
    return (token, after.skipLine)
  else
    throw (after.problem start .noCommentOrBreak)

end Yaml
end YamlOrder
