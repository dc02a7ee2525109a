/-!
This module contains the byte strings the whole library works on: how they are cut into lines,
searched, replaced and trimmed.
-/

namespace YamlOrder

/--
A text is a sequence of bytes. Input does not have to be valid UTF-8, and every offset counts bytes.
-/
abbrev Text := List UInt8

namespace Text

/-- The UTF-8 bytes of a string. -/
def ofString (s : String) : Text := s.toByteArray.data.toList

instance : Coe String Text := ⟨ofString⟩

def newline : UInt8 := 10
def carriageReturn : UInt8 := 13
def tab : UInt8 := 9
def space : UInt8 := 32

/-- `n` spaces. -/
def spaces (n : Nat) : Text := List.replicate n space

/-- The pieces of a text between the occurrences of a byte; there is always at least one piece. -/
def splitOn (sep : UInt8) : Text → List Text
  | [] => [[]]
  | b :: t =>
    if b == sep then
      [] :: splitOn sep t
    else
      match splitOn sep t with
      | [] => [[b]]
      | piece :: pieces => (b :: piece) :: pieces

/-- The lines of a text. A newline at the end makes a last empty line. -/
def lines (t : Text) : List Text := splitOn newline t

/-- Lines put together again, with one newline between two neighbours. -/
def unlines (ls : List Text) : Text := List.intercalate [newline] ls

theorem splitOn_ne_nil (sep : UInt8) (t : Text) : splitOn sep t ≠ [] := by
  cases t with
  | nil => simp [splitOn]
  | cons b t =>
    simp only [splitOn]
    split
    . simp
    . split
      all_goals simp

@[simp]
theorem unlines_nil : unlines [] = [] := rfl

@[simp]
theorem unlines_singleton (l : Text) : unlines [l] = l := by
  simp [unlines, List.intercalate]

@[simp]
theorem unlines_cons_cons (l m : Text) (ls : List Text)
    : unlines (l :: m :: ls) = l ++ newline :: unlines (m :: ls) := by
  simp [unlines, List.intercalate]

theorem unlines_cons {l : Text} {ls : List Text} (h : ls ≠ [])
    : unlines (l :: ls) = l ++ newline :: unlines ls := by
  cases ls with
  | nil => exact absurd rfl h
  | cons m ls => simp

/-- Cutting a text into lines loses nothing. -/
@[simp]
theorem unlines_lines (t : Text) : unlines (lines t) = t := by
  unfold lines
  induction t with
  | nil => rfl
  | cons b t ih =>
    simp only [splitOn]
    split
    . rename_i h
      rw [unlines_cons (splitOn_ne_nil _ _), ih]
      simp_all
    . cases hs : splitOn newline t with
      | nil => exact absurd hs (splitOn_ne_nil _ _)
      | cons p ps =>
        rw [hs] at ih
        cases ps with
        | nil => simp_all
        | cons q qs =>
          simp only [unlines_cons_cons] at ih ⊢
          simp [← ih]

/-- The offset of the first occurrence of a piece. -/
def find? (piece : Text) : Text → Option Nat
  | [] => if piece.isEmpty then some 0 else none
  | b :: t => if piece.isPrefixOf (b :: t) then some 0 else (find? piece t).map (· + 1)

/-- The offset of the last occurrence of a piece. -/
def findLast? (piece : Text) : Text → Option Nat
  | [] => if piece.isEmpty then some 0 else none
  | b :: t =>
    match findLast? piece t with
    | some i => some (i + 1)
    | none => if piece.isPrefixOf (b :: t) then some 0 else none

/-- Whether a piece occurs anywhere in a text. -/
def occursIn (piece text : Text) : Bool := (find? piece text).isSome

/-- The text with the first occurrence of a piece replaced; unchanged when there is none. -/
def replaceFirst (piece value : Text) (text : Text) : Text :=
  match find? piece text with
  | some i => text.take i ++ value ++ text.drop (i + piece.length)
  | none => text

/-- The part before the first occurrence of a byte and the part after it. -/
def cut? (sep : UInt8) : Text → Option (Text × Text)
  | [] => none
  | b :: t =>
    if b == sep then some ([], t) else (cut? sep t).map fun (before, after) => (b :: before, after)

/-- Windows line ends become plain newlines. -/
def normalizeNewlines : Text → Text
  | [] => []
  | b :: t =>
    if b == carriageReturn && t.head? == some newline then normalizeNewlines t
      else b :: normalizeNewlines t

/-- The text without a leading piece, if it starts with it. -/
def dropLeading (piece text : Text) : Text :=
  if piece.isPrefixOf text then text.drop piece.length else text

/-- The text without a trailing piece, if it ends with it. -/
def dropTrailing (piece text : Text) : Text :=
  if piece.isSuffixOf text then text.take (text.length - piece.length) else text

/-- The text without the bytes at its end that satisfy a predicate. -/
def dropEndWhile (p : UInt8 → Bool) (t : Text) : Text := (t.reverse.dropWhile p).reverse

/-- The text without the newlines at its end. -/
def dropNewlines (t : Text) : Text := dropEndWhile (· == newline) t

/-- How many spaces a line starts with. -/
def indent (line : Text) : Nat := (line.takeWhile (· == space)).length

/--
The byte width of the white space character that a text starts with, 0 if it starts with none.
-/
def spaceWidth : Text → Nat
  | b :: t =>
    if b == space || (tab ≤ b && b ≤ carriageReturn) then 1
    else
      match b, t with
      | 0xC2, c :: _ => if c == 0x85 || c == 0xA0 then 2 else 0
      | 0xE1, 0x9A :: 0x80 :: _ => 3
      | 0xE2, 0x80 :: d :: _ =>
        if (0x80 ≤ d && d ≤ 0x8A) || d == 0xA8 || d == 0xA9 || d == 0xAF then 3 else 0
      | 0xE2, 0x81 :: 0x9F :: _ => 3
      | 0xE3, 0x80 :: 0x80 :: _ => 3
      | _, _ => 0
  | [] => 0

/-- `spaceWidth` of a text that is read from its end. -/
def spaceWidthRev : Text → Nat
  | b :: t =>
    if b == space || (tab ≤ b && b ≤ carriageReturn) then 1
    else
      match b, t with
      | 0x85, 0xC2 :: _ => 2
      | 0xA0, 0xC2 :: _ => 2
      | 0x80, 0x9A :: 0xE1 :: _ => 3
      | 0x9F, 0x81 :: 0xE2 :: _ => 3
      | 0x80, 0x80 :: 0xE3 :: _ => 3
      | d, 0x80 :: 0xE2 :: _ =>
        if (0x80 ≤ d && d ≤ 0x8A) || d == 0xA8 || d == 0xA9 || d == 0xAF then 3 else 0
      | _, _ => 0
  | [] => 0

/--
Drop whole characters of the given width from the front for as long as the width is not 0. The
second argument counts the bytes of the current character that are still to be dropped.
-/
def dropChars (width : Text → Nat) : Text → Nat → Text
  | [], _ => []
  | _ :: t, k + 1 => dropChars width t k
  | b :: t, 0 =>
    match width (b :: t) with
    | 0 => b :: t
    | k + 1 => dropChars width t k

/-- The text without the white space (of all of Unicode) at its start. -/
def trimLeft (t : Text) : Text := dropChars spaceWidth t 0

/-- The text without the white space (of all of Unicode) at its end. -/
def trimRight (t : Text) : Text := (dropChars spaceWidthRev t.reverse 0).reverse

/-- The text without surrounding white space. -/
def trim (t : Text) : Text := trimRight (trimLeft t)

/-- Whether a text holds nothing but white space. -/
def isBlank (t : Text) : Bool := (trim t).isEmpty

/-- The decimal digits of a natural number. -/
def ofNat (n : Nat) : Text := ofString (toString n)

/-- The decimal digits of an integer, with a minus sign in front of a negative one. -/
def ofInt : Int → Text
  | .ofNat n => ofNat n
  | .negSucc n => 45 :: ofNat (n + 1)

end Text

end YamlOrder
