import YamlOrder.Proofs.Folding.Place

/-!
This module contains a stream some of whose spaces are replaced by line breaks with spaces behind
them, and two readers at the same place, one without and one with the added breaks.
-/

namespace YamlOrder
namespace Yaml

/--
The characters of a stream from an index on, with a line break and some spaces for each space that
is cut.
-/
def broken (cut : Nat → Option Nat) : Nat → List Char → List Char
  | _, [] => []
  | i, c :: cs =>
    match cut i with
    | none => c :: broken cut (i + 1) cs
    | some n => '\n' :: (List.replicate n ' ' ++ broken cut (i + 1) cs)

theorem broken_append (cut : Nat → Option Nat) (i : Nat) (cs ds : List Char)
    : broken cut i (cs ++ ds) = broken cut i cs ++ broken cut (i + cs.length) ds := by
  induction cs generalizing i with
  | nil => rfl
  | cons c cs ih =>
    rw [List.cons_append, broken, broken, ih, List.length_cons, Nat.add_assoc, Nat.add_comm 1]
    split
    . rw [List.cons_append]
    . rw [List.cons_append, List.append_assoc]

theorem broken_congr {cut cut' : Nat → Option Nat} {i : Nat} {cs : List Char}
    (h : ∀ k, i ≤ k → k < i + cs.length → cut k = cut' k) : broken cut i cs = broken cut' i cs := by
  induction cs generalizing i with
  | nil => rfl
  | cons c cs ih =>
    rw [List.length_cons] at h
    rw [broken, broken, h i (Nat.le_refl i) (by omega),
      ih fun k hle hlt => h k (by omega) (by omega)]

theorem broken_of_none {cut : Nat → Option Nat} {i : Nat} {cs : List Char}
    (h : ∀ k, i ≤ k → k < i + cs.length → cut k = none) : broken cut i cs = cs := by
  induction cs generalizing i with
  | nil => rfl
  | cons c cs ih =>
    rw [List.length_cons] at h
    rw [broken, h i (Nat.le_refl i) (by omega), ih fun k hle hlt => h k (by omega) (by omega)]

/-- A stream and its spaces that are cut, each of them within a line. -/
structure Wrap where
  chars : List Char
  cut : Nat → Option Nat
  space : ∀ k n, cut k = some n → chars.getD k endChar = ' '
  inside : ∀ k n, cut k = some n → ∃ j < k, isBlank (chars.getD j endChar) = false ∧
    ∀ m, j ≤ m → m ≤ k → isBreak (chars.getD m endChar) = false

/-- The breaks that take the place of spaces in folded lines. -/
def Wrap.ofLines (cs : List Char) (cut : Nat → Option Nat) (lines : List FoldedLine)
    (hlines : ∀ l ∈ lines, ∃ i, l.In cs i)
    (hcuts : ∀ k n, cut k = some n → ∃ l ∈ lines, l.takes k n = true) : Wrap where
  chars := cs
  cut := cut
  space k n hcut := by
    obtain ⟨l, hl, ht⟩ := hcuts k n hcut
    obtain ⟨i, hline⟩ := hlines l hl
    exact (hline.space_of_takes ht).1
  inside k n hcut := by
    obtain ⟨l, hl, ht⟩ := hcuts k n hcut
    obtain ⟨i, hline⟩ := hlines l hl
    exact (hline.space_of_takes ht).2

namespace Wrap

/-- The stream with the added breaks, from an index on. -/
def after (w : Wrap) (i : Nat) : List Char := broken w.cut i (w.chars.drop i)

/-- Whether no space is cut from an index up to another one. -/
def Clear (w : Wrap) (i j : Nat) : Prop := ∀ k, i ≤ k → k < j → w.cut k = none

variable {w : Wrap} {i j k n : Nat} {ch : Char} {cs u r : List Char}

theorem Clear.mono {i' j' : Nat} (h : w.Clear i j) (hi : i ≤ i') (hj : j' ≤ j) : w.Clear i' j' :=
  fun k hle hlt => h k (hi.trans hle) (hlt.trans_le hj)

theorem after_of_none (h : w.chars.drop i = ch :: cs) (hcut : w.cut i = none)
    : w.after i = ch :: w.after (i + 1) := by
  rw [after, h, broken, hcut, after, drop_succ h]

theorem after_of_some (h : w.chars.drop i = ch :: cs) (hcut : w.cut i = some n)
    : w.after i = '\n' :: (List.replicate n ' ' ++ w.after (i + 1)) := by
  rw [after, h, broken, hcut, after, drop_succ h]

theorem after_of_clear (h : w.chars.drop i = u ++ r) (hclear : w.Clear i (i + u.length))
    : w.after i = u ++ w.after (i + u.length) ∧ w.chars.drop (i + u.length) = r := by
  have hdrop : w.chars.drop (i + u.length) = r := by rw [← List.drop_drop, h, List.drop_left]
  refine ⟨?_, hdrop⟩
  rw [after, h, broken_append, broken_of_none hclear, after, hdrop]

theorem length_after (w : Wrap) (i : Nat) : (w.chars.drop i).length ≤ (w.after i).length := by
  induction hn : w.chars.length - i generalizing i with
  | zero =>
    rw [List.drop_eq_nil_of_le (by omega)]
    exact Nat.zero_le _
  | succ n ih =>
    cases hdrop : w.chars.drop i with
    | nil =>
      rw [List.drop_eq_nil_iff] at hdrop
      omega
    | cons ch cs =>
      have := ih (i + 1) (by omega)
      rw [drop_succ hdrop] at this
      cases hcut : w.cut i with
      | none =>
        rw [after_of_none hdrop hcut, List.length_cons, List.length_cons]
        omega
      | some n =>
        simp only [after_of_some hdrop hcut, List.length_cons, List.length_append]
        omega

theorem none_of_break (h : isBreak (w.chars.getD i endChar) = true)
    : w.cut i = none ∧ w.cut (i + 1) = none := by
  constructor
  . by_contra hcut
    obtain ⟨n, hcut⟩ := Option.ne_none_iff_exists'.mp hcut
    rw [w.space i n hcut] at h
    cases h
  . by_contra hcut
    obtain ⟨n, hcut⟩ := Option.ne_none_iff_exists'.mp hcut
    obtain ⟨j, hlt, -, hline⟩ := w.inside (i + 1) n hcut
    rw [hline i (by omega) (Nat.le_succ i)] at h
    cases h

/--
Whether an index is at the end of a run of spaces that starts a line, or the stream, only if it is
not cut.
-/
def Flush (w : Wrap) (i : Nat) : Prop := ∀ n, (∀ m < n, w.chars.getD (i + m) endChar = ' ') →
    w.cut (i + n) = none

theorem flush_of_break (h : isBreak (w.chars.getD (i - 1) endChar) = true) (hpos : 0 < i)
    : w.Flush i := by
  intro n hspaces
  by_contra hcut
  obtain ⟨m, hcut⟩ := Option.ne_none_iff_exists'.mp hcut
  obtain ⟨j, hlt, hblank, hline⟩ := w.inside _ m hcut
  by_cases hj : i ≤ j
  . have := hspaces (j - i) (by omega)
    rw [Nat.add_sub_cancel' hj] at this
    rw [this] at hblank
    cases hblank
  . rw [hline (i - 1) (by omega) (by omega)] at h
    cases h

end Wrap

/-- Two readers at the same place in a stream without and with the added breaks. -/
structure Wrap.Here (w : Wrap) (c c' : Cursor) : Prop where
  place : c.At w.chars
  rest' : c'.rest = w.after c.mark.index
  whole' : c'.Whole
  index_le : c.mark.index ≤ c'.mark.index
  line_le : c.mark.line ≤ c'.mark.line
  newlines : (c.peek == '#' || isBlank c.peek) = true → (c'.newlines = 0 ↔ c.newlines = 0)

namespace Wrap.Here

variable {w : Wrap} {c c' : Cursor} {n : Nat}

theorem peek (h : w.Here c c') (hcut : w.cut c.mark.index = none) : c'.peek = c.peek := by
  rw [Cursor.peek_eq, Cursor.peek_eq, h.rest', h.place.rest]
  cases hdrop : w.chars.drop c.mark.index with
  | nil => rw [after, hdrop, broken]
  | cons ch cs =>
    rw [after_of_none hdrop hcut]
    rfl

theorem skip (h : w.Here c c') (hcut : w.cut c.mark.index = none) : w.Here c.skip c'.skip := by
  refine ⟨h.place.skipN 1, ?_, h.whole'.skip, Nat.succ_le_succ h.index_le, h.line_le, ?_⟩
  . rw [Cursor.rest_skip, h.rest', Cursor.index_skip]
    cases hdrop : w.chars.drop c.mark.index with
    | nil =>
      have hnil : w.chars.drop (c.mark.index + 1) = [] := by
        rw [← List.drop_drop, hdrop, List.drop_nil]
      rw [after, hdrop, after, hnil]
      rfl
    | cons ch cs => rw [after_of_none hdrop hcut, List.tail_cons]
  . exact fun _ => newlines_skip (h.peek hcut) h.newlines

theorem skipN (h : w.Here c c') (hclear : w.Clear c.mark.index (c.mark.index + n))
    : w.Here (c.skipN n) (c'.skipN n) := by
  induction n generalizing c c' with
  | zero => exact h
  | succ n ih =>
    refine ih (h.skip (hclear _ (Nat.le_refl _) (by omega))) ?_
    exact hclear.mono (Nat.le_succ _) (by rw [Cursor.index_skip]; omega)

theorem skipLine (h : w.Here c c') (hbreak : isBreak c.peek = true)
    : w.Here c.skipLine c'.skipLine ∧ c.skipLine.mark.column = 0 ∧ c'.skipLine.mark.column = 0 := by
  have hchar := h.place.peek 0
  rw [Nat.add_zero] at hchar
  obtain ⟨hcut, hnext⟩ := w.none_of_break (hchar ▸ hbreak)
  have hbreak' : isBreak c'.peek = true := by rwa [h.peek hcut]
  have hone : c'.peek 1 = c.peek 1 := by
    rw [Cursor.peek_succ, Cursor.peek_succ]
    exact (h.skip hcut).peek hnext
  have hpair : c'.atPair = c.atPair := by
    unfold Cursor.atPair
    rw [h.peek hcut, hone]
  have hclear : w.Clear c.mark.index (c.mark.index + if c.atPair then 2 else 1) := by
    intro k hle hlt
    obtain rfl | rfl : k = c.mark.index ∨ k = c.mark.index + 1 := by
      split at hlt
      all_goals omega
    . exact hcut
    . exact hnext
  have hskip := h.skipN hclear
  have hplace := h.place.skipLine
  have hwhole := h.whole'.skipLine
  have hindex := h.index_le
  have hline := h.line_le
  rw [h.place.toWhole.skipLine_eq hbreak] at hplace ⊢
  rw [h.whole'.skipLine_eq hbreak', hpair] at hwhole ⊢
  refine ⟨⟨hplace, ?_, hwhole, ?_, ?_, ?_⟩, rfl, rfl⟩
  . have hrest := hskip.rest'
    rwa [Cursor.rest_skipN, Cursor.index_skipN] at hrest
  . exact Nat.add_le_add_right hindex _
  . exact Nat.succ_le_succ hline
  . exact fun _ => iff_of_false (Nat.succ_ne_zero _) (Nat.succ_ne_zero _)

end Wrap.Here

end Yaml
end YamlOrder
