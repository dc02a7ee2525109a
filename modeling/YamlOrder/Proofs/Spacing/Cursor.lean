import YamlOrder.Proofs.Scalar.Reading
import YamlOrder.Proofs.Spacing.Basic

/-!
This module contains two readers that go through a stream in step, one without and one with the
added lines. They are at the same place, but for a moment after each line break that is doubled,
when the second reader has the added line still before it.
-/

namespace YamlOrder
namespace Yaml

theorem ne_endChar_of_isBreak {c : Char} (h : isBreak c = true) : c ≠ endChar := by
  rintro rfl
  cases h

theorem ne_endChar_of_isBlank {c : Char} (h : isBlank c = true) : c ≠ endChar := by
  rintro rfl
  cases h

theorem ne_endChar_of_not_isEnd {c : Char} (h : isEnd c = false) : c ≠ endChar := by
  rintro rfl
  cases h

theorem ne_newline_of_isBlank {c : Char} (h : isBlank c = true) : c ≠ '\n' := by
  rintro rfl
  cases h

namespace Cursor

variable {c : Cursor}

/-- A place in a stream without faults and away from any byte order mark. -/
structure Whole (c : Cursor) : Prop where
  fault : c.fault = none
  front : c.front = 0
  short : c.short = false

namespace Whole

theorem leaveFront (h : c.Whole) (n : Nat) : c.leaveFront n = c := by
  unfold Cursor.leaveFront
  split
  . rw [← h.front]
  . rfl

theorem has (h : c.Whole) (n : Nat) : c.has n = true := by
  simp [Cursor.has, h.fault]

theorem need (h : c.Whole) (n : Nat) : c.need n = c := by
  simp [Cursor.need, h.leaveFront, h.has]

theorem glance (h : c.Whole) (n : Nat) : c.glance n = c := by
  simp [Cursor.glance, h.leaveFront, h.has]

theorem skip (h : c.Whole) : c.skip.Whole := ⟨h.fault, h.front, h.short⟩

theorem skipN (h : c.Whole) (n : Nat) : (c.skipN n).Whole := by
  induction n generalizing c with
  | zero => exact h
  | succ n ih => exact ih h.skip

theorem skipWhile (h : c.Whole) (f : Char → Bool) : (c.skipWhile f).Whole := by
  unfold Cursor.skipWhile
  rw [(h.skipN _).need]
  exact h.skipN _

theorem skipLine_eq (h : c.Whole) (hbreak : isBreak c.peek = true)
    : c.skipLine =
        { c with
          rest := c.rest.drop (if c.atPair then 2 else 1)
          mark := ⟨c.mark.index + (if c.atPair then 2 else 1), c.mark.line + 1, 0⟩
          newlines := c.newlines + 1 } := by
  simp [Cursor.skipLine, h.need, hbreak]

theorem skipLine_of_not_break (h : c.Whole) (hbreak : isBreak c.peek = false) : c.skipLine = c := by
  simp [Cursor.skipLine, h.need, hbreak]

theorem skipLine (h : c.Whole) : c.skipLine.Whole := by
  cases hbreak : isBreak c.peek with
  | true =>
    rw [h.skipLine_eq hbreak]
    exact ⟨h.fault, h.front, h.short⟩
  | false =>
    rw [h.skipLine_of_not_break hbreak]
    exact h

end Whole

theorem head?_of_peek {ch : Char} (h : c.peek = ch) (hch : ch ≠ endChar)
    : c.rest.head? = some ch := by
  unfold peek at h
  cases hrest : c.rest with
  | nil =>
    rw [hrest] at h
    exact absurd h.symm hch
  | cons d ds =>
    rw [hrest] at h
    exact congrArg some h

theorem peek_succ (c : Cursor) (n : Nat) : c.peek (n + 1) = c.skip.peek n := by
  simp [peek_eq, List.getD_eq_getElem?_getD]

theorem exists_rest_of_peek {ch : Char} (h : c.peek = ch) (hch : ch ≠ endChar)
    : ∃ cs, c.rest = ch :: cs := by
  have := head?_of_peek h hch
  cases hrest : c.rest with
  | nil => simp [hrest] at this
  | cons d ds =>
    rw [hrest, List.head?_cons, Option.some.injEq] at this
    exact ⟨ds, by rw [this]⟩

@[simp]
theorem index_skip (c : Cursor) : c.skip.mark.index = c.mark.index + 1 := rfl

@[simp]
theorem index_skipN (n : Nat) (c : Cursor) : (c.skipN n).mark.index = c.mark.index + n := by
  induction n generalizing c with
  | zero => rfl
  | succ n ih =>
    rw [skipN, ih, index_skip]
    omega

theorem length_skip_le (c : Cursor) : c.skip.rest.length ≤ c.rest.length := by
  rw [rest_skip, List.length_tail]
  exact Nat.sub_le _ _

theorem length_skip_lt (h : c.peek ≠ endChar) : c.skip.rest.length < c.rest.length := by
  obtain ⟨cs, hcs⟩ := exists_rest_of_peek rfl h
  simp [hcs]

theorem skipLine_rest (c : Cursor)
    : c.skipLine.rest = c.rest.drop (if isBreak c.peek then (if c.atPair then 2 else 1) else 0) :=
  by
  have hpeek (n : Nat) : (c.need 2).peek n = c.peek n := by rw [peek_eq, rest_need, peek_eq]
  simp only [skipLine, atPair, hpeek, rest_need]
  split
  . rfl
  . rw [rest_need, List.drop_zero]

theorem length_skipLine_le (c : Cursor) : c.skipLine.rest.length ≤ c.rest.length := by
  rw [skipLine_rest, List.length_drop]
  exact Nat.sub_le _ _

theorem length_skipLine_lt (h : isBreak c.peek = true)
    : c.skipLine.rest.length < c.rest.length := by
  obtain ⟨cs, hcs⟩ := exists_rest_of_peek rfl (ne_endChar_of_isBreak h)
  rw [skipLine_rest, if_pos h, List.length_drop, hcs, List.length_cons]
  split
  all_goals omega

theorem exists_break (h : isBreak c.peek = true)
    : ∃ w d ds, c.rest = w ++ d :: ds ∧ '\n' ∉ w ∧ isBreak d = true ∧
        (if c.atPair then 2 else 1) = w.length + 1 := by
  obtain ⟨cs, hcs⟩ := exists_rest_of_peek rfl (ne_endChar_of_isBreak h)
  cases hpair : c.atPair with
  | false => exact ⟨[], c.peek, cs, hcs, by simp, h, rfl⟩
  | true =>
    simp only [atPair, Bool.and_eq_true, beq_iff_eq] at hpair
    have hnext : c.skip.peek = '\n' := (peek_succ c 0).symm.trans hpair.2
    obtain ⟨ds, hds⟩ := exists_rest_of_peek hnext (by decide)
    rw [rest_skip, hcs, List.tail_cons] at hds
    exact ⟨['\r'], '\n', ds, by rw [hcs, hds, hpair.1]; rfl, by decide, rfl, rfl⟩

theorem head?_drop_of_peek {n : Nat} {ch : Char} (h : c.peek n = ch) (hch : ch ≠ endChar)
    : (c.rest.drop n).head? = some ch := by
  rw [peek_eq, List.getD_eq_getElem?_getD, ← List.head?_drop] at h
  cases hhead : (c.rest.drop n).head? with
  | none =>
    rw [hhead] at h
    exact absurd h.symm hch
  | some d =>
    rw [hhead] at h
    exact congrArg some h

theorem lt_length_of_peek {n : Nat} {ch : Char} (h : c.peek n = ch) (hch : ch ≠ endChar)
    : n < c.rest.length := by
  have hhead := head?_drop_of_peek h hch
  by_contra hlt
  rw [List.drop_eq_nil_of_le (by omega)] at hhead
  cases hhead

theorem index_lt_skipToBreak (hend : isEnd c.peek = false) (hbreak : isBreak c.peek = false)
    : c.mark.index < c.skipToBreak.mark.index := by
  obtain ⟨cs, hcs⟩ := exists_rest_of_peek rfl (ne_endChar_of_not_isEnd hend)
  rw [skipToBreak, skipWhile, mark_need, index_skipN, hcs, List.takeWhile_cons_of_pos,
    List.length_cons]
  . omega
  . simp [isBreakOrEnd, hend, hbreak]

theorem index_lt_skipLine (h : c.Whole) (hbreak : isBreak c.peek = true)
    : c.mark.index < c.skipLine.mark.index := by
  rw [h.skipLine_eq hbreak]
  dsimp only
  split
  all_goals omega

theorem atMarker_congr {c c' : Cursor} {m : Char} (hcolumn : c'.mark.column = c.mark.column)
    (hpeek : ∀ n, (∀ k < n, c.peek k = m) → c'.peek n = c.peek n)
    : c'.atMarker m = c.atMarker m := by
  unfold Cursor.atMarker
  rw [hcolumn, hpeek 0 fun k hk => absurd hk (Nat.not_lt_zero k)]
  by_cases h₀ : c.peek = m
  . rw [hpeek 1 fun k hk => by rwa [Nat.lt_one_iff.mp hk]]
    by_cases h₁ : c.peek 1 = m
    . have htwo : ∀ k < 2, c.peek k = m := fun k hk => by
        obtain rfl | rfl : k = 0 ∨ k = 1 := by omega
        . exact h₀
        . exact h₁
      rw [hpeek 2 htwo]
      by_cases h₂ : c.peek 2 = m
      . rw [hpeek 3 fun k hk => ?_]
        obtain hlt | rfl := Nat.lt_or_eq_of_le (Nat.le_of_lt_succ hk)
        . exact htwo k hlt
        . exact h₂
      . rw [beq_eq_false_iff_ne.mpr h₂]
        simp only [Bool.and_false, Bool.false_and]
    . rw [beq_eq_false_iff_ne.mpr h₁]
      simp only [Bool.and_false, Bool.false_and]
  . rw [beq_eq_false_iff_ne.mpr h₀]
    simp only [Bool.and_false, Bool.false_and]

end Cursor

/-- Whether no line starts with a percent sign, which may or may not be at the start of one. -/
def undirected : Bool → List Char → Bool
  | _, [] => true
  | start, c :: cs => !(start && c == '%') && undirected (isBreak c) cs

theorem undirected_false {start : Bool} {cs : List Char} (h : undirected start cs = true)
    : undirected false cs = true := by
  cases cs with
  | nil => rfl
  | cons c cs =>
    simp only [undirected, Bool.and_eq_true] at h
    simp [undirected, h.2]

theorem undirected_drop {start : Bool} {w cs : List Char} {c : Char}
    (h : undirected start (w ++ c :: cs) = true)
    : undirected (isBreak c) cs = true := by
  induction w generalizing start with
  | nil =>
    simp only [List.nil_append, undirected, Bool.and_eq_true] at h
    exact h.2
  | cons d w ih =>
    simp only [List.cons_append, undirected, Bool.and_eq_true] at h
    exact ih h.2

namespace Spacing

/-- Two readers at the same place, which is at or behind every position of `K`. -/
structure Twin (p : Spacing) (K : Mark → Prop) (c c' : Cursor) : Prop where
  rest : c.rest = p.chars.drop c.mark.index
  rest' : c'.rest = p.after c.mark.index
  mark : c'.mark = p.shift c.mark
  newlines : c'.newlines = 0 ↔ c.newlines = 0
  whole : c.Whole
  whole' : c'.Whole
  free : undirected (c.mark.column == 0) c.rest = true
  seen : ∀ m, K m → p.Seen m c.mark

/--
Two readers after a line break that is doubled, the second one with the added line still before it.
-/
structure Late (p : Spacing) (K : Mark → Prop) (c c' : Cursor) : Prop where
  rest : c.rest = p.chars.drop c.mark.index
  rest' : c'.rest = '\n' :: p.after c.mark.index
  index : c'.mark.index + 1 = c.mark.index + p.count c.mark.index
  line : c'.mark.line + 1 = c.mark.line + p.count c.mark.index
  column : c.mark.column = 0
  column' : c'.mark.column = 0
  newlines : c.newlines ≠ 0
  newlines' : c'.newlines ≠ 0
  whole : c.Whole
  whole' : c'.Whole
  added : ∃ i, c.mark.index = i + 1 ∧ p.doubled i = true
  free : undirected true c.rest = true
  seen : ∀ m, K m → m.index < c.mark.index ∧ m.line < c.mark.line

variable {p : Spacing} {K K' : Mark → Prop} {c c' : Cursor} {f : Char → Bool} {n : Nat}

namespace Twin

theorem mono (h : p.Twin K c c') (hK : ∀ m, K' m → K m) : p.Twin K' c c' :=
  { h with seen := fun m hm => h.seen m (hK m hm) }

theorem here (h : p.Twin K c c') : p.Twin (fun m => K m ∨ m = c.mark) c c' :=
  { h with
    seen := by
      rintro m (hm | rfl)
      . exact h.seen m hm
      . exact Seen.refl p _ }

theorem column (h : p.Twin K c c') : c'.mark.column = c.mark.column := by
  rw [h.mark, shift]

theorem exists_line (h : p.Twin K c c')
    : ∃ w r r', c.rest = w ++ r ∧ c'.rest = w ++ r' ∧ '\n' ∉ w ∧
        (r = [] ∧ r' = [] ∨ ∃ x x', r = '\n' :: x ∧ r' = '\n' :: x') := by
  rw [h.rest, h.rest']
  exact p.exists_line _

theorem exists_line_of (h : p.Twin K c c') (hn : ∀ k < n, c.peek k ≠ '\n')
    : ∃ w r r', c.rest = w ++ r ∧ c'.rest = w ++ r' ∧
        (r = [] ∧ r' = [] ∨ n ≤ w.length ∧ ∃ x x', r = '\n' :: x ∧ r' = '\n' :: x') := by
  obtain ⟨w, r, r', hr, hr', -, hnil | ⟨x, x', rfl, rfl⟩⟩ := h.exists_line
  . exact ⟨w, r, r', hr, hr', .inl hnil⟩
  . refine ⟨w, _, _, hr, hr', .inr ⟨?_, x, x', rfl, rfl⟩⟩
    by_contra hlt
    refine hn w.length (by omega) ?_
    rw [Cursor.peek_eq, hr]
    simp [List.getD_eq_getElem?_getD]

theorem peek_of (h : p.Twin K c c') (hn : ∀ k < n, c.peek k ≠ '\n') : c'.peek n = c.peek n := by
  obtain ⟨w, r, r', hr, hr', ⟨rfl, rfl⟩ | ⟨hlength, x, x', rfl, rfl⟩⟩ := h.exists_line_of hn
  . rw [Cursor.peek_eq, Cursor.peek_eq, hr, hr']
  . rw [Cursor.peek_eq, Cursor.peek_eq, hr, hr']
    simp only [List.getD_eq_getElem?_getD]
    obtain hlt | rfl := Nat.lt_or_eq_of_le hlength
    . rw [List.getElem?_append_left hlt, List.getElem?_append_left hlt]
    . simp

theorem take (h : p.Twin K c c') (hn : ∀ k < n, c.peek k ≠ '\n')
    : c'.rest.take n = c.rest.take n := by
  obtain ⟨w, r, r', hr, hr', ⟨rfl, rfl⟩ | ⟨hlength, x, x', rfl, rfl⟩⟩ := h.exists_line_of hn
  . rw [hr, hr']
  . rw [hr, hr', List.take_append_of_le_length hlength, List.take_append_of_le_length hlength]

theorem peek (h : p.Twin K c c') : c'.peek = c.peek :=
    h.peek_of fun k hk => absurd hk (Nat.not_lt_zero k)

theorem peek_one (h : p.Twin K c c') (hc : c.peek ≠ '\n') : c'.peek 1 = c.peek 1 := by
  apply h.peek_of
  intro k hk
  obtain rfl : k = 0 := by omega
  exact hc

theorem takeWhile (h : p.Twin K c c') (hf : f '\n' = false)
    : c'.rest.takeWhile f = c.rest.takeWhile f := by
  obtain ⟨w, r, r', hr, hr', -, ⟨rfl, rfl⟩ | ⟨x, x', rfl, rfl⟩⟩ := h.exists_line
  . rw [hr, hr']
  . rw [hr, hr', List.takeWhile_append, List.takeWhile_append,
      List.takeWhile_cons_of_neg (by simp [hf]),
      List.takeWhile_cons_of_neg (by simp [hf])]

theorem head?_ne (h : p.Twin K c c') (hc : c.peek ≠ '\n')
    : (p.chars.drop c.mark.index).head? ≠ some '\n' := by
  rw [← h.rest]
  intro hhead
  apply hc
  unfold Cursor.peek
  rw [List.getD_eq_getElem?_getD, ← List.head?_eq_getElem?, hhead]
  rfl

theorem count_succ (h : p.Twin K c c') (hc : c.peek ≠ '\n')
    : p.count (c.mark.index + 1) = p.count c.mark.index := count_succ_of_head? (h.head?_ne hc)

theorem skip (h : p.Twin K c c') (hc : c.peek ≠ '\n') : p.Twin K c.skip c'.skip := by
  have hcount := h.count_succ hc
  constructor
  . rw [Cursor.rest_skip, h.rest, List.tail_drop]
    rfl
  . rw [Cursor.rest_skip, h.rest']
    cases hdrop : p.chars.drop c.mark.index with
    | nil =>
      have : p.chars.drop (c.mark.index + 1) = [] := by rw [← List.drop_drop, hdrop, List.drop_nil]
      rw [after_of_nil hdrop, Cursor.skip, after_of_nil this]
      rfl
    | cons d ds =>
      have hd : d ≠ '\n' := by
        rintro rfl
        exact h.head?_ne hc (by rw [hdrop, List.head?_cons])
      rw [after_of_ne hdrop hd]
      rfl
  . simp only [Cursor.skip, h.mark, shift, hcount, Mark.mk.injEq, and_true]
    omega
  . simp only [Cursor.skip, h.peek]
    split
    . exact h.newlines
    . exact Iff.rfl
  . exact h.whole.skip
  . exact h.whole'.skip
  . have hrest := h.free
    rw [Cursor.rest_skip]
    cases hcs : c.rest with
    | nil => rfl
    | cons d ds =>
      rw [hcs] at hrest
      exact undirected_false (undirected_drop (w := []) hrest)
  . intro m hm
    obtain ⟨hindex, hline⟩ := h.seen m hm
    exact ⟨Nat.le_succ_of_le hindex, by simpa only [Cursor.skip, hcount] using hline⟩

theorem skipN (h : p.Twin K c c') (hn : ∀ k < n, c.peek k ≠ '\n')
    : p.Twin K (c.skipN n) (c'.skipN n) := by
  induction n generalizing c c' with
  | zero => exact h
  | succ n ih =>
    refine ih (h.skip (hn 0 (Nat.zero_lt_succ n))) fun k hk => ?_
    have := hn (k + 1) (Nat.succ_lt_succ hk)
    rwa [Cursor.peek_succ] at this

theorem peek_ne_of_lt_takeWhile (hf : f '\n' = false) {k : Nat}
    (hk : k < (c.rest.takeWhile f).length)
    : c.peek k ≠ '\n' := by
  intro heq
  have hmem : (c.rest.takeWhile f)[k] ∈ c.rest.takeWhile f := List.getElem_mem hk
  have hlt : k < c.rest.length := Nat.lt_of_lt_of_le hk (List.takeWhile_prefix f).length_le
  rw [(List.takeWhile_prefix f).getElem hk] at hmem
  have hget : c.rest[k] = '\n' := by
    rwa [Cursor.peek_eq, List.getD_eq_getElem?_getD, List.getElem?_eq_getElem hlt] at heq
  rw [hget] at hmem
  have := List.mem_takeWhile_imp hmem
  rw [hf] at this
  cases this

theorem skipWhile (h : p.Twin K c c') (hf : f '\n' = false)
    : p.Twin K (c.skipWhile f) (c'.skipWhile f) := by
  have hskip := h.skipN (n := (c.rest.takeWhile f).length) fun k hk => peek_ne_of_lt_takeWhile hf hk
  unfold Cursor.skipWhile
  rw [h.takeWhile hf, hskip.whole.need, hskip.whole'.need]
  exact hskip

theorem skipBlanks (h : p.Twin K c c') : p.Twin K c.skipBlanks c'.skipBlanks := h.skipWhile rfl

theorem skipToBreak (h : p.Twin K c c') : p.Twin K c.skipToBreak c'.skipToBreak := h.skipWhile rfl

theorem lineBreak (h : p.Twin K c c') : c'.lineBreak = c.lineBreak := by
  unfold Cursor.lineBreak
  rw [h.peek]

theorem atMarker {m : Char} (h : p.Twin K c c') (hm : m ≠ '\n') : c'.atMarker m = c.atMarker m := by
  refine Cursor.atMarker_congr h.column fun n hn => h.peek_of fun k hk => ?_
  rwa [hn k hk]

theorem atDocumentMarker (h : p.Twin K c c') : c'.atDocumentMarker = c.atDocumentMarker := by
  unfold Cursor.atDocumentMarker
  rw [h.atMarker (by decide), h.atMarker (by decide)]

theorem atPair (h : p.Twin K c c') : c'.atPair = c.atPair := by
  unfold Cursor.atPair
  rw [h.peek]
  by_cases hc : c.peek = '\r'
  . rw [h.peek_one (by simp [hc])]
  . rw [beq_eq_false_iff_ne.mpr hc]
    rfl

theorem ample (h : p.Twin K c c')
    : p.Ample (c.rest.length + 1) (c'.rest.length + 1) c.mark.index := by
  have := p.length_after c.mark.index
  rw [← h.rest, ← h.rest'] at this
  unfold Ample
  omega

theorem length_rest (h : p.Twin K c c') : c.rest.length = p.chars.length - c.mark.index := by
  rw [h.rest, List.length_drop]

theorem length_lt {d d' : Cursor} (h : p.Twin K c c') (hd : p.Twin K' d d') (hc : c.peek ≠ endChar)
    (hlt : c.mark.index < d.mark.index) : d.rest.length < c.rest.length := by
  obtain ⟨cs, hcs⟩ := Cursor.exists_rest_of_peek rfl hc
  have hlength := h.length_rest
  rw [hcs, List.length_cons] at hlength
  rw [hcs, hd.length_rest, List.length_cons]
  omega

theorem count_skipN (h : p.Twin K c c') (hn : ∀ k < n, c.peek k ≠ '\n')
    : p.count (c.skipN n).mark.index = p.count c.mark.index := by
  induction n generalizing c c' with
  | zero => rfl
  | succ n ih =>
    have h₀ := hn 0 (Nat.zero_lt_succ n)
    rw [Cursor.skipN, ih (h.skip h₀)]
    . exact h.count_succ h₀
    . intro k hk
      rw [← Cursor.peek_succ]
      exact hn (k + 1) (Nat.succ_lt_succ hk)

theorem count_skipWhile (h : p.Twin K c c') (hf : f '\n' = false)
    : p.count (c.skipWhile f).mark.index = p.count c.mark.index := by
  rw [Cursor.skipWhile, Cursor.mark_need, h.count_skipN fun k hk => peek_ne_of_lt_takeWhile hf hk]

theorem skipLine (h : p.Twin K c c') (hbreak : isBreak c.peek = true)
    : p.Twin K c.skipLine c'.skipLine ∨ p.Late K c.skipLine c'.skipLine := by
  obtain ⟨w, d, ds, hrest, hw, hd, hwidth⟩ := Cursor.exists_break hbreak
  have hbreak' : isBreak c'.peek = true := by rwa [h.peek]
  have hundirected : undirected true ((p.chars.drop c.mark.index).drop (w.length + 1)) = true := by
    have := h.free
    rw [hrest] at this
    rw [← h.rest, hrest, ← List.drop_drop, List.drop_left, List.drop_succ_cons, List.drop_zero]
    have := undirected_drop this
    rwa [hd] at this
  rw [h.rest] at hrest
  obtain ⟨hdrop, hstep⟩ := exists_step hrest hw
  have hseen (m : Mark) (hm : K m)
      : m.index < c.mark.index + (w.length + 1) ∧ m.line < c.mark.line + 1 := by
    obtain ⟨hindex, hline⟩ := h.seen m hm
    omega
  have hmark := h.mark
  rw [shift, Mark.mk.injEq] at hmark
  rw [h.whole.skipLine_eq hbreak, h.whole'.skipLine_eq hbreak', h.atPair, hwidth, h.rest, h.rest']
  obtain ⟨hd, hcount, hafter⟩ | ⟨hcount, hafter⟩ := hstep
  . right
    constructor
    . exact List.drop_drop
    . simp [hafter, List.drop_append]
    . simp only [hmark, hcount]
      omega
    . simp only [hmark, hcount]
      omega
    . rfl
    . rfl
    . exact Nat.succ_ne_zero _
    . exact Nat.succ_ne_zero _
    . exact ⟨h.whole.fault, h.whole.front, h.whole.short⟩
    . exact ⟨h.whole'.fault, h.whole'.front, h.whole'.short⟩
    . exact ⟨_, rfl, hd⟩
    . exact hundirected
    . exact hseen
  . left
    constructor
    . exact List.drop_drop
    . simp [hafter, List.drop_append]
    . simp only [hmark, hcount, shift, Mark.mk.injEq, and_true]
      omega
    . simp
    . exact ⟨h.whole.fault, h.whole.front, h.whole.short⟩
    . exact ⟨h.whole'.fault, h.whole'.front, h.whole'.short⟩
    . exact hundirected
    . intro m hm
      exact ⟨(hseen m hm).1.le, .inl (hseen m hm).2⟩

end Twin

namespace Late

theorem mono (h : p.Late K c c') (hK : ∀ m, K' m → K m) : p.Late K' c c' :=
  { h with seen := fun m hm => h.seen m (hK m hm) }

theorem peek' (h : p.Late K c c') : c'.peek = '\n' := Cursor.peek_of_rest h.rest'

theorem lineBreak' (h : p.Late K c c') : c'.lineBreak = ['\n'] := by
  simp [Cursor.lineBreak, h.peek', isBreak]

theorem count_lt (h : p.Late K c c') {m : Mark} (hm : K m)
    : p.count m.index < p.count c.mark.index := by
  obtain ⟨i, hi, hd⟩ := h.added
  have hlt := (h.seen m hm).1
  have := p.count_mono (show m.index ≤ i by omega)
  rw [hi, count_succ_of_doubled hd]
  omega

theorem skipLine (h : p.Late K c c') : p.Twin K c c'.skipLine := by
  have hbreak : isBreak c'.peek = true := by rw [h.peek']; rfl
  have hpair : c'.atPair = false := by simp [Cursor.atPair, h.peek']
  rw [h.whole'.skipLine_eq hbreak, hpair]
  constructor
  . exact h.rest
  . simp [h.rest']
  . have := h.index
    have := h.line
    have := h.column
    simp only [shift, Bool.false_eq_true, if_false, Mark.mk.injEq]
    omega
  . simp [h.newlines]
  . exact h.whole
  . exact ⟨h.whole'.fault, h.whole'.front, h.whole'.short⟩
  . rw [h.column]
    exact h.free
  . intro m hm
    exact ⟨(h.seen m hm).1.le, .inl (h.seen m hm).2⟩

end Late

/-- Two readers in step, or the second one with an added line still before it. -/
def Near (p : Spacing) (K : Mark → Prop) (c c' : Cursor) : Prop := p.Twin K c c' ∨ p.Late K c c'

theorem Twin.skipLine_near (h : p.Twin K c c') : p.Near K c.skipLine c'.skipLine := by
  cases hbreak : isBreak c.peek with
  | true => exact h.skipLine hbreak
  | false =>
    rw [h.whole.skipLine_of_not_break hbreak, h.whole'.skipLine_of_not_break (by rwa [h.peek])]
    exact .inl h

end Spacing
end Yaml
end YamlOrder
