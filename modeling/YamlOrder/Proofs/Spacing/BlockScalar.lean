import YamlOrder.Proofs.Spacing.FlowScalar

/-!
This module contains what added lines do to block scalars. The line breaks at the end of one only
have a part in its value if its header says so.
-/

namespace YamlOrder
namespace Yaml

namespace scanBlockBreaks

variable {start : Mark} {least indent fuel deepest : Nat} {breaks : List Char} {last : Mark}
  {c : Cursor}

/-- How many spaces of a line are its indentation. -/
def width (indent : Nat) (c : Cursor) : Nat :=
  let spaces := (c.takeWhile (· == ' ')).length
  if indent == 0 then spaces else min spaces (indent - c.mark.column)

theorem width_le (indent : Nat) (c : Cursor)
    : width indent c ≤ (c.rest.takeWhile (· == ' ')).length := by
  unfold width
  split
  . exact Nat.le_refl _
  . exact Nat.min_le_left _ _

/-- The place after the indentation of a line. -/
def indented (indent : Nat) (c : Cursor) : Cursor := c.skipN (width indent c)

theorem go_succ (h : c.Whole)
    : go start least indent (fuel + 1) breaks deepest last c =
        if (indent == 0 || (indented indent c).mark.column < indent) &&
        (indented indent c).peek == '\t' then
          .error ((indented indent c).problem start .tabInIndent)
        else if isBreak (indented indent c).peek then
          go start least indent fuel (breaks ++ (indented indent c).lineBreak)
            (max deepest (indented indent c).mark.column) (indented indent c).skipLine.mark
            (indented indent c).skipLine
        else
          .ok (finish least indent breaks (max deepest (indented indent c).mark.column) last
            (indented indent c)) := by
  rw [go, h.need, (h.skipN _).need]
  rfl

end scanBlockBreaks

namespace Spacing

variable {p : Spacing} {K : Mark → Prop} {c c' : Cursor} {v v' : List Char}
  {fuel fuel' least indent deepest a : Nat}

/-- Two ends of the empty lines of a block scalar, which begin after the index `a`. -/
structure BreaksTwin (p : Spacing) (K : Mark → Prop) (a : Nat) (b b' : BlockBreaks) : Prop where
  cursor : p.Twin K b.cursor b'.cursor
  indent : b'.indent = b.indent
  breaks : Alike (p.count b.cursor.mark.index = p.count a) b.breaks b'.breaks
  not_break : isBreak b.cursor.peek = false
  le_last : a ≤ b.last.index
  last_le : b.last.index ≤ b.cursor.mark.index
  count_last : p.count b.last.index = p.count b.cursor.mark.index

theorem peek_ne_of_lt_width {k : Nat} (hk : k < scanBlockBreaks.width indent c) : c.peek k ≠ '\n' :=
  Twin.peek_ne_of_lt_takeWhile (f := (· == ' ')) rfl
  (Nat.lt_of_lt_of_le hk (scanBlockBreaks.width_le indent c))

theorem Twin.indented (h : p.Twin K c c') (indent : Nat)
    : p.Twin K (scanBlockBreaks.indented indent c) (scanBlockBreaks.indented indent c') := by
  have hwidth : scanBlockBreaks.width indent c' = scanBlockBreaks.width indent c := by
    unfold scanBlockBreaks.width Cursor.takeWhile
    rw [h.takeWhile rfl, h.column]
  rw [scanBlockBreaks.indented, scanBlockBreaks.indented, hwidth]
  exact h.skipN fun _ hk => peek_ne_of_lt_width hk

theorem Twin.count_indented (h : p.Twin K c c') (indent : Nat)
    : p.count (scanBlockBreaks.indented indent c).mark.index = p.count c.mark.index :=
  h.count_skipN fun _ hk => peek_ne_of_lt_width hk

theorem index_le_indented (indent : Nat) (c : Cursor)
    : c.mark.index ≤ (scanBlockBreaks.indented indent c).mark.index := by
  rw [scanBlockBreaks.indented, Cursor.index_skipN]
  exact Nat.le_add_right _ _

theorem Late.breaks_eq (h : p.Late K c c') (start last : Mark)
    : scanBlockBreaks.go start least indent (fuel' + 1) v' deepest last c' =
        scanBlockBreaks.go start least indent fuel'
        (v' ++ ['\n']) deepest c'.skipLine.mark c'.skipLine := by
  have hindented : scanBlockBreaks.indented indent c' = c' := by
    have : scanBlockBreaks.width indent c' = 0 := by
      simp [scanBlockBreaks.width, Cursor.takeWhile, h.rest']
    rw [scanBlockBreaks.indented, this]
    rfl
  have htab : ('\n' == '\t') = false := rfl
  have hbreak : isBreak '\n' = true := rfl
  rw [scanBlockBreaks.go_succ h.whole', hindented, h.peek', htab, hbreak, Bool.and_false,
    h.lineBreak', h.column',
    Nat.max_zero]
  rfl

theorem breaks_go (start start' : Mark) {last' : Mark} (h : p.Twin K c c') (ha : a ≤ c.mark.index)
    (hv : Alike (p.count c.mark.index = p.count a) v v') (hfuel : c.rest.length < fuel)
    (hample : p.Ample fuel fuel' c.mark.index)
    : Simulates (p.BreaksTwin K a) (scanBlockBreaks.go start least indent fuel v deepest c.mark c)
        (scanBlockBreaks.go start' least indent fuel' v' deepest last' c') := by
  induction fuel generalizing fuel' v v' c c' deepest last' with
  | zero => exact absurd hfuel (Nat.not_lt_zero _)
  | succ fuel ih =>
    obtain ⟨fuel', rfl⟩ := exists_fuel hample
    unfold Ample at hample
    have hnext := h.indented indent
    have hcount := h.count_indented indent
    have hle := index_le_indented indent c
    have hmono := p.count_mono ha
    rw [scanBlockBreaks.go_succ h.whole, scanBlockBreaks.go_succ h.whole', hnext.peek, hnext.column,
      hnext.lineBreak]
    generalize scanBlockBreaks.indented indent c = d at *
    generalize scanBlockBreaks.indented indent c' = d' at *
    split
    . exact .error _ _
    split
    . next hbreak =>
      have hlt : d.mark.index < d.skipLine.mark.index := Cursor.index_lt_skipLine hnext.whole hbreak
      have hmono' := p.count_mono hlt.le
      have hdrop : d.rest.length ≤ c.rest.length := by
        rw [hnext.length_rest, h.length_rest]
        omega
      obtain hline | hlate := hnext.here.skipLine hbreak
      . have hlength := hnext.length_lt hline (ne_endChar_of_isBreak hbreak) hlt
        refine ih (hline.mono fun m => .inl) (by omega) ?_ (by omega) (by unfold Ample; omega)
        exact (hv.mono fun heq => by omega).append (.refl _ _)
      . have hadded := hlate.count_lt (.inr rfl)
        have hlength := hnext.length_lt hlate.skipLine (ne_endChar_of_isBreak hbreak) hlt
        obtain ⟨fuel', rfl⟩ : ∃ k, fuel' = k + 1 := by
          have := p.count_le d.skipLine.mark.index
          exact ⟨fuel' - 1, by omega⟩
        rw [hlate.breaks_eq]
        refine ih (hlate.skipLine.mono fun m => .inl) (by omega) ?_ (by omega)
          (by unfold Ample; omega)
        exact (hv.append (.refl _ _)).add_newline (by omega)
    . next hbreak =>
      rw [Bool.not_eq_true] at hbreak
      refine .ok ⟨hnext, rfl, ?_, hbreak, ha, hle, hcount.symm⟩
      exact hv.mono fun heq => by rw [← hcount]; exact heq

theorem scanBlockBreaks_near (start start' : Mark) {m : Mark} (hm : K m) (h : p.Near K c c')
    : Simulates (p.BreaksTwin K m.index) (scanBlockBreaks start least indent c)
        (scanBlockBreaks start' least indent c') := by
  unfold scanBlockBreaks
  obtain h | h := h
  . exact breaks_go start start' h (h.seen m hm).1 (.refl _ _) (Nat.lt_succ_self _) h.ample
  . have hadded := h.count_lt hm
    have hample := h.skipLine.ample
    rw [h.rest', List.length_cons, h.breaks_eq]
    rw [h.skipLine.rest'] at hample
    refine breaks_go start start' h.skipLine (h.seen m hm).1.le ?_ (Nat.lt_succ_self _) hample
    exact (Alike.refl True []).add_newline (by omega)

theorem ne_newline_of_isDigit {ch : Char} (h : ch.isDigit = true) : ch ≠ '\n' := by
  rintro rfl
  cases h

theorem blockDigit_twin (start start' : Mark) (h : p.Twin K c c')
    : Simulates (fun r r' => r'.1 = r.1 ∧ p.Twin K r.2 r'.2 ∧
        p.count r.2.mark.index = p.count c.mark.index ∧
          (r.1 = 0 ∧ r.2 = c ∨ r.2 = c.skip))
        (scanBlockHeader.digit start c) (scanBlockHeader.digit start' c') := by
  unfold scanBlockHeader.digit
  rw [h.peek]
  split
  . exact .error _ _
  split
  . next hdigit =>
    have hne := ne_newline_of_isDigit hdigit
    exact .ok ⟨rfl, h.skip hne, h.count_succ hne, .inr rfl⟩
  . exact .ok ⟨rfl, h, rfl, .inl ⟨rfl, rfl⟩⟩

theorem eq_of_ofChar? {ch : Char} {chomping : Chomping} (h : Chomping.ofChar? ch = some chomping)
    : ch ≠ '\n' ∧ (chomping = .keep → ch = '+') := by
  unfold Chomping.ofChar? at h
  split at h
  . next hplus =>
    rw [beq_iff_eq] at hplus
    subst hplus
    exact ⟨by decide, fun _ => rfl⟩
  . split at h
    . next hminus =>
      rw [beq_iff_eq] at hminus
      subst hminus
      cases h
      exact ⟨by decide, fun h => by cases h⟩
    . cases h

theorem contains_of_peek {ch : Char} (h : c.peek = ch) (hch : ch ≠ endChar) (n : Nat)
    : (c.rest.take (n + 1)).contains ch = true := by
  obtain ⟨cs, hcs⟩ := Cursor.exists_rest_of_peek h hch
  simp [hcs]

theorem scanBlockHeader_twin (start start' : Mark) (h : p.Twin K c c')
    : Simulates (fun r r' => r'.1 = r.1 ∧ r'.2.1 = r.2.1 ∧ p.Twin K r.2.2 r'.2.2 ∧
          p.count r.2.2.mark.index = p.count c.mark.index ∧
          (r.1 = .keep → (c.rest.take 2).contains '+' = true))
        (scanBlockHeader start c) (scanBlockHeader start' c') := by
  unfold scanBlockHeader
  rw [h.whole.need, h.whole'.need]
  dsimp only
  rw [h.peek]
  split
  . next chomping heq =>
    obtain ⟨hne, hkeep⟩ := eq_of_ofChar? heq
    have hnext := h.skip hne
    rw [hnext.whole.need, hnext.whole'.need]
    refine (blockDigit_twin start start' hnext).bind ?_
    rintro ⟨n, d⟩ ⟨_, d'⟩ ⟨rfl, hd, hcount, -⟩
    refine .ok ⟨rfl, rfl, hd, hcount.trans (h.count_succ hne), fun hchomping => ?_⟩
    exact contains_of_peek (hkeep hchomping) (by decide) 1
  . refine (blockDigit_twin start start' h).bind ?_
    rintro ⟨n, d⟩ ⟨_, d'⟩ ⟨rfl, hd, hcount, hdigit⟩
    dsimp only at hd hcount hdigit ⊢
    split
    . exact .ok ⟨rfl, rfl, hd, hcount, fun hchomping => by cases hchomping⟩
    . next hn =>
      have hdigit : d = c.skip := by
        obtain ⟨rfl, -⟩ | hdigit := hdigit
        . exact absurd rfl hn
        . exact hdigit
      rw [hd.whole.need, hd.whole'.need, hd.peek]
      split
      . next chomping heq =>
        obtain ⟨hne, hkeep⟩ := eq_of_ofChar? heq
        refine .ok ⟨rfl, rfl, hd.skip hne, (hd.count_succ hne).trans hcount, fun hchomping => ?_⟩
        have hplus := contains_of_peek (hkeep hchomping) (by decide) 0
        rw [hdigit, Cursor.rest_skip] at hplus
        cases hrest : c.rest with
        | nil => simp [hrest] at hplus
        | cons ch cs =>
          rw [hrest, List.tail_cons] at hplus
          rw [List.take_succ_cons, List.contains_cons, hplus, Bool.or_true]
      . exact .ok ⟨rfl, rfl, hd, hcount, fun hchomping => by cases hchomping⟩

/-- A moment at which the lines of a block scalar are read up to the index `a`. -/
structure LinesTwin (p : Spacing) (K : Mark → Prop) (start : Mark) (a : Nat) (v v' : List Char)
    (b b' : BlockBreaks)
    : Prop where
  value : Alike (p.count a = p.count start.index) v v'
  breaks : p.BreaksTwin K a b b'
  start_le : p.count start.index ≤ p.count a
  solid : p.count (a - 1) = p.count a

variable {start start' : Mark} {b b' : BlockBreaks} {chomping : Chomping} {literal : Bool}
  {firstBreak : List Char}

theorem LinesTwin.finish (h : p.LinesTwin K start a v v' b b')
    (hkeep : chomping = .keep → p.keepsBreaks start = true)
    : Simulates (p.ScalarTwin K) (.ok (scanBlockLines.finish start literal chomping v firstBreak b))
        (.ok (scanBlockLines.finish start' literal chomping v' firstBreak b')) := by
  have hsolid := h.solid
  have hstart := h.start_le
  have hcount := h.breaks.count_last
  have hlast := p.count_mono h.breaks.le_last
  -- the line breaks before the last one are before the end of the last line
  have hbefore : p.count a ≤ p.count (b.last.index - 1) := by
    obtain heq | hlt := Nat.eq_or_lt_of_le h.breaks.le_last
    . rw [← heq, hsolid]
    . exact p.count_mono (by omega)
  have hafter : p.count (b.last.index - 1) ≤ p.count b.last.index := p.count_mono (Nat.sub_le _ _)
  have hspares {q : Prop} (hq : q →
    p.count (b.last.index - 1) = p.count start.index) : Alike q v v' :=
    h.value.mono fun hholds => by
      have := hq hholds
      omega
  have hblock : ∀ style : ScalarStyle, style = (if literal then .literal else .folded) →
      (style == .literal || style == .folded) = true := by
    rintro style rfl
    cases literal
    all_goals rfl
  refine .ok ⟨.scalar ?_ _, h.breaks.cursor, rfl⟩
  simp only [Spares, style?, Option.mem_def, Option.some.injEq, forall_eq', reach,
    scanBlockLines.finish, hblock _ rfl,
    Bool.true_and]
  cases chomping with
  | keep =>
    simp only [hkeep rfl, Bool.not_true, Bool.false_eq_true, if_false]
    refine (hspares fun heq => by omega).append ((Alike.refl _ _).append ?_)
    exact h.breaks.breaks.mono fun heq => by omega
  | strip =>
    refine (hspares fun heq => ?_).append (.refl _ _)
    split at heq
    . exact heq
    . omega
  | clip =>
    refine (hspares fun heq => ?_).append (.refl _ _)
    split at heq
    . exact heq
    . omega

theorem LinesTwin.go {leadingBlank : Bool} (h : p.LinesTwin K start a v v' b b')
    (hkeep : chomping = .keep → p.keepsBreaks start = true) (hfuel : b.cursor.rest.length < fuel)
    (hample : p.Ample fuel fuel' b.cursor.mark.index)
    : Simulates (p.ScalarTwin K) (scanBlockLines.go start literal chomping fuel v firstBreak
        leadingBlank b)
        (scanBlockLines.go start' literal chomping fuel' v' firstBreak leadingBlank b') := by
  induction fuel generalizing fuel' v v' b b' a firstBreak leadingBlank with
  | zero => exact absurd hfuel (Nat.not_lt_zero _)
  | succ fuel ih =>
    obtain ⟨fuel', rfl⟩ := exists_fuel hample
    have hcursor := h.breaks.cursor
    unfold scanBlockLines.go
    dsimp only
    rw [hcursor.column, hcursor.peek, h.breaks.indent]
    split
    . next hcontent =>
      simp only [Bool.and_eq_true, Bool.not_eq_true'] at hcontent
      have htwin := hcursor.skipToBreak
      have hcount : p.count b.cursor.skipToBreak.mark.index = p.count b.cursor.mark.index :=
        hcursor.count_skipWhile rfl
      have hlt := Cursor.index_lt_skipToBreak hcontent.2 h.breaks.not_break
      have hline : b'.cursor.takeWhile (!isBreakOrEnd ·) = b.cursor.takeWhile (!isBreakOrEnd ·) :=
        hcursor.takeWhile rfl
      rw [hline, htwin.lineBreak]
      have hstart := h.start_le
      have hcursor_le := p.count_mono (h.breaks.le_last.trans h.breaks.last_le)
      have hbreaks : Alike (p.count b.cursor.skipToBreak.mark.index = p.count start.index) b.breaks
        b'.breaks :=
        h.breaks.breaks.mono fun heq => by omega
      have hnear := htwin.here.skipLine_near
      refine (scanBlockBreaks_near start start' (m := b.cursor.skipToBreak.mark) (.inr rfl)
        hnear).bind ?_
      rintro next next' hnext
      have hindex := hnext.le_last.trans hnext.last_le
      have hmono := p.count_mono hindex
      refine ih ⟨?_, { hnext with cursor := hnext.cursor.mono fun m => .inl }, by omega, ?_⟩ ?_ ?_
      . refine ((Alike.append ?_ ?_).append hbreaks).append (.refl _ _)
        . exact h.value.mono fun heq => by omega
        . split
          . refine .of_squeeze_eq_nil ?_ ?_ fun heq => by rw [hbreaks.eq heq]
            all_goals
              split
              all_goals rfl
          . exact .refl _ _
      . have hfirst :=
          p.count_mono (show b.cursor.mark.index ≤ b.cursor.skipToBreak.mark.index - 1 by omega)
        have hlast := p.count_mono (Nat.sub_le b.cursor.skipToBreak.mark.index 1)
        omega
      . have hne : b.cursor.peek ≠ endChar := by
          intro heq
          rw [heq] at hcontent
          exact absurd hcontent.2 (by decide)
        have := hcursor.length_lt hnext.cursor hne (by omega)
        omega
      . unfold Ample at *
        omega
    . exact h.finish hkeep

/-- The lines of a block scalar after its header, which ends before the index of `m`. -/
theorem scanBlockLines_twin {m : Mark} (hb : p.BreaksTwin K m.index b b')
    (hkeep : chomping = .keep → p.keepsBreaks start = true) (hstart : start.index < m.index)
    (hcount : p.count m.index = p.count start.index)
    : Simulates (p.ScalarTwin K) (scanBlockLines start literal chomping b)
        (scanBlockLines start' literal chomping b') := by
  have hfirst := p.count_mono (show start.index ≤ m.index - 1 by omega)
  have hlast := p.count_mono (Nat.sub_le m.index 1)
  exact LinesTwin.go ⟨.refl _ _, hb, hcount.ge, by omega⟩ hkeep (Nat.lt_succ_self _) hb.cursor.ample

end Spacing
end Yaml
end YamlOrder
