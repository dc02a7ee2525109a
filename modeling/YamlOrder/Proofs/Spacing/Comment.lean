import YamlOrder.Proofs.Spacing.Cursor
import YamlOrder.Yaml.Token.Comment

/-!
This module contains what added lines do to the search for comments: it steps over the same comment
lines. A search that looks behind a line break that is doubled does not step over anything more,
since no comment is on the line after it.
-/

namespace YamlOrder
namespace Yaml

namespace CommentSearch

variable {s : CommentSearch} {ctx : Context} {fuel ahead : Nat} {ch : Char} {c : Cursor}

/-- The place to which a search gets that has looked at some characters already. -/
def walk (inFlow : Bool) : Nat → Nat → Cursor → Cursor
  | 0, _, c => c
  | fuel + 1, ahead, c =>
    if commentReach ≤ ahead then c
    else if isBlank (c.peek ahead) then walk inFlow fuel (ahead + 1) c
    else if inFlow && (c.peek ahead == ']' || c.peek ahead == '\x7d') ||
      isBreakOrEnd (c.peek ahead) then
      if isBreak (c.peek ahead) && !isWideBreak (c.peek ahead) then walk inFlow fuel
        (ahead + 1) c else c
    else if c.peek ahead != '#' then c
    else
      let c := (stepTo (c.mark.index + ahead) (ahead + 1) c).skipToBreak
      if isWideBreak c.peek then c else walk inFlow fuel 1 c

theorem endLine_place (s : CommentSearch) (ctx : Context) (closing atEnd : Bool)
    : (s.endLine ctx closing atEnd).cursor = s.cursor ∧
      (s.endLine ctx closing atEnd).ahead = s.ahead := by
  unfold endLine
  split
  . exact ⟨rfl, rfl⟩
  split
  . exact ⟨rfl, rfl⟩
  split
  all_goals exact ⟨rfl, rfl⟩

theorem closeDedented_place (s : CommentSearch) (ctx : Context)
    : (s.closeDedented ctx).cursor = s.cursor ∧ (s.closeDedented ctx).ahead = s.ahead := by
  unfold closeDedented
  split
  all_goals exact ⟨rfl, rfl⟩

theorem takeLine_place (s : CommentSearch)
    : s.takeLine.cursor =
      (stepTo (s.cursor.mark.index + s.ahead) (s.ahead + 1) s.cursor).skipToBreak ∧
        s.takeLine.ahead = 1 := ⟨rfl, rfl⟩

theorem stepTo_whole (h : c.Whole) (index : Nat) : (stepTo index fuel c).Whole := by
  induction fuel generalizing c with
  | zero => exact h
  | succ fuel ih =>
    unfold stepTo
    split
    . exact h
    split
    . exact ih h.skipLine
    . exact ih h.skip

theorem cursor_run (h : s.cursor.Whole)
    : (run ctx fuel s).cursor = walk ctx.inFlow fuel s.ahead s.cursor := by
  induction fuel generalizing s with
  | zero => rfl
  | succ fuel ih =>
    unfold run walk
    rw [h.has, h.glance]
    simp only [Bool.not_true, Bool.false_eq_true, if_false]
    split
    . rfl
    split
    . exact ih h
    split
    . generalize hend : endLine _ ctx _ _ = e
      have hplace := endLine_place { s with column := s.column + 1 } ctx
        (ctx.inFlow && (s.cursor.peek s.ahead == ']' || s.cursor.peek s.ahead == '\x7d'))
        (isEnd (s.cursor.peek s.ahead))
      rw [hend] at hplace
      dsimp only at hplace
      cases hbreak : isBreak (s.cursor.peek s.ahead) with
      | false => simp [hplace.1]
      | true =>
        cases hwide : isWideBreak (s.cursor.peek s.ahead) with
        | true => simp [(closeDedented_place _ _).1, hplace.1]
        | false =>
          simp only [if_true, Bool.false_eq_true, if_false, Bool.not_false, Bool.and_self]
          rw [ih (by rw [hplace.1]; exact h), hplace.1, hplace.2]
    . generalize hclosed : closeDedented _ ctx = d
      have hplace := closeDedented_place { s with column := s.column + 1 } ctx
      rw [hclosed] at hplace
      dsimp only at hplace
      have hline := takeLine_place d
      rw [hplace.1, hplace.2] at hline
      rw [hline.1]
      split
      . exact hplace.1
      split
      . rw [(closeDedented_place _ _).1]
      . rw [ih ?_, hline.1, hline.2]
        rw [hline.1]
        exact (stepTo_whole h _).skipWhile _

theorem walk_of_reach (inFlow : Bool) (h : commentReach ≤ ahead)
    : walk inFlow fuel ahead c = c := by
  cases fuel with
  | zero => rfl
  | succ fuel => rw [walk, if_pos h]

theorem peek_of_drop {cs : List Char} (h : c.rest.drop ahead = ch :: cs) : c.peek ahead = ch := by
  rw [Cursor.peek_eq, List.getD_eq_getElem?_getD, ← List.head?_drop, h]
  rfl

theorem isWideBreak_of_ne (h : isBreak ch = true) (hline : ch ≠ '\n') (hreturn : ch ≠ '\r')
    : isWideBreak ch = true := by
  simp only [isBreak, Bool.or_eq_true, beq_iff_eq, hline, hreturn, false_or] at h
  obtain (rfl | rfl) | rfl := h
  all_goals rfl

theorem walk_of_opens (inFlow : Bool) (n : Nat) (cs : List Char)
    (hrest : c.rest.drop ahead = List.replicate n ' ' ++ ch :: cs)
    (hch : ch ∉ [' ', '\t', '\n', '\r', '#'])
    : walk inFlow fuel ahead c = c := by
  simp only [List.mem_cons, List.not_mem_nil, or_false, not_or] at hch
  obtain ⟨hspace, htab, hline, hreturn, hnumber⟩ := hch
  induction fuel generalizing n ahead with
  | zero => rfl
  | succ fuel ih =>
    unfold walk
    split
    . rfl
    cases n with
    | succ n =>
      rw [List.replicate_succ, List.cons_append] at hrest
      rw [peek_of_drop hrest, if_pos (by rfl)]
      refine ih n ?_
      exact drop_succ hrest
    | zero =>
      rw [List.replicate_zero, List.nil_append] at hrest
      have hblank : isBlank ch = false := by simp [isBlank, hspace, htab]
      rw [peek_of_drop hrest, hblank]
      simp only [Bool.false_eq_true, if_false]
      split
      . cases hbreak : isBreak ch with
        | false => rfl
        | true => simp [isWideBreak_of_ne hbreak hline hreturn]
      . rw [if_pos (by simpa using hnumber)]

theorem walk_of_newline (inFlow : Bool) (n : Nat) (cs : List Char)
    (hrest : c.rest.drop ahead = '\n' :: (List.replicate n ' ' ++ ch :: cs))
    (hch : ch ∉ [' ', '\t', '\n', '\r', '#'])
    : walk inFlow fuel ahead c = c := by
  cases fuel with
  | zero => rfl
  | succ fuel =>
    have hblank : isBlank '\n' = false := rfl
    have hbreak : isBreakOrEnd '\n' = true := rfl
    have hnarrow : (isBreak '\n' && !isWideBreak '\n') = true := rfl
    unfold walk
    rw [peek_of_drop hrest, hblank, hbreak, hnarrow, Bool.or_true]
    simp only [Bool.false_eq_true, if_false, if_true]
    split
    . rfl
    . refine walk_of_opens inFlow n cs ?_ hch
      exact drop_succ hrest

end CommentSearch

namespace Spacing

open CommentSearch (walk stepTo)

variable {p : Spacing} {K : Mark → Prop} {c c' : Cursor} {ahead fuel fuel' i : Nat}

theorem head?_after (p : Spacing) (i : Nat) : (p.after i).head? = (p.chars.drop i).head? := by
  cases hdrop : p.chars.drop i with
  | nil => rw [after_of_nil hdrop]
  | cons ch cs =>
    by_cases hd : p.doubled i = true
    . rw [after_of_doubled hdrop hd]
      rfl
    . rw [Bool.not_eq_true] at hd
      rw [after_of_not_doubled hdrop hd]
      rfl

theorem exists_opens (hd : p.doubled i = true)
    : ∃ n ch cs cs', p.chars.drop (i + 1) = List.replicate n ' ' ++ ch :: cs ∧
        p.after (i + 1) = List.replicate n ' ' ++ ch :: cs' ∧
        ch ∉ [' ', '\t', '\n', '\r', '#'] := by
  obtain ⟨n, ch, cs, hdrop, hch⟩ := p.opens i hd
  have hspaces : '\n' ∉ List.replicate n ' ' := by simp [List.mem_replicate]
  obtain ⟨-, ⟨-, -, hafter⟩ | ⟨-, hafter⟩⟩ := exists_step hdrop hspaces
  . exact ⟨n, ch, cs, _, hdrop, hafter, hch⟩
  . exact ⟨n, ch, cs, _, hdrop, hafter, hch⟩

/-- Whether no line is added among the next characters. -/
def Clear (p : Spacing) (c c' : Cursor) (ahead : Nat) : Prop :=
  c'.rest.drop ahead = p.after (c.mark.index + ahead) ∧
  p.count (c.mark.index + ahead) = p.count c.mark.index

theorem Twin.clear (h : p.Twin K c c') : p.Clear c c' 0 := ⟨h.rest', rfl⟩

theorem Clear.succ (h : p.Twin K c c') (hclear : p.Clear c c' ahead) (inFlow : Bool)
    : p.Clear c c' (ahead + 1) ∨
        (∀ fuel, walk inFlow fuel (ahead + 1) c = c) ∧
        (∀ fuel, walk inFlow fuel (ahead + 1) c' = c') := by
  obtain ⟨hafter, hcount⟩ := hclear
  have hrest : c.rest.drop ahead = p.chars.drop (c.mark.index + ahead) := by
    rw [h.rest, List.drop_drop]
  have hnext : c'.rest.drop (ahead + 1) = (p.after (c.mark.index + ahead)).drop 1 := by
    rw [← List.drop_drop, hafter]
  cases hd : p.doubled (c.mark.index + ahead) with
  | true =>
    right
    obtain ⟨n, ch, cs, cs', hdrop, hadded, hch⟩ := exists_opens hd
    obtain ⟨ds, hds⟩ : ∃ ds, p.chars.drop (c.mark.index + ahead) = '\n' :: ds := by
      have := p.newline _ hd
      rw [getElem?_eq_head?_drop, List.head?_eq_some_iff] at this
      exact this
    constructor
    . intro fuel
      refine CommentSearch.walk_of_opens inFlow n cs ?_ hch
      rw [h.rest, List.drop_drop]
      exact hdrop
    . intro fuel
      refine CommentSearch.walk_of_newline inFlow n cs' ?_ hch
      rw [hnext, after_of_doubled hds hd, List.drop_succ_cons, List.drop_zero, hadded]
  | false =>
    left
    refine ⟨?_, (count_succ_of_not_doubled hd).trans hcount⟩
    rw [hnext]
    cases hdrop : p.chars.drop (c.mark.index + ahead) with
    | nil =>
      have : p.chars.drop (c.mark.index + (ahead + 1)) = [] := by
        rw [← Nat.add_assoc, ← List.drop_drop, hdrop]; rfl
      rw [after_of_nil hdrop, after_of_nil this]
      rfl
    | cons ch cs => rw [after_of_not_doubled hdrop hd]; rfl

theorem stepTo_twin {t : Nat} (h : p.Twin K c c') (ht : c.mark.index ≤ t)
    (hcount : p.count t = p.count c.mark.index) (hhead : (p.chars.drop t).head? = some '#')
    (hfuel : t < c.mark.index + fuel)
    : p.Twin K (stepTo t fuel c) (stepTo (t + p.count t) fuel c') ∧
      (stepTo t fuel c).mark.index = t := by
  induction fuel generalizing c c' with
  | zero => omega
  | succ fuel ih =>
    have hindex : c'.mark.index = c.mark.index + p.count c.mark.index := by rw [h.mark, shift]
    unfold stepTo
    rw [h.peek, hindex]
    obtain rfl | hlt := Nat.eq_or_lt_of_le ht
    . rw [if_pos (Nat.le_refl _), if_pos (Nat.le_refl _)]
      exact ⟨h, rfl⟩
    have hbefore' : ¬ t + p.count t ≤ c.mark.index + p.count c.mark.index := by omega
    rw [if_neg (Nat.not_le.mpr hlt), if_neg hbefore']
    split
    . next hbreak =>
      have hle : c.skipLine.mark.index ≤ t := by
        rw [h.whole.skipLine_eq hbreak]
        dsimp only
        split
        . next hpair =>
          by_contra hgt
          obtain rfl : t = c.mark.index + 1 := by omega
          simp only [Cursor.atPair, Bool.and_eq_true, beq_iff_eq] at hpair
          have hone : c.peek 1 = '#' := by
            rw [Cursor.peek_eq, List.getD_eq_getElem?_getD, ← List.head?_drop, h.rest,
              List.drop_drop, hhead]
            rfl
          rw [hone] at hpair
          exact absurd hpair.2 (by decide)
        . omega
      have hlt := Cursor.index_lt_skipLine h.whole hbreak
      have hmono := p.count_mono hlt.le
      have hmono' := p.count_mono hle
      obtain hnext | hlate := h.here.skipLine hbreak
      . exact ih (hnext.mono fun m => .inl) hle (by omega) (by omega)
      . have := hlate.count_lt (.inr rfl)
        omega
    . next hbreak =>
      have hne : c.peek ≠ '\n' := by
        intro heq
        rw [heq] at hbreak
        exact hbreak rfl
      have := h.count_succ hne
      exact ih (h.skip hne) hlt (by rw [Cursor.index_skip]; omega)
        (by rw [Cursor.index_skip]; omega)

theorem Clear.peek (h : p.Twin K c c') (hclear : p.Clear c c' ahead)
    : c'.peek ahead = c.peek ahead := by
  rw [Cursor.peek_eq, Cursor.peek_eq, List.getD_eq_getElem?_getD, List.getD_eq_getElem?_getD,
    ← List.head?_drop,
    ← List.head?_drop, hclear.1, head?_after, h.rest, List.drop_drop]

theorem walk_succ (inFlow : Bool) (h : p.Twin K c c') (hclear : p.Clear c c' ahead)
    (hgo : p.Clear c c' (ahead + 1) →
      p.Twin K (walk inFlow fuel (ahead + 1) c) (walk inFlow fuel' (ahead + 1) c'))
    : p.Twin K (walk inFlow fuel (ahead + 1) c) (walk inFlow fuel' (ahead + 1) c') := by
  obtain hclear | ⟨hstay, hstay'⟩ := hclear.succ h inFlow
  . exact hgo hclear
  . rw [hstay, hstay']
    exact h

theorem commentLine_twin (h : p.Twin K c c') (hclear : p.Clear c c' ahead)
    (hnumber : c.peek ahead = '#')
    : p.Twin K (stepTo (c.mark.index + ahead) (ahead + 1) c).skipToBreak
        (stepTo (c'.mark.index + ahead) (ahead + 1) c').skipToBreak ∧
      c.mark.index + ahead < (stepTo (c.mark.index + ahead) (ahead + 1) c).skipToBreak.mark.index :=
        by
  have hhead : (p.chars.drop (c.mark.index + ahead)).head? = some '#' := by
    rw [← List.drop_drop, ← h.rest]
    exact Cursor.head?_drop_of_peek hnumber (by decide)
  have hindex' : c'.mark.index + ahead = c.mark.index + ahead + p.count (c.mark.index + ahead) := by
    rw [h.mark, hclear.2]
    dsimp only [shift]
    omega
  have hwidth : c.mark.index + ahead < c.mark.index + (ahead + 1) := by omega
  obtain ⟨hstep, hindex⟩ := stepTo_twin h (Nat.le_add_right _ ahead) hclear.2 hhead hwidth
  rw [← hindex'] at hstep
  generalize stepTo (c.mark.index + ahead) (ahead + 1) c = d at hstep hindex ⊢
  have hpeek : d.peek = '#' := by
    rw [← hindex, ← hstep.rest] at hhead
    rw [Cursor.peek_eq, List.getD_eq_getElem?_getD, ← List.head?_eq_getElem?, hhead]
    rfl
  have hlt := Cursor.index_lt_skipToBreak (c := d) (by rw [hpeek]; rfl) (by rw [hpeek]; rfl)
  exact ⟨hstep.skipToBreak, by omega⟩

theorem Twin.length_add_lt {d d' : Cursor} {n : Nat} (h : p.Twin K c c') (hd : p.Twin K d d')
    (hle : c.mark.index + n < d.mark.index) (hinside : n < c.rest.length)
    : d.rest.length + n < c.rest.length ∧ d'.rest.length + n < c'.rest.length := by
  have hlength := h.length_rest
  have hlength' := hd.length_rest
  have htotal := p.length_after c.mark.index
  have htotal' := p.length_after d.mark.index
  have hmono : p.count c.mark.index ≤ p.count d.mark.index := p.count_mono (by omega)
  rw [← h.rest, ← h.rest'] at htotal
  rw [← hd.rest, ← hd.rest'] at htotal'
  omega

theorem walk_twin (inFlow : Bool) (h : p.Twin K c c') (hclear : p.Clear c c' ahead)
    (hfuel : 2 * c.rest.length + commentReach ≤ fuel + ahead)
    (hfuel' : 2 * c'.rest.length + commentReach ≤ fuel' + ahead)
    : p.Twin K (walk inFlow fuel ahead c) (walk inFlow fuel' ahead c') := by
  induction fuel generalizing fuel' ahead c c' with
  | zero =>
    rw [CommentSearch.walk_of_reach inFlow (by omega),
      CommentSearch.walk_of_reach inFlow (by omega)]
    exact h
  | succ fuel ih =>
    by_cases hreach : commentReach ≤ ahead
    . rw [CommentSearch.walk_of_reach inFlow hreach, CommentSearch.walk_of_reach inFlow hreach]
      exact h
    obtain ⟨fuel', rfl⟩ : ∃ k, fuel' = k + 1 := ⟨fuel' - 1, by omega⟩
    have hon : p.Twin K (walk inFlow fuel (ahead + 1) c) (walk inFlow fuel' (ahead + 1) c') :=
      walk_succ inFlow h hclear fun hnext => ih h hnext (by omega) (by omega)
    unfold walk
    rw [if_neg hreach, if_neg hreach, hclear.peek h]
    split
    . exact hon
    split
    . split
      . exact hon
      . exact h
    split
    . exact h
    . next hnumber =>
      simp only [bne_iff_ne, ne_eq, Decidable.not_not] at hnumber
      obtain ⟨hline, hlt⟩ := commentLine_twin h hclear hnumber
      obtain ⟨hlength, hlength'⟩ := h.length_add_lt hline hlt
        (Cursor.lt_length_of_peek hnumber (by decide))
      dsimp only
      rw [hline.peek]
      split
      . exact hline
      -- the comment line has more characters than the search has looked at, so that the fuel is
      -- enough again
      . exact walk_succ inFlow hline hline.clear fun hnext => ih hline hnext (by omega) (by omega)

theorem scanLineComment_twin (token token' : Mark) (h : p.Twin K c c')
    : p.Twin K (scanLineComment token c).2 (scanLineComment token' c').2 := by
  have hblanks := h.takeWhile (f := isBlank) rfl
  have hpeek := h.peek_of (n := (c.rest.takeWhile isBlank).length) fun k hk =>
    Twin.peek_ne_of_lt_takeWhile rfl hk
  unfold scanLineComment
  dsimp only
  rw [hblanks, hpeek, h.whole.has, h.whole'.has, h.whole.glance, h.whole'.glance]
  simp only [Nat.pos_iff_ne_zero, ne_eq, h.newlines]
  split
  . exact h
  split
  . exact h
  . exact (h.skipN fun k hk => Twin.peek_ne_of_lt_takeWhile rfl hk).skipToBreak

theorem count_scanLineComment (token : Mark) (h : p.Twin K c c')
    : p.count (scanLineComment token c).2.mark.index = p.count c.mark.index := by
  have hblanks : ∀ k < (c.rest.takeWhile isBlank).length, c.peek k ≠ '\n' := fun k hk =>
    Twin.peek_ne_of_lt_takeWhile rfl hk
  unfold scanLineComment
  dsimp only
  rw [h.whole.glance]
  split
  . rfl
  split
  . rfl
  . exact ((h.skipN hblanks).count_skipWhile rfl).trans (h.count_skipN hblanks)

/-- The comment lines between two tokens. -/
theorem scanComments_twin (scan scan' : Mark) (before before' : Token) (inFlow : Bool)
    (indent : Int) (h : p.Twin K c c')
    : p.Twin K (scanComments scan before inFlow indent c).2
      (scanComments scan' before' inFlow indent c').2 := by
  unfold scanComments
  dsimp only
  rw [CommentSearch.cursor_run h.whole, CommentSearch.cursor_run h.whole']
  exact walk_twin inFlow h h.clear (Nat.le_refl _) (Nat.le_refl _)

end Spacing
end Yaml
end YamlOrder
