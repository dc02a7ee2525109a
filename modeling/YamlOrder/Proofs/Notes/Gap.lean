import Mathlib.Computability.StateTransition
import YamlOrder.Proofs.Folding.Trace

/-!
This module contains the spaces, comments and line breaks between two tokens, one step after
another. In a stream without tabs, they are what the scanner passes before it reads a token.
-/

namespace YamlOrder
namespace Yaml

open StateTransition (Reaches eval)

/-- Characters without a tab, and without one that looks like the end. -/
def Tame (cs : List Char) : Prop := '\t' ∉ cs ∧ endChar ∉ cs

theorem Tame.of_suffix {cs ds : List Char} (h : Tame cs) (hd : ds <:+ cs) : Tame ds :=
  ⟨fun hmem => h.1 (hd.mem hmem), fun hmem => h.2 (hd.mem hmem)⟩

namespace Cursor

/-- One step between two tokens: over a space, a comment or a line break. -/
def stepGap (c : Cursor) : Option Cursor :=
  if c.peek = ' ' then some c.skip
  else if c.peek = '#' then some c.skipToBreak
  else if isBreak c.peek then some c.skipLine
  else none

variable {c d : Cursor} {n : Nat}

theorem stepGap_space (h : c.peek = ' ') : c.stepGap = some c.skip := by
  rw [stepGap, if_pos h]

theorem stepGap_comment (h : c.peek = '#') : c.stepGap = some c.skipToBreak := by
  rw [stepGap, h, if_neg (by decide), if_pos rfl]

theorem stepGap_break (h : isBreak c.peek = true) : c.stepGap = some c.skipLine := by
  have hspace : c.peek ≠ ' ' := by
    intro hpeek
    rw [hpeek] at h
    cases h
  have hnumber : c.peek ≠ '#' := by
    intro hpeek
    rw [hpeek] at h
    cases h
  rw [stepGap, if_neg hspace, if_neg hnumber, if_pos h]

theorem stepGap_eq_none_iff
    : c.stepGap = none ↔ c.peek ≠ ' ' ∧ c.peek ≠ '#' ∧ isBreak c.peek = false := by
  unfold stepGap
  split
  . simp_all
  split
  . simp_all
  split
  . simp_all
  . simp_all

theorem line_skipToBreak (c : Cursor) : c.skipToBreak.mark.line = c.mark.line := by
  rw [skipToBreak, skipWhile, mark_need, line_skipN]

theorem stepGap_le (hc : c.Whole) (h : c.stepGap = some d)
    : d.Whole ∧ d.rest <:+ c.rest ∧ c.mark.line ≤ d.mark.line := by
  unfold stepGap at h
  split at h
  . cases h
    exact ⟨hc.skip, c.suffix_skip, Nat.le_refl _⟩
  split at h
  . cases h
    exact ⟨hc.skipWhile _, c.suffix_skipWhile _, (line_skipToBreak c).ge⟩
  split at h
  . next hbreak =>
    cases h
    refine ⟨hc.skipLine, c.suffix_skipLine, ?_⟩
    rw [hc.skipLine_eq hbreak]
    exact Nat.le_succ _
  . cases h

theorem le_of_reaches (hc : c.Whole) (h : Reaches stepGap c d)
    : d.Whole ∧ d.rest <:+ c.rest ∧ c.mark.line ≤ d.mark.line := by
  induction h with
  | refl => exact ⟨hc, List.suffix_refl _, Nat.le_refl _⟩
  | tail _ hstep ih =>
    obtain ⟨hwhole, hsuffix, hle⟩ := ih
    obtain ⟨hwhole', hsuffix', hle'⟩ := stepGap_le hwhole hstep
    exact ⟨hwhole', hsuffix'.trans hsuffix, hle.trans hle'⟩

theorem At.stepGap {cs : List Char} (hc : c.At cs) (h : c.stepGap = some d)
    : d.At cs ∧ c.mark.index ≤ d.mark.index := by
  unfold Cursor.stepGap at h
  split at h
  . cases h
    exact ⟨hc.skipN 1, Nat.le_succ _⟩
  split at h
  . cases h
    refine ⟨hc.skipWhile _, ?_⟩
    rw [index_skipToBreak]
    exact Nat.le_add_right _ _
  split at h
  . cases h
    exact ⟨hc.skipLine, hc.index_le_skipLine⟩
  . cases h

theorem At.reaches {cs : List Char} (hc : c.At cs) (h : Reaches Cursor.stepGap c d)
    : d.At cs ∧ c.mark.index ≤ d.mark.index := by
  induction h with
  | refl => exact ⟨hc, Nat.le_refl _⟩
  | tail _ hstep ih =>
    obtain ⟨hat, hle⟩ := ih
    obtain ⟨hat', hle'⟩ := hat.stepGap hstep
    exact ⟨hat', hle.trans hle'⟩

theorem reaches_skipN (h : ∀ k < n, c.peek k = ' ') : Reaches stepGap c (c.skipN n) := by
  induction n generalizing c with
  | zero => exact .refl
  | succ n ih =>
    refine .head (stepGap_space (h 0 (Nat.zero_lt_succ n))) (ih fun k hk => ?_)
    rw [← peek_succ]
    exact h (k + 1) (Nat.succ_lt_succ hk)

theorem newlines_skipN_of_spaces (h : ∀ k < n, c.peek k = ' ')
    : (c.skipN n).newlines = c.newlines := by
  induction n generalizing c with
  | zero => rfl
  | succ n ih =>
    have hblank : isBlank c.peek = true := by
      rw [h 0 (Nat.zero_lt_succ n)]
      rfl
    have hskip : c.skip.newlines = c.newlines := if_pos hblank
    rw [skipN, ih fun k hk => ?_, hskip]
    rw [← peek_succ]
    exact h (k + 1) (Nat.succ_lt_succ hk)

theorem peek_of_lt_takeWhile {f : Char → Bool} {k : Nat} (hk : k < (c.rest.takeWhile f).length)
    : f (c.peek k) = true := by
  have hlt : k < c.rest.length := hk.trans_le (List.takeWhile_prefix f).length_le
  have hmem : (c.rest.takeWhile f)[k] ∈ c.rest.takeWhile f := List.getElem_mem hk
  have hget : (c.rest.takeWhile f)[k] = c.peek k := by
    rw [(List.takeWhile_prefix f).getElem hk, peek_eq, List.getD_eq_getElem?_getD,
      List.getElem?_eq_getElem hlt]
    rfl
  rw [← hget]
  exact List.mem_takeWhile_imp hmem

theorem eq_space_of_isBlank (hc : Tame c.rest) (h : isBlank (c.peek n) = true)
    : c.peek n = ' ' := by
  rw [isBlank, Bool.or_eq_true, beq_iff_eq, beq_iff_eq] at h
  obtain h | h := h
  . exact h
  . have hmem := List.mem_of_mem_head? (head?_drop_of_peek h (by decide))
    exact absurd (List.mem_of_mem_drop hmem) hc.1

theorem rest_of_isEnd (hc : Tame c.rest) (h : isEnd c.peek = true) : c.rest = [] := by
  cases hrest : c.rest with
  | nil => rfl
  | cons ch cs =>
    rw [isEnd, beq_iff_eq, peek_of_rest hrest] at h
    exact absurd (by rw [hrest, h]; exact List.mem_cons_self) hc.2

end Cursor

namespace Gap

variable {start : Mark} {least fuel : Nat} {g g' : Gap} {c d : Cursor}

theorem reaches_scan (hc : c.Whole) (htame : Tame c.rest)
    (h : scan start least fuel g c = .ok (g', d)) : Reaches Cursor.stepGap c d := by
  induction fuel generalizing g c with
  | zero =>
    cases h
    exact .refl
  | succ fuel ih =>
    cases hblank : isBlank c.peek with
    | true =>
      rw [scan_blank hblank, hc.skip.need] at h
      split at h
      . cases h
      . exact .head (Cursor.stepGap_space (Cursor.eq_space_of_isBlank htame hblank))
          (ih hc.skip (htame.of_suffix c.suffix_skip) h)
    | false =>
      cases hbreak : isBreak c.peek with
      | true =>
        rw [scan_break hblank hbreak, hc.skipLine.need] at h
        exact .head (Cursor.stepGap_break hbreak)
          (ih hc.skipLine (htame.of_suffix c.suffix_skipLine) h)
      | false =>
        rw [scan_stop hblank hbreak] at h
        cases h
        exact .refl

theorem stop_scan (h : scan start least fuel g c = .ok (g', d)) (hfuel : c.rest.length < fuel)
    : isBlank d.peek = false ∧ isBreak d.peek = false := by
  induction fuel generalizing g c with
  | zero => exact absurd hfuel (Nat.not_lt_zero _)
  | succ fuel ih =>
    cases hblank : isBlank c.peek with
    | true =>
      have hshorter := Cursor.length_skip_lt (ne_endChar_of_isBlank hblank)
      rw [scan_blank hblank] at h
      split at h
      . cases h
      . exact ih h (by rw [Cursor.rest_need]; omega)
    | false =>
      cases hbreak : isBreak c.peek with
      | true =>
        have hshorter := Cursor.length_skipLine_lt hbreak
        rw [scan_break hblank hbreak] at h
        exact ih h (by rw [Cursor.rest_need]; omega)
      | false =>
        rw [scan_stop hblank hbreak] at h
        cases h
        exact ⟨hblank, hbreak⟩

theorem behind_break (hc : c.Whole) (h : scan start least fuel g c = .ok (g', d))
    (hleading : g.leading = true) (hnew : c.newlines ≠ 0)
    : g'.leading = true ∧ d.newlines ≠ 0 := by
  induction fuel generalizing g c with
  | zero =>
    cases h
    exact ⟨hleading, hnew⟩
  | succ fuel ih =>
    cases hblank : isBlank c.peek with
    | true =>
      rw [scan_blank hblank, hc.skip.need] at h
      split at h
      . cases h
      . refine ih hc.skip h ?_ ?_
        . rwa [addBlank, if_pos hleading]
        . rwa [Cursor.skip, if_pos hblank]
    | false =>
      cases hbreak : isBreak c.peek with
      | true =>
        rw [scan_break hblank hbreak, hc.skipLine.need] at h
        refine ih hc.skipLine h (leading_addBreak g _) ?_
        rw [hc.skipLine_eq hbreak]
        exact Nat.succ_ne_zero _
      | false =>
        rw [scan_stop hblank hbreak] at h
        cases h
        exact ⟨hleading, hnew⟩

theorem scan_spaces {n : Nat} {ch : Char} {x : List Char} (hc : c.Whole)
    (hleading : g.leading = true) (hrest : c.rest = List.replicate n ' ' ++ ch :: x)
    (hblank : isBlank ch = false) (hbreak : isBreak ch = false) (hfuel : n < fuel)
    : scan start least fuel g c = .ok (g, c.skipN n) := by
  induction n generalizing fuel c with
  | zero =>
    obtain ⟨fuel, rfl⟩ : ∃ k, fuel = k + 1 := ⟨fuel - 1, by omega⟩
    have hpeek := Cursor.peek_of_rest hrest
    rw [scan_stop (by rwa [hpeek]) (by rwa [hpeek])]
    rfl
  | succ n ih =>
    obtain ⟨fuel, rfl⟩ : ∃ k, fuel = k + 1 := ⟨fuel - 1, by omega⟩
    have hpeek : c.peek = ' ' := Cursor.peek_of_rest hrest
    have htab : (' ' == '\t') = false := rfl
    have hspace : isBlank ' ' = true := rfl
    rw [scan_blank (by rwa [hpeek]), hpeek, htab, Bool.and_false, if_neg Bool.false_ne_true,
      addBlank,
      if_pos hleading, hc.skip.need]
    exact ih hc.skip (by rw [Cursor.rest_skip, hrest]; rfl) (by omega)

end Gap

namespace CommentSearch

variable {fuel ahead n : Nat} {inFlow : Bool} {c : Cursor}

theorem reaches_stepTo (hc : c.Whole) (hpass : ∀ k < n, c.peek k = ' ' ∨ isBreak (c.peek k) = true)
    (hnumber : c.peek n = '#') (hfuel : n ≤ fuel)
    : Reaches Cursor.stepGap c (stepTo (c.mark.index + n) fuel c) ∧
        (stepTo (c.mark.index + n) fuel c).peek = '#' := by
  induction fuel generalizing n c with
  | zero =>
    obtain rfl : n = 0 := by omega
    exact ⟨.refl, hnumber⟩
  | succ fuel ih =>
    unfold stepTo
    cases n with
    | zero =>
      rw [if_pos (Nat.add_zero _).le]
      exact ⟨.refl, hnumber⟩
    | succ n =>
      rw [if_neg (by omega)]
      obtain hspace | hbreak := hpass 0 (Nat.zero_lt_succ n)
      . have hnot : isBreak c.peek = false := by
          rw [hspace]
          rfl
        rw [if_neg (Bool.eq_false_iff.mp hnot)]
        have hnext := ih (c := c.skip) (n := n) hc.skip
          (fun k hk => by
            rw [← Cursor.peek_succ]
            exact hpass (k + 1) (Nat.succ_lt_succ hk))
          ((Cursor.peek_succ c n).symm.trans hnumber) (by omega)
        rw [Cursor.index_skip, Nat.add_right_comm, Nat.add_assoc] at hnext
        exact ⟨.head (Cursor.stepGap_space hspace) hnext.1, hnext.2⟩
      . rw [if_pos hbreak]
        obtain ⟨w, hw, hwidth⟩ : ∃ w, (if c.atPair then 2 else 1) = w + 1 ∧ w ≤ n := by
          cases hpair : c.atPair with
          | false => exact ⟨0, rfl, Nat.zero_le n⟩
          | true =>
            refine ⟨1, rfl, Nat.one_le_iff_ne_zero.mpr ?_⟩
            rintro rfl
            rw [Cursor.atPair, hnumber, Bool.and_eq_true] at hpair
            cases hpair.2
        have hskip := hc.skipLine_eq hbreak
        rw [hw] at hskip
        have hpeek (k : Nat) : c.skipLine.peek k = c.peek (w + 1 + k) := by
          rw [hskip, Cursor.peek_eq, Cursor.peek_eq, List.getD_eq_getElem?_getD,
            List.getD_eq_getElem?_getD, List.getElem?_drop]
        have hindex : c.skipLine.mark.index + (n - w) = c.mark.index + (n + 1) := by
          rw [hskip]
          dsimp only
          omega
        have hnext := ih (c := c.skipLine) (n := n - w) hc.skipLine
          (fun k hk => by
            rw [hpeek]
            exact hpass _ (by omega))
          (by rw [hpeek, ← hnumber]; congr 1; omega) (by omega)
        rw [hindex] at hnext
        exact ⟨.head (Cursor.stepGap_break hbreak) hnext.1, hnext.2⟩

theorem walk_of_rest (h : c.rest = []) : walk inFlow fuel ahead c = c := by
  have hpeek : c.peek ahead = endChar := by rw [Cursor.peek_eq, h]; rfl
  have hblank : isBlank endChar = false := rfl
  have hend : isBreakOrEnd endChar = true := rfl
  have hbreak : isBreak endChar = false := rfl
  cases fuel with
  | zero => rfl
  | succ fuel =>
    rw [walk, hpeek, hblank, hend, hbreak, Bool.or_true, if_neg Bool.false_ne_true, if_pos rfl,
      Bool.false_and, if_neg Bool.false_ne_true, ite_self]

theorem reaches_walk (inFlow : Bool) (fuel : Nat) (hc : c.Whole) (htame : Tame c.rest)
    (hpass : ∀ k < ahead, c.peek k = ' ' ∨ isBreak (c.peek k) = true)
    : Reaches Cursor.stepGap c (walk inFlow fuel ahead c) ∧
        (isBreakOrEnd (walk inFlow fuel ahead c).peek = true ∨
          walk inFlow fuel ahead c = c ∧
            (c.peek ahead = '#' → fuel = 0 ∨ commentReach ≤ ahead)) := by
  induction fuel generalizing ahead c with
  | zero => exact ⟨.refl, .inr ⟨rfl, fun _ => .inl rfl⟩⟩
  | succ fuel ih =>
    have hon (h : c.peek ahead = ' ' ∨ isBreak (c.peek ahead) = true)
        : Reaches Cursor.stepGap c (walk inFlow fuel (ahead + 1) c) ∧
            (isBreakOrEnd (walk inFlow fuel (ahead + 1) c).peek = true ∨
              walk inFlow fuel (ahead + 1) c = c ∧
                (c.peek ahead = '#' → fuel + 1 = 0 ∨ commentReach ≤ ahead)) := by
      have hother : c.peek ahead ≠ '#' := by
        intro hnumber
        rw [hnumber] at h
        obtain h | h := h
        all_goals cases h
      have hpass' : ∀ k < ahead + 1, c.peek k = ' ' ∨ isBreak (c.peek k) = true := by
        intro k hk
        obtain hlt | rfl := Nat.lt_succ_iff_lt_or_eq.mp hk
        . exact hpass k hlt
        . exact h
      have hnext := ih hc htame hpass'
      exact ⟨hnext.1, hnext.2.imp_right fun hstay => ⟨hstay.1, fun h => absurd h hother⟩⟩
    unfold walk
    split
    . next hreach => exact ⟨.refl, .inr ⟨rfl, fun _ => .inr hreach⟩⟩
    split
    . next hblank => exact hon (.inl (Cursor.eq_space_of_isBlank htame hblank))
    split
    . next hstop =>
      split
      . next hnarrow =>
        rw [Bool.and_eq_true] at hnarrow
        exact hon (.inr hnarrow.1)
      . refine ⟨.refl, .inr ⟨rfl, fun hnumber => ?_⟩⟩
        rw [hnumber] at hstop
        cases inFlow
        all_goals cases hstop
    split
    . next hother =>
      rw [bne_iff_ne] at hother
      exact ⟨.refl, .inr ⟨rfl, fun h => absurd h hother⟩⟩
    next hnumber =>
    rw [bne_iff_ne, ne_eq, Decidable.not_not] at hnumber
    obtain ⟨hreaches, hpeek⟩ := reaches_stepTo hc hpass hnumber (Nat.le_succ ahead)
    have hline := hreaches.tail (Cursor.stepGap_comment hpeek)
    have hend := Cursor.isBreakOrEnd_skipToBreak
      (stepTo (c.mark.index + ahead) (ahead + 1) c)
    obtain ⟨hwhole, hsuffix, -⟩ := Cursor.le_of_reaches hc hline
    dsimp only
    generalize (stepTo (c.mark.index + ahead) (ahead + 1) c).skipToBreak = d at *
    split
    . exact ⟨hline, .inl hend⟩
    cases hbreak : isBreak d.peek with
    | true =>
      have hone : ∀ k < 1, d.peek k = ' ' ∨ isBreak (d.peek k) = true := by
        intro k hk
        obtain rfl : k = 0 := by omega
        exact .inr hbreak
      have hnext := ih hwhole (htame.of_suffix hsuffix) hone
      refine ⟨hline.trans hnext.1, .inl ?_⟩
      obtain hend' | ⟨heq, -⟩ := hnext.2
      . exact hend'
      . rw [heq, hend]
    | false =>
      rw [isBreakOrEnd, hbreak, Bool.false_or] at hend
      have hstay : walk inFlow fuel 1 d = d :=
        walk_of_rest (Cursor.rest_of_isEnd (htame.of_suffix hsuffix) hend)
      rw [hstay]
      exact ⟨hline, .inl (by rw [isBreakOrEnd, hend, Bool.or_true])⟩

end CommentSearch

namespace Scanner

variable {s : Scanner} {fuel : Nat}

theorem reaches_passed (hc : s.cursor.Whole) (htame : Tame s.cursor.rest) (scan : Mark)
    : Reaches Cursor.stepGap s.cursor (s.passed scan) ∧
        (s.passed scan).peek ≠ ' ' ∧ (s.passed scan).peek ≠ '#' ∧
        (isBreakOrEnd (s.passed scan).peek = false → (s.passed scan).mark.line = s.mark.line) := by
  unfold passed
  dsimp only
  generalize hblank : (fun c => c == ' ' || ((s.inFlow || !s.keyAllowed) && c == '\t')) = f
  have hf : f endChar = false := by
    rw [← hblank]
    simp [endChar]
  have hspace : f ' ' = true := by rw [← hblank]; rfl
  have hskip : Reaches Cursor.stepGap s.cursor (s.cursor.skipWhile f) := by
    rw [Cursor.skipWhile, (hc.skipN _).need]
    refine Cursor.reaches_skipN fun k hk => Cursor.eq_space_of_isBlank htame ?_
    have := Cursor.peek_of_lt_takeWhile hk
    rw [← hblank] at this
    simp only [Bool.or_eq_true, Bool.and_eq_true, isBlank] at this ⊢
    exact this.imp_right And.right
  have hstop := s.cursor.peek_skipWhile hf
  have hline : (s.cursor.skipWhile f).mark.line = s.mark.line := by
    rw [Cursor.skipWhile, Cursor.mark_need, Cursor.line_skipN]
    rfl
  obtain ⟨hwhole, hsuffix, -⟩ := Cursor.le_of_reaches hc hskip
  generalize s.cursor.skipWhile f = c at *
  split
  . next hnumber =>
    rw [beq_iff_eq] at hnumber
    rw [scanComments_cursor hwhole]
    obtain ⟨hwalk, hend⟩ := CommentSearch.reaches_walk s.inFlow
      (2 * c.rest.length + commentReach) hwhole (htame.of_suffix hsuffix)
      fun k (hk : k < 0) => absurd hk (Nat.not_lt_zero k)
    have hends : isBreakOrEnd (CommentSearch.walk s.inFlow
        (2 * c.rest.length + commentReach) 0 c).peek = true := by
      obtain hend | ⟨-, hstay⟩ := hend
      . exact hend
      . have hreach : 0 < commentReach := by decide
        obtain hfuel | hfuel := hstay hnumber
        all_goals omega
    refine ⟨hskip.trans hwalk, ?_, ?_, fun hnot => ?_⟩
    . intro h
      rw [h] at hends
      cases hends
    . intro h
      rw [h] at hends
      cases hends
    . rw [hends] at hnot
      cases hnot
  . next hnumber =>
    refine ⟨hskip, ?_, by simpa using hnumber, fun _ => hline⟩
    intro h
    rw [h, hspace] at hstop
    cases hstop

/-- The scanner passes what is between two tokens. A key is allowed behind a line break. -/
theorem exists_scanToNext (hc : s.cursor.Whole) (htame : Tame s.cursor.rest) (scan : Mark)
    (hfuel : s.cursor.rest.length < fuel)
    : ∃ d allowed l, scanToNext scan fuel s = s.resume d allowed l ∧
        d ∈ eval Cursor.stepGap s.cursor ∧
        (isEnd d.peek = false →
          allowed = (s.keyAllowed || (!s.inFlow && decide (s.mark.line < d.mark.line)))) := by
  induction fuel generalizing s with
  | zero => exact absurd hfuel (Nat.not_lt_zero _)
  | succ fuel ih =>
    obtain ⟨l, hl⟩ := scanToNext_succ fuel scan hc
    obtain ⟨hreaches, hspace, hnumber, hline⟩ := reaches_passed hc htame scan
    obtain ⟨hwhole, hsuffix, hle⟩ := Cursor.le_of_reaches hc hreaches
    rw [hl]
    generalize s.passed scan = p at *
    cases hbreak : isBreak p.peek with
    | false =>
      rw [if_neg Bool.false_ne_true]
      have hsettled := Cursor.stepGap_eq_none_iff.mpr ⟨hspace, hnumber, hbreak⟩
      refine ⟨p, _, l, rfl, StateTransition.mem_eval.mpr ⟨hreaches, hsettled⟩, fun hend => ?_⟩
      rw [hline (by rw [isBreakOrEnd, hbreak, hend]; rfl)]
      simp
    | true =>
      have hshorter := Cursor.length_skipLine_lt hbreak
      have hlength := hsuffix.length_le
      have hstep := hreaches.tail (Cursor.stepGap_break hbreak)
      rw [if_pos rfl]
      obtain ⟨d, allowed, l', hd, heval, hallowed⟩ :=
        ih (s := s.resume p.skipLine (s.keyAllowed || !s.inFlow) l) hwhole.skipLine
          (htame.of_suffix (p.suffix_skipLine.trans hsuffix))
          (by rw [cursor_resume]; omega)
      refine ⟨d, allowed, l', hd, StateTransition.reaches_eval hstep ▸ heval, fun hend => ?_⟩
      have hlater :=
        (Cursor.le_of_reaches hwhole.skipLine (StateTransition.mem_eval.mp heval).1).2.2
      rw [hwhole.skipLine_eq hbreak] at hlater
      have hlt : s.mark.line < d.mark.line := hle.trans_lt hlater
      rw [hallowed hend, decide_eq_true hlt, keyAllowed_resume, inFlow_resume, Bool.and_true]
      cases s.keyAllowed
      all_goals cases s.inFlow
      all_goals simp

end Scanner

end Yaml
end YamlOrder
