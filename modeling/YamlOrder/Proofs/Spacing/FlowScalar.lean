import YamlOrder.Proofs.Spacing.Value

/-!
This module contains what added lines do to plain and quoted scalars.
-/

namespace YamlOrder
namespace Yaml

theorem plainRun_append {r r' : List Char} (inFlow : Bool) (w : List Char)
    (hhead : r'.headD endChar = r.headD endChar) (hr : plainRun inFlow r = 0)
    (hr' : plainRun inFlow r' = 0)
    : plainRun inFlow (w ++ r') = plainRun inFlow (w ++ r) := by
  induction w with
  | nil => rw [List.nil_append, List.nil_append, hr, hr']
  | cons c w ih =>
    have hnext : (w ++ r').headD endChar = (w ++ r).headD endChar := by
      cases w with
      | nil => exact hhead
      | cons d w => rfl
    rw [List.cons_append, List.cons_append, plainRun, plainRun, hnext, ih]

theorem isBlankOrEnd_of_lt_plainRun {inFlow : Bool} {cs : List Char} {k : Nat}
    (hk : k < plainRun inFlow cs)
    : isBlankOrEnd (cs.getD k endChar) = false := by
  induction cs generalizing k with
  | nil => exact absurd hk (Nat.not_lt_zero k)
  | cons c cs ih =>
    rw [plainRun] at hk
    split at hk
    . exact absurd hk (Nat.not_lt_zero k)
    . next hplain =>
      cases k with
      | zero =>
        by_contra hblank
        rw [Bool.not_eq_false] at hblank
        exact hplain (by simp [show isBlankOrEnd c = true from hblank])
      | succ k => exact ih (Nat.lt_of_succ_lt_succ hk)

theorem not_isBreak_of_lt_plainRun {inFlow : Bool} {c : Cursor} {k : Nat}
    (hk : k < plainRun inFlow c.rest)
    : isBreak (c.peek k) = false := by
  have hend := isBlankOrEnd_of_lt_plainRun hk
  rw [← Cursor.peek_eq, isBlankOrEnd, isBreakOrEnd, Bool.or_eq_false_iff,
    Bool.or_eq_false_iff] at hend
  exact hend.2.1

namespace scanPlain

variable {inFlow : Bool} {least fuel : Nat} {c now : Cursor} {value : List Char} {g : Gap}
  {last : Mark}

/-- What follows a word: the end of the scalar, or a gap and more words. -/
def behind (inFlow : Bool) (least : Nat) (c : Cursor) (fuel : Nat) (now : Cursor)
    (value : List Char) (g : Gap) (last : Mark) : Except Fault ScannedScalar :=
  if isBlank now.peek || isBreak now.peek then do
    let (g, now) ← g.scan c.mark least (now.rest.length + 1) now
    if !inFlow && now.mark.column < least then
      return finish c now value g last
    else
      go inFlow least c fuel now value g last
  else
    .ok (finish c now value g last)

theorem go_succ (h : now.Whole)
    : go inFlow least c (fuel + 1) now value g last =
        if now.atDocumentMarker || now.peek == '#' then .ok (finish c now value g last)
        else if plainRun inFlow now.rest = 0 then behind inFlow least c fuel now value g last
        else
          behind inFlow least c fuel ((now.skipN (plainRun inFlow now.rest)).need 2)
            (value ++ g.folded ++ now.rest.take (plainRun inFlow now.rest)) {}
            ((now.skipN (plainRun inFlow now.rest)).need 2).mark := by
  rw [go, h.need]
  dsimp only
  split
  . rfl
  . by_cases hword : plainRun inFlow now.rest = 0
    . simp only [hword, beq_self_eq_true, if_true]
      rfl
    . simp only [beq_eq_false_iff_ne.mpr hword, hword, Bool.false_eq_true, if_false]
      rfl

end scanPlain

namespace scanQuoted

variable {fuel : Nat} {c now : Cursor} {acc : List Char}

/-- A quoted scalar whose value has been read, in reverse, up to its closing quote. -/
def closed (single : Bool) (c : Cursor) (acc : List Char) (now : Cursor) : ScannedScalar where
  token := ⟨.scalar (Text.ofChars acc.reverse) (style single), c.mark, now.skip.mark⟩
  cursor := now.skip

/-- The lines after the words on a line, and the gap before them. -/
def more (single : Bool) (c : Cursor) (fuel : Nat) (acc : List Char) (escaped : Bool) (now : Cursor)
    : Except Fault ScannedScalar := do
  let (g, now) ← Gap.scan c.mark 0 (now.rest.length + 1) { leading := escaped } now
  go single c fuel (g.folded.reverse ++ acc) now

/-- What follows the words on a line: the closing quote, or more lines. -/
def behind (single : Bool) (c : Cursor) (fuel : Nat) (acc : List Char) (escaped : Bool)
    (now : Cursor)
    : Except Fault ScannedScalar :=
  if now.peek == quote single then .ok (closed single c acc now)
  else more single c fuel acc escaped now

theorem go_succ {single : Bool} (h : now.Whole)
    : go single c (fuel + 1) acc now =
        if now.atDocumentMarker then .error (now.problem c.mark .documentMarkerInQuotes)
        else if isEnd now.peek then .error (now.problem c.mark .endInQuotes)
        else (do
          let (acc, escaped, d) ← scanQuotedRun c.mark single (now.rest.length + 1) acc now
          behind single c fuel acc escaped (d.need 1)) := by
  rw [go, h.need]
  rfl

theorem go_quote (h : now.Whole) (hpeek : now.peek = '"')
    : go false c (fuel + 1) acc now = .ok (closed false c acc now) := by
  have hmarker : now.atDocumentMarker = false := by
    simp [Cursor.atDocumentMarker, Cursor.atMarker, hpeek]
  have hend : isEnd '"' = false := rfl
  have hblank : isBlankOrEnd '"' = false := rfl
  rw [go, h.need, hmarker, hpeek, hend, scanQuotedRun, hpeek, hblank]
  simp [h.need, hpeek, bind, Except.bind, pure, Except.pure, quote, closed]

theorem quote_ne_newline (single : Bool) : quote single ≠ '\n' := by
  cases single
  all_goals decide

theorem style_ne_block (single : Bool) : style single ≠ .literal ∧ style single ≠ .folded := by
  cases single
  all_goals decide

end scanQuoted

namespace Spacing

/-- Two scalars after which the readers are in step. -/
structure ScalarTwin (p : Spacing) (K : Mark → Prop) (s s' : ScannedScalar) : Prop where
  token : p.TokenTwin s.token s'.token
  cursor : p.Twin K s.cursor s'.cursor
  brokeLine : s'.brokeLine = s.brokeLine

variable {p : Spacing} {K : Mark → Prop} {c c' now now' : Cursor} {v v' : List Char} {g g' : Gap}
variable {first last first' last' : Mark} {style : ScalarStyle} {fuel fuel' : Nat}

theorem tokenTwin_flow (hstyle : style ≠ .literal ∧ style ≠ .folded)
    (h : Alike (p.count last.index = p.count first.index) v v')
    : p.TokenTwin ⟨.scalar (Text.ofChars v) style, first, last⟩
      ⟨.scalar (Text.ofChars v') style, first', last'⟩ := by
  refine .scalar (h.mono ?_) style
  have hblock : (style == .literal || style == .folded) = false := by simp [hstyle]
  simp only [Spares, style?, Option.mem_def, Option.some.injEq, forall_eq', reach, hblock,
    Bool.false_and,
    Bool.false_eq_true, if_false]
  exact id

theorem Twin.plainRun (h : p.Twin K c c') (inFlow : Bool)
    : Yaml.plainRun inFlow c'.rest = Yaml.plainRun inFlow c.rest := by
  obtain ⟨w, r, r', hr, hr', -, ⟨rfl, rfl⟩ | ⟨x, x', rfl, rfl⟩⟩ := h.exists_line
  . rw [hr, hr']
  . rw [hr, hr']
    exact plainRun_append inFlow w rfl rfl rfl

theorem peek_of_lt_plainRun {inFlow : Bool} {k : Nat} (hk : k < Yaml.plainRun inFlow c.rest)
    : c.peek k ≠ '\n' := by
  intro heq
  have hbreak := not_isBreak_of_lt_plainRun hk
  rw [heq] at hbreak
  cases hbreak

/--
A moment at which a plain scalar that started at `c` is read up to `last`, with a gap after that.
-/
structure PlainTwin (p : Spacing) (K : Mark → Prop) (c now now' : Cursor) (v v' : List Char)
    (g g' : Gap) (last : Mark) : Prop where
  cursor : p.Twin K now now'
  start_le : p.count c.mark.index ≤ p.count last.index
  last_le : p.count last.index ≤ p.count now.mark.index
  value : Alike (p.count last.index = p.count c.mark.index) v v'
  gap : GapTwin (p.count now.mark.index = p.count last.index) g g'

theorem PlainTwin.finish (h : p.PlainTwin K c now now' v v' g g' last)
    : Simulates (p.ScalarTwin K) (.ok (scanPlain.finish c now v g last))
        (.ok (scanPlain.finish c' now' v' g' last')) :=
  .ok ⟨tokenTwin_flow (by decide) h.value, h.cursor, h.gap.leading⟩

theorem PlainTwin.behind (inFlow : Bool) (least : Nat) (h : p.PlainTwin K c now now' v v' g g' last)
    (hgo : ∀ g g' next next', p.PlainTwin K c next next' v v' g g' last →
      next.rest.length < now.rest.length →
      p.count now.mark.index ≤ p.count next.mark.index →
        Simulates (p.ScalarTwin K) (scanPlain.go inFlow least c fuel next v g last)
          (scanPlain.go inFlow least c' fuel' next' v' g' last'))
    : Simulates (p.ScalarTwin K) (scanPlain.behind inFlow least c fuel now v g last)
        (scanPlain.behind inFlow least c' fuel' now' v' g' last') := by
  unfold scanPlain.behind
  rw [h.cursor.peek]
  split
  . next hstart =>
    have hscan := scan_twin least c.mark c'.mark h.cursor.here h.last_le h.gap (Nat.lt_succ_self _)
      h.cursor.ample
    refine hscan.bind_of_eq ?_
    rintro ⟨g, next⟩ ⟨g', next'⟩ heq ⟨hnext, hlast, hg⟩
    have hmono : p.count now.mark.index ≤ p.count next.mark.index :=
      p.count_mono (hnext.seen now.mark (.inr rfl)).1
    have hlength := Gap.length_scan_lt (by simpa using hstart) heq
    have hround : p.PlainTwin K c next next' v v' g g' last :=
      ⟨hnext.mono fun m => .inl, h.start_le, hlast, h.value, hg⟩
    dsimp only
    rw [hround.cursor.column]
    split
    . exact hround.finish
    . exact hgo g g' next next' hround hlength hmono
  . exact h.finish

theorem PlainTwin.go (inFlow : Bool) (least : Nat) (h : p.PlainTwin K c now now' v v' g g' last)
    (hfuel : now.rest.length < fuel) (hample : p.Ample fuel fuel' now.mark.index)
    : Simulates (p.ScalarTwin K) (scanPlain.go inFlow least c fuel now v g last)
        (scanPlain.go inFlow least c' fuel' now' v' g' last') := by
  induction fuel generalizing fuel' now now' v v' g g' last last' with
  | zero => exact absurd hfuel (Nat.not_lt_zero _)
  | succ fuel ih =>
    obtain ⟨fuel', rfl⟩ := exists_fuel hample
    have hbehind {now now' : Cursor} {v v' : List Char} {g g' : Gap} {last last' : Mark}
        (h : p.PlainTwin K c now now' v v' g g' last) (hfuel : now.rest.length < fuel + 1)
        (hample : p.Ample (fuel + 1) (fuel' + 1) now.mark.index)
        : Simulates (p.ScalarTwin K) (scanPlain.behind inFlow least c fuel now v g last)
            (scanPlain.behind inFlow least c' fuel' now' v' g' last') := by
      refine h.behind inFlow least fun g g' next next' hround hlength hmono => ?_
      exact ih hround (by omega) (by unfold Ample at *; omega)
    rw [scanPlain.go_succ h.cursor.whole, scanPlain.go_succ h.cursor.whole',
      h.cursor.atDocumentMarker,
      h.cursor.peek, h.cursor.plainRun]
    split
    . exact h.finish
    split
    . exact hbehind h hfuel hample
    . have hne (k : Nat) (hk : k < Yaml.plainRun inFlow now.rest) : now.peek k ≠ '\n' :=
        peek_of_lt_plainRun hk
      have hnext := h.cursor.skipN hne
      have hcount := h.cursor.count_skipN hne
      have hfirst := h.start_le
      have hlast := h.last_le
      rw [h.cursor.take hne, hnext.whole.need, hnext.whole'.need]
      refine hbehind ⟨hnext, by omega, Nat.le_refl _, ?_, .refl _ _⟩ ?_ ?_
      . rw [hcount]
        refine (Alike.append ?_ ?_).append (.refl _ _)
        . exact h.value.mono fun heq => by omega
        . exact h.gap.folded.mono fun heq => by omega
      . rw [Cursor.rest_skipN, List.length_drop]
        omega
      . unfold Ample at *
        omega

theorem scanPlain_twin (inFlow : Bool) (least : Nat) (h : p.Twin K c c')
    : Simulates (p.ScalarTwin K) (scanPlain inFlow least c) (scanPlain inFlow least c') :=
  PlainTwin.go inFlow least ⟨h, Nat.le_refl _, Nat.le_refl _, .refl _ _, .refl _ _⟩
  (Nat.lt_succ_self _) h.ample

theorem isHexDigit_newline : isHexDigit '\n' = false := rfl

theorem Twin.map_peek {f : Char → Bool} {n : Nat} (h : p.Twin K c c') (hf : f '\n' = false)
    (hall : ((List.range n).map fun k => c.peek k).all f = true)
    : ((List.range n).map fun k => c'.peek k) = (List.range n).map fun k => c.peek k := by
  have hne (k : Nat) (hk : k < n) : c.peek k ≠ '\n' := by
    intro heq
    have := List.all_eq_true.mp hall (c.peek k) (List.mem_map_of_mem (List.mem_range.mpr hk))
    rw [heq, hf] at this
    cases this
  apply List.map_congr_left
  intro k hk
  rw [List.mem_range] at hk
  exact h.peek_of fun j hj => hne j (by omega)

theorem ofChar?_newline : Escape.ofChar? '\n' = none := rfl

theorem scanEscape_twin (start start' : Mark) (h : p.Twin K c c') (hc : c.peek = '\\')
    : Simulates (fun r r' => r'.1 = r.1 ∧ p.Twin K r.2 r'.2 ∧ c.mark.index < r.2.mark.index)
      (scanEscape start c)
        (scanEscape start' c') := by
  have hne : c.peek ≠ '\n' := by simp [hc]
  unfold scanEscape
  rw [h.peek_one hne]
  have hskip (hsome : Escape.ofChar? (c.peek 1) ≠ none) : p.Twin K c.skip.skip c'.skip.skip := by
    apply (h.skip hne).skip
    intro heq
    rw [← Cursor.peek_succ] at heq
    rw [heq] at hsome
    exact hsome ofChar?_newline
  split
  . exact .error _ _
  . next ch heq => exact .ok ⟨rfl, hskip (by simp [heq]), by simp only [Cursor.index_skip]; omega⟩
  . next n heq =>
    have hnext := hskip (by simp [heq])
    rw [hnext.whole.need, hnext.whole'.need]
    dsimp only
    split
    . next hall =>
      have hdigits (k : Nat) (hk : k < n) : c.skip.skip.peek k ≠ '\n' := by
        intro heq
        have := List.all_eq_true.mp hall _ (List.mem_map_of_mem (List.mem_range.mpr hk))
        rw [heq] at this
        cases this
      rw [hnext.map_peek isHexDigit_newline hall, if_pos hall]
      split
      . exact .error _ _
      . exact .ok
          ⟨rfl, hnext.skipN hdigits, by simp only [Cursor.index_skipN, Cursor.index_skip]; omega⟩
    . exact .error _ _

theorem ne_newline_of_not_isBlankOrEnd {ch : Char} (h : isBlankOrEnd ch = false) : ch ≠ '\n' := by
  rintro rfl
  cases h

theorem ne_endChar_of_not_isBlankOrEnd {ch : Char} (h : isBlankOrEnd ch = false)
    : ch ≠ endChar := by
  rintro rfl
  cases h

theorem scanQuotedRun_twin {q : Prop} (start start' : Mark) (single : Bool) (h : p.Twin K c c')
    (hv : Alike q v v') (hfuel : c.rest.length < fuel) (hample : p.Ample fuel fuel' c.mark.index)
    : Simulates (fun r r' => Alike q r.1 r'.1 ∧ r'.2.1 = r.2.1 ∧
          (p.Twin K r.2.2 r'.2.2 ∨ p.Late K r.2.2 r'.2.2 ∧ r.2.1 = true ∧ single = false))
        (scanQuotedRun start single fuel v c) (scanQuotedRun start' single fuel' v' c') := by
  induction fuel generalizing fuel' v v' c c' with
  | zero => exact absurd hfuel (Nat.not_lt_zero _)
  | succ fuel ih =>
    obtain ⟨fuel', rfl⟩ := exists_fuel hample
    unfold scanQuotedRun
    rw [h.peek]
    split
    . exact .ok ⟨hv, rfl, .inl h⟩
    . next hblank =>
      rw [Bool.not_eq_true] at hblank
      have hne := ne_newline_of_not_isBlankOrEnd hblank
      have hend := ne_endChar_of_not_isBlankOrEnd hblank
      have hone := h.skip hne
      have hround {d d' : Cursor} {w w' : List Char} (hd : p.Twin K d d') (hw : Alike q w w')
          (hlt : c.mark.index < d.mark.index) :=
        have hample : p.Ample fuel fuel' d.mark.index := by
          have := p.count_mono hlt.le
          unfold Ample at *
          omega
        ih hd hw (by have := h.length_lt hd hend hlt; omega) hample
      have hword := hround hone ((Alike.refl q [c.peek]).append hv) (Nat.lt_succ_self _)
      rw [hone.whole.need, hone.whole'.need, h.peek_one hne, h.whole.need, h.whole'.need]
      split
      . split
        . split
          . next hquote =>
            rw [beq_iff_eq] at hquote
            have htwo := hone.skip (by rw [← Cursor.peek_succ, hquote]; decide)
            rw [htwo.whole.need, htwo.whole'.need]
            exact hround htwo ((Alike.refl q ['\'']).append hv)
              (by simp only [Cursor.index_skip]; omega)
          . exact .ok ⟨hv, rfl, .inl h⟩
        . exact hword
      . next hmode =>
        rw [Bool.not_eq_true] at hmode
        split
        . exact .ok ⟨hv, rfl, .inl h⟩
        . split
          . next hsign =>
            split
            . obtain hnext | hlate := hone.skipLine_near
              . exact .ok ⟨hv, rfl, .inl hnext⟩
              . exact .ok ⟨hv, rfl, .inr ⟨hlate, rfl, hmode⟩⟩
            . refine (scanEscape_twin start start' h (beq_iff_eq.mp hsign)).bind ?_
              rintro ⟨ch, next⟩ ⟨_, next'⟩ ⟨rfl, hnext, hlt⟩
              dsimp only at hnext hlt ⊢
              rw [hnext.whole.need, hnext.whole'.need]
              exact hround hnext ((Alike.refl q [_]).append hv) hlt
          . exact hword

theorem quoted_closed {single : Bool} (h : p.Twin K now now')
    (hquote : now.peek = scanQuoted.quote single)
    (hv : Alike (p.count now.mark.index = p.count c.mark.index) v v')
    : Simulates (p.ScalarTwin K) (.ok (scanQuoted.closed single c v now))
        (.ok (scanQuoted.closed single c' v' now')) := by
  have hne : now.peek ≠ '\n' := by
    rw [hquote]
    exact scanQuoted.quote_ne_newline single
  refine .ok ⟨tokenTwin_flow (scanQuoted.style_ne_block single) ?_, h.skip hne, rfl⟩
  rw [Cursor.index_skip, h.count_succ hne]
  exact hv.reverse

theorem quoted_behind {single escaped : Bool} (h : p.Twin K now now')
    (hv : Alike (p.count now.mark.index = p.count c.mark.index) v v')
    (hmore : Simulates (p.ScalarTwin K) (scanQuoted.more single c fuel v escaped now)
      (scanQuoted.more single c' fuel' v' escaped now'))
    : Simulates (p.ScalarTwin K) (scanQuoted.behind single c fuel v escaped now)
        (scanQuoted.behind single c' fuel' v' escaped now') := by
  unfold scanQuoted.behind
  rw [h.peek]
  split
  . next hquote => exact quoted_closed h (beq_iff_eq.mp hquote) hv
  . exact hmore

theorem quoted_late {q : Prop} (h : p.Late K now now')
    (hstart : p.count c.mark.index < p.count now.mark.index) (hv : Alike q v v')
    (hfuel' : 0 < fuel')
    (hmore : Simulates (p.ScalarTwin K) (scanQuoted.more false c fuel v true now)
      (scanQuoted.more false c' fuel' v' true now'))
    : Simulates (p.ScalarTwin K) (scanQuoted.behind false c fuel v true now)
        (scanQuoted.behind false c' fuel' v' true now') := by
  have hquote' : (now'.peek == scanQuoted.quote false) = false := by
    rw [h.peek']
    rfl
  unfold scanQuoted.behind
  rw [hquote']
  split
  . next hquote =>
    rw [beq_iff_eq] at hquote
    have hpeek' : now'.skipLine.peek = '"' := h.skipLine.peek.trans hquote
    obtain ⟨fuel', rfl⟩ : ∃ k, fuel' = k + 1 := ⟨fuel' - 1, by omega⟩
    rw [scanQuoted.more, h.rest', List.length_cons, h.scan_eq,
      Gap.scan_stop (by rw [hpeek']; rfl) (by rw [hpeek']; rfl)]
    simp only [Bool.false_eq_true, if_false]
    change Simulates (p.ScalarTwin K) (.ok (scanQuoted.closed false c v now))
      (scanQuoted.go false c' (fuel' + 1) _ now'.skipLine)
    rw [scanQuoted.go_quote h.skipLine.whole' hpeek']
    exact quoted_closed h.skipLine hquote ⟨hv.squeeze_eq, fun heq => by omega⟩
  . exact hmore

theorem quoted_go (single : Bool) (h : p.Twin K now now')
    (hfirst : p.count c.mark.index ≤ p.count now.mark.index)
    (hv : Alike (p.count now.mark.index = p.count c.mark.index) v v')
    (hample : p.Ample fuel fuel' now.mark.index)
    : Simulates (p.ScalarTwin K) (scanQuoted.go single c fuel v now)
      (scanQuoted.go single c' fuel' v' now') := by
  induction fuel generalizing fuel' now now' v v' with
  | zero => exact .error _ _
  | succ fuel ih =>
    obtain ⟨fuel', rfl⟩ := exists_fuel hample
    rw [scanQuoted.go_succ h.whole, scanQuoted.go_succ h.whole', h.atDocumentMarker, h.peek]
    split
    . exact .error _ _
    split
    . exact .error _ _
    refine (scanQuotedRun_twin c.mark c'.mark single h.here hv (Nat.lt_succ_self _) h.ample).bind ?_
    rintro ⟨w, _, next⟩ ⟨w', escaped, next'⟩ ⟨hw, hsame, hnext⟩
    obtain rfl : escaped = _ := hsame
    dsimp only at hw hnext ⊢
    have hmore : Simulates (p.ScalarTwin K) (scanQuoted.more single c fuel w escaped next)
        (scanQuoted.more single c' fuel' w' escaped next') := by
      refine (scan_near c.mark c'.mark (m := now.mark) (.inr rfl)
        (hnext.imp_right fun h => ⟨h.1, h.2.1⟩)).bind ?_
      rintro ⟨g, after⟩ ⟨g', after'⟩ ⟨hafter, hle, hg⟩
      dsimp only at hafter hle hg ⊢
      refine ih (hafter.mono fun m => .inl) (by omega) ?_ (by unfold Ample at *; omega)
      refine Alike.append ?_ (hw.mono fun heq => by omega)
      exact hg.folded.reverse.mono fun heq => by omega
    obtain hnext | ⟨hlate, rfl, rfl⟩ := hnext
    . have hmono := p.count_mono (hnext.seen now.mark (.inr rfl)).1
      rw [hnext.whole.need, hnext.whole'.need]
      exact quoted_behind (hnext.mono fun m => .inl) (hw.mono fun heq => by omega) hmore
    . have hcount := hlate.count_lt (.inr rfl)
      have htotal := p.count_le next.mark.index
      rw [hlate.whole.need, hlate.whole'.need]
      refine quoted_late (hlate.mono fun m => .inl) (by omega) hw ?_ hmore
      unfold Ample at hample
      omega

/-- A quoted scalar. -/
theorem scanQuoted_twin (single : Bool) (h : p.Twin K c c') (hc : c.peek ≠ '\n')
    : Simulates (p.ScalarTwin K) (scanQuoted single c) (scanQuoted single c') := by
  have hnext := h.skip hc
  have hcount : p.count c.skip.mark.index = p.count c.mark.index := h.count_succ hc
  refine quoted_go single hnext hcount.ge (.refl _ _) ?_
  have := h.ample
  unfold Ample at *
  omega

end Spacing
end Yaml
end YamlOrder
