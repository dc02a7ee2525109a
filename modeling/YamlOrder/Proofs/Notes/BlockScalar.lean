import YamlOrder.Proofs.Folding.Run

/-!
This module contains block scalars before the place at which two streams fork, and so the reading of
any token there: up to the fork, both readers are in step.
-/

namespace YamlOrder
namespace Yaml
namespace Cursor

variable {c : Cursor}

theorem suffix_indented (indent : Nat) (c : Cursor)
    : (scanBlockBreaks.indented indent c).rest <:+ c.rest := suffix_skipN _ c

theorem line_indented (indent : Nat) (c : Cursor)
    : (scanBlockBreaks.indented indent c).mark.line = c.mark.line := line_skipN _ c

theorem line_lt_skipLine (h : c.Whole) (hbreak : isBreak c.peek = true)
    : c.mark.line < c.skipLine.mark.line := by
  rw [h.skipLine_eq hbreak]
  exact Nat.lt_succ_self _

theorem length_nextLine_lt (h : isEnd c.peek = false)
    : c.skipToBreak.skipLine.rest.length < c.rest.length := by
  have hline := (suffix_skipWhile (!isBreakOrEnd ·) c).length_le
  cases hbreak : isBreak c.peek with
  | true =>
    have hstay : c.rest.takeWhile (!isBreakOrEnd ·) = [] :=
      takeWhile_of_peek (by simp [isBreakOrEnd, hbreak])
    have hstop : isBreak c.skipToBreak.peek = true := by
      rw [peek_eq, skipToBreak, skipWhile, hstay, rest_need]
      exact hbreak
    exact (length_skipLine_lt hstop).trans_le hline
  | false =>
    obtain ⟨cs, hrest⟩ := exists_rest_of_peek rfl (ne_endChar_of_not_isEnd h)
    have hnext : c.skipToBreak.rest.length < c.rest.length := by
      rw [skipToBreak, rest_skipWhile, hrest,
        List.dropWhile_cons_of_pos (by simp [isBreakOrEnd, hbreak, h])]
      exact Nat.lt_succ_of_le (List.dropWhile_suffix _).length_le
    exact (suffix_skipLine _).length_le.trans_lt hnext

end Cursor

section Last

variable {start : Mark} {least indent fuel deepest : Nat} {cs breaks value firstBreak : List Char}
  {last : Mark} {c : Cursor} {b : BlockBreaks} {literal leadingBlank : Bool} {chomping : Chomping}
  {s : ScannedScalar}

theorem Cursor.At.index_lt_of_length {d : Cursor} (hc : c.At cs) (hd : d.At cs)
    (h : d.rest.length < c.rest.length) : c.mark.index < d.mark.index := by
  rw [hc.rest, hd.rest, List.length_drop, List.length_drop] at h
  omega

theorem scanBlockBreaks.le_last (hc : c.At cs) (hle : last.index ≤ c.mark.index)
    (hr : go start least indent fuel breaks deepest last c = .ok b)
    : b.cursor.At cs ∧ last.index ≤ b.last.index ∧ b.last.index ≤ b.cursor.mark.index := by
  induction fuel generalizing breaks deepest last c with
  | zero =>
    cases hr
    exact ⟨hc, Nat.le_refl _, hle⟩
  | succ fuel ih =>
    have hnext : (indented indent c).At cs := hc.skipN _
    have hindex := Spacing.index_le_indented indent c
    rw [go_succ hc.toWhole] at hr
    split at hr
    . cases hr
    split at hr
    . obtain ⟨hat, hlast, hcursor⟩ := ih hnext.skipLine (Nat.le_refl _) hr
      have := hnext.index_le_skipLine
      exact ⟨hat, by omega, hcursor⟩
    . cases hr
      exact ⟨hnext, Nat.le_refl _, hle.trans hindex⟩

theorem scanBlockLines.le_last (hb : b.cursor.At cs) (hle : b.last.index ≤ b.cursor.mark.index)
    (hr : go start literal chomping fuel value firstBreak leadingBlank b = .ok s)
    : b.last.index ≤ s.token.last.index ∧
        (s = finish start literal chomping value firstBreak b ∨
          b.cursor.mark.index < s.token.last.index) := by
  induction fuel generalizing b value firstBreak leadingBlank with
  | zero =>
    cases hr
    exact ⟨Nat.le_refl _, .inl rfl⟩
  | succ fuel ih =>
    by_cases hcontent : (b.cursor.mark.column == b.indent && !isEnd b.cursor.peek) = true
    . rw [Bool.and_eq_true, beq_iff_eq, Bool.not_eq_true'] at hcontent
      obtain ⟨hcolumn, hend⟩ := hcontent
      rw [go_line hcolumn hend] at hr
      obtain ⟨next, hnext, hr⟩ := Sorter.bind_eq_ok.mp hr
      have hline : b.cursor.skipToBreak.skipLine.At cs := (hb.skipWhile _).skipLine
      have hlt := hb.index_lt_of_length hline (Cursor.length_nextLine_lt hend)
      obtain ⟨hat, hlast, hcursor⟩ := scanBlockBreaks.le_last hline (Nat.le_refl _) hnext
      obtain ⟨hnext_le, -⟩ := ih hat hcursor hr
      exact ⟨by omega, .inr (by omega)⟩
    . unfold go at hr
      dsimp only at hr
      rw [if_neg hcontent] at hr
      cases hr
      exact ⟨Nat.le_refl _, .inl rfl⟩

theorem scanBlockLines.suffix_go
    (hr : go start literal chomping fuel value firstBreak leadingBlank b = .ok s)
    : s.cursor.rest <:+ b.cursor.rest := by
  induction fuel generalizing b value firstBreak leadingBlank with
  | zero =>
    cases hr
    exact List.suffix_refl _
  | succ fuel ih =>
    unfold go at hr
    dsimp only at hr
    split at hr
    . obtain ⟨next, hnext, hr⟩ := Sorter.bind_eq_ok.mp hr
      have hline := b.cursor.skipToBreak.suffix_skipLine.trans (Cursor.suffix_skipWhile _ _)
      exact (ih hr).trans ((scanBlockBreaks.suffix_go hnext).trans hline)
    . cases hr
      exact List.suffix_refl _

end Last

namespace Fork

open Sorter (bind_eq_ok)

variable {f : Fork} {c c' : Cursor} {start start' : Mark} {least indent fuel fuel' deepest : Nat}
  {cs breaks value firstBreak : List Char} {last last' : Mark} {b b' : BlockBreaks}
  {literal leadingBlank : Bool} {chomping : Chomping} {s : ScannedScalar}

/-- The same empty lines of a block scalar. -/
structure BreaksTwin (f : Fork) (b b' : BlockBreaks) : Prop where
  cursor : f.Twin b.cursor b'.cursor
  indent : b'.indent = b.indent
  breaks : b'.breaks = b.breaks

theorem Twin.indented (h : f.Twin c c') (indent : Nat)
    : f.Twin (scanBlockBreaks.indented indent c) (scanBlockBreaks.indented indent c') := by
  have hspace (ch : Char) (hch : isBreak ch = true) : (ch == ' ') = false :=
    beq_space_of_isBlank (isBlank_of_isBreak hch)
  have hwidth : scanBlockBreaks.width indent c' = scanBlockBreaks.width indent c := by
    unfold scanBlockBreaks.width Cursor.takeWhile
    rw [h.sameLine.takeWhile hspace, h.column]
  rw [scanBlockBreaks.indented, scanBlockBreaks.indented, hwidth]
  refine h.along (.skipN fun k hk => ?_)
  exact Along.isBreak_of_lt_takeWhile hspace (hk.trans_le (scanBlockBreaks.width_le indent c))

/--
Two readers that pass the fork while they step over empty lines of a block scalar, after a certain
line.
-/
structure BreaksLeave (f : Fork) (cs : List Char) (start start' : Mark) (least indent line : Nat)
    (r r' : Except Fault BlockBreaks) (a a' : Cursor) : Prop where
  leaves : f.Leaves a a'
  place : a.At cs
  line : line < a.mark.line
  loop : ∃ n n' breaks deepest,
    r = scanBlockBreaks.go start least indent n breaks deepest a.mark a ∧
    r' = scanBlockBreaks.go start' least indent n' breaks deepest a'.mark a'

theorem Twin.breaks_go (start' last' : Mark) {line : Nat} (h : f.Twin c c') (hat : c.At cs)
    (hline : line ≤ c.mark.line) (hfuel : c.rest.length < fuel) (hfuel' : c'.rest.length < fuel')
    (hr : scanBlockBreaks.go start least indent fuel breaks deepest last c = .ok b)
    : (∃ b', scanBlockBreaks.go start' least indent fuel' breaks deepest last' c' = .ok b' ∧
          f.BreaksTwin b b' ∧ line ≤ b.cursor.mark.line) ∨
        ∃ a a', f.BreaksLeave cs start start' least indent line (.ok b)
          (scanBlockBreaks.go start' least indent fuel' breaks deepest last' c') a a' := by
  induction fuel generalizing fuel' breaks deepest last last' c c' with
  | zero => exact absurd hfuel (Nat.not_lt_zero _)
  | succ fuel ih =>
    obtain ⟨fuel', rfl⟩ : ∃ k, fuel' = k + 1 := ⟨fuel' - 1, by omega⟩
    have hnext := h.indented indent
    have hlength := (Cursor.suffix_indented indent c).length_le
    have hlength' := (Cursor.suffix_indented indent c').length_le
    have hplace : (scanBlockBreaks.indented indent c).At cs := hat.skipN _
    rw [← Cursor.line_indented indent c] at hline
    rw [scanBlockBreaks.go_succ h.whole] at hr
    rw [scanBlockBreaks.go_succ h.whole', hnext.column, hnext.peek]
    generalize scanBlockBreaks.indented indent c = d at *
    generalize scanBlockBreaks.indented indent c' = d' at *
    split at hr
    . cases hr
    next htab =>
    rw [if_neg htab]
    split at hr
    . next hbreak =>
      have hshorter := Cursor.length_skipLine_lt hbreak
      have hshorter' := Cursor.length_skipLine_lt (hnext.peek ▸ hbreak : isBreak d'.peek = true)
      have hlt := Cursor.line_lt_skipLine hnext.whole hbreak
      rw [if_pos hbreak, hnext.sameLine.lineBreak]
      obtain htwin | hleaves := hnext.skipLine_or hbreak
      . exact ih _ htwin hplace.skipLine (by omega) (by omega) (by omega) hr
      . exact .inr ⟨_, _, hleaves, hplace.skipLine, by omega, _, _, _, _, hr.symm, rfl⟩
    . next hbreak =>
      rw [if_neg hbreak]
      cases hr
      exact .inl ⟨_, rfl, ⟨hnext, rfl, rfl⟩, hline⟩

theorem Twin.nextBreaks (start' : Mark) {line : Nat} (h : f.Twin c c') (hat : c.At cs)
    (hline : line ≤ c.mark.line)
    (hr : scanBlockBreaks start least indent c.skipLine = .ok b)
    : (∃ b', scanBlockBreaks start' least indent c'.skipLine = .ok b' ∧ f.BreaksTwin b b' ∧
          line ≤ b.cursor.mark.line) ∨
        ∃ a a', f.BreaksLeave cs start start' least indent line (.ok b)
          (scanBlockBreaks start' least indent c'.skipLine) a a' := by
  have hnext (h : f.Twin c.skipLine c'.skipLine) (hline : line ≤ c.skipLine.mark.line) :=
    h.breaks_go start' c'.skipLine.mark hat.skipLine hline (Nat.lt_succ_self _)
      (Nat.lt_succ_self _) hr
  cases hbreak : isBreak c.peek with
  | true =>
    have hlt := Cursor.line_lt_skipLine h.whole hbreak
    obtain htwin | hleaves := h.skipLine_or hbreak
    . exact hnext htwin (by omega)
    . exact .inr ⟨_, _, hleaves, hat.skipLine, by omega, _, _, _, _, hr.symm, rfl⟩
  | false =>
    have hstay := h.whole.skipLine_of_not_break hbreak
    have hstay' := h.whole'.skipLine_of_not_break (by rwa [h.peek])
    exact hnext (by rwa [hstay, hstay']) (by rwa [hstay])

/-- The least indentation that the lines of a block scalar can have. -/
def lowest (least indent : Nat) : Nat := if indent = 0 then max least 1 else indent

theorem lowest_le_finish (least indent : Nat) (breaks : List Char) (deepest : Nat) (last : Mark)
    (c : Cursor)
    : lowest least indent ≤ (scanBlockBreaks.finish least indent breaks deepest last c).indent := by
  unfold lowest scanBlockBreaks.finish
  split
  . next hzero =>
    rw [hzero]
    exact Nat.le_max_right _ _
  . next hne =>
    rw [beq_eq_false_iff_ne.mpr hne]
    exact Nat.le_refl _

theorem lowest_le_indent (hc : c.Whole)
    (hr : scanBlockBreaks.go start least indent fuel breaks deepest last c = .ok b)
    (hfuel : c.rest.length < fuel) : lowest least indent ≤ b.indent := by
  induction fuel generalizing breaks deepest last c with
  | zero => exact absurd hfuel (Nat.not_lt_zero _)
  | succ fuel ih =>
    have hlength := (Cursor.suffix_indented indent c).length_le
    have hwhole : (scanBlockBreaks.indented indent c).Whole := hc.skipN _
    rw [scanBlockBreaks.go_succ hc] at hr
    split at hr
    . cases hr
    split at hr
    . next hbreak =>
      have hshorter := Cursor.length_skipLine_lt hbreak
      exact ih hwhole.skipLine hr (by omega)
    . cases hr
      exact lowest_le_finish _ _ _ _ _ _

/-- A block scalar in which the readers pass the fork, on one of its empty lines. -/
def BlockLeave (f : Fork) (cs : List Char) (start start' : Mark) (literal : Bool)
    (chomping : Chomping) (low line : Nat) (s : ScannedScalar)
    (r' : Except Fault ScannedScalar) : Prop :=
  ∃ least indent a a' next r n value firstBreak leadingBlank,
    low ≤ lowest least indent ∧ f.BreaksLeave cs start start' least indent line (.ok next) r a a' ∧
    scanBlockLines.go start literal chomping n value firstBreak leadingBlank next = .ok s ∧
    ∀ next', r = .ok next' →
      ∃ n', r' = scanBlockLines.go start' literal chomping n' value firstBreak leadingBlank next'

theorem BreaksTwin.finish (start start' : Mark) (literal : Bool) (chomping : Chomping)
    (value firstBreak : List Char) (h : f.BreaksTwin b b')
    : f.ScalarTwin (scanBlockLines.finish start literal chomping value firstBreak b)
        (scanBlockLines.finish start' literal chomping value firstBreak b') := by
  refine ⟨?_, h.cursor, rfl⟩
  unfold scanBlockLines.finish
  rw [h.breaks]

theorem BreaksTwin.lines_or (start' : Mark) {low line : Nat} (hb : f.BreaksTwin b b')
    (hat : b.cursor.At cs) (hline : line ≤ b.cursor.mark.line) (hlow : low ≤ b.indent)
    (hpos : 0 < b.indent)
    (hr : scanBlockLines.go start literal chomping fuel value firstBreak leadingBlank b = .ok s)
    (hfuel : b.cursor.rest.length < fuel) (hfuel' : b'.cursor.rest.length < fuel')
    : (∃ s', scanBlockLines.go start' literal chomping fuel' value firstBreak leadingBlank b' =
          .ok s' ∧ f.ScalarTwin s s') ∨
        f.BlockLeave cs start start' literal chomping low line s
          (scanBlockLines.go start' literal chomping fuel' value firstBreak leadingBlank b') := by
  induction fuel generalizing fuel' b b' value firstBreak leadingBlank with
  | zero => exact absurd hfuel (Nat.not_lt_zero _)
  | succ fuel ih =>
    obtain ⟨fuel', rfl⟩ : ∃ k, fuel' = k + 1 := ⟨fuel' - 1, by omega⟩
    by_cases hcontent : (b.cursor.mark.column == b.indent && !isEnd b.cursor.peek) = true
    . rw [Bool.and_eq_true, beq_iff_eq, Bool.not_eq_true'] at hcontent
      obtain ⟨hcolumn, hend⟩ := hcontent
      have hcolumn' : b'.cursor.mark.column = b'.indent := by
        rw [hb.cursor.column, hcolumn, hb.indent]
      have hsame := hb.cursor.sameLine
      have hstop := hb.cursor.along hsame.skipToBreak
      have hwords : b'.cursor.takeWhile (!isBreakOrEnd ·) =
          b.cursor.takeWhile (!isBreakOrEnd ·) :=
        hsame.takeWhile fun ch hch => by simp [isBreakOrEnd, hch]
      have hjoint : blockJoint literal leadingBlank firstBreak b' =
          blockJoint literal leadingBlank firstBreak b := by
        rw [blockJoint, hb.cursor.peek, hb.breaks]
        rfl
      rw [scanBlockLines.go_line hcolumn hend] at hr
      rw [scanBlockLines.go_line hcolumn' (by rw [hb.cursor.peek, hend]), hjoint, hb.breaks, hwords,
        hstop.sameLine.lineBreak, hb.indent, hb.cursor.peek]
      obtain ⟨next, hnext, hr⟩ := bind_eq_ok.mp hr
      have hplace : b.cursor.skipToBreak.At cs := hat.skipWhile _
      have hline' : line ≤ b.cursor.skipToBreak.mark.line := by
        rwa [hb.cursor.whole.skipToBreak, Cursor.line_skipN]
      obtain ⟨next', hnext', htwin, hline'⟩ | ⟨a, a', ha⟩ :=
        hstop.nextBreaks start' hplace hline' hnext
      . have hindent := lowest_le_indent hstop.whole.skipLine hnext (Nat.lt_succ_self _)
        rw [lowest, if_neg hpos.ne'] at hindent
        have hshort := (scanBlockBreaks.suffix_go hnext).length_le
        have hshort' := (scanBlockBreaks.suffix_go hnext').length_le
        have hshorter := Cursor.length_nextLine_lt hend
        have hshorter' := Cursor.length_nextLine_lt (hb.cursor.peek ▸ hend)
        rw [hnext']
        have hnext_at := (scanBlockBreaks.place hplace.skipLine hnext).cursor
        exact ih htwin hnext_at hline' (hlow.trans hindent) (hpos.trans_le hindent) hr (by omega)
          (by omega)
      . refine .inr ⟨_, _, a, a', next, _, _, _, _, _, ?_, ha, hr, fun next' hnext' => ?_⟩
        . rwa [lowest, if_neg hpos.ne']
        . rw [hnext']
          exact ⟨_, rfl⟩
    . unfold scanBlockLines.go at hr ⊢
      dsimp only at hr ⊢
      rw [if_neg hcontent] at hr
      rw [hb.cursor.column, hb.indent, hb.cursor.peek, if_neg hcontent]
      cases hr
      exact .inl ⟨_, rfl, hb.finish _ _ _ _ _ _⟩

theorem lowest_of_openBlock {s : Scanner} {o : BlockOpening} (ho : s.openBlock = .ok o)
    : max (o.scanner.indent + 1).toNat 1 ≤ lowest (o.scanner.indent + 1).toNat o.indent := by
  unfold Scanner.openBlock at ho
  obtain ⟨t, -, ho⟩ := bind_eq_ok.mp ho
  obtain ⟨⟨chomping, increment, c⟩, -, ho⟩ := bind_eq_ok.mp ho
  dsimp only at ho
  generalize Scanner.headerComment t.mark c = r at ho
  split at ho
  . cases ho
  . cases ho
    dsimp only
    unfold lowest
    split
    . exact Nat.le_refl _
    . next hincrement =>
      rw [beq_iff_eq] at hincrement
      rw [if_neg (by omega)]
      omega

/-- A block scalar with its header, read by two scanners, that pass the fork in it. -/
structure BlockTokenLeave (f : Fork) (cs : List Char) (s s' : Scanner) (literal : Bool)
    (t : Scanner) (o o' : BlockOpening) (scalar : ScannedScalar)
    (r' : Except Fault ScannedScalar) : Prop where
  opening : s.openBlock = .ok o
  twin : BlockOpening.Twin f s o o'
  closed : t = o.close scalar
  leave : f.BlockLeave cs o.scanner.mark o'.scanner.mark literal o.chomping
    (max (o.scanner.indent + 1).toNat 1) s.mark.line scalar r'
  closed' : s'.fetchBlockScalar literal = r' >>= fun scalar => .ok (o'.close scalar)

theorem ScannerTwin.close {o o' : BlockOpening} {scalar scalar' : ScannedScalar}
    (h : f.ScannerTwin o.scanner o'.scanner) (hs : f.ScalarTwin scalar scalar')
    : f.ScannerTwin (o.close scalar) (o'.close scalar') :=
  { h with
    cursor := hs.cursor
    keyAllowed := rfl
    tokens := List.rel_append h.tokens (.cons hs.kind .nil) }

theorem fetchBlockScalar_or {s s' t : Scanner} (h : f.ScannerTwin s s') (hat : s.cursor.At cs)
    (hc : isBreak s.cursor.peek = false) (hr : s.fetchBlockScalar literal = .ok t)
    : (∃ t', s'.fetchBlockScalar literal = .ok t' ∧ f.ScannerTwin t t') ∨
        ∃ o o' scalar r', f.BlockTokenLeave cs s s' literal t o o' scalar r' := by
  rw [Scanner.fetchBlockScalar_eq] at hr
  obtain ⟨o, ho, hr⟩ := bind_eq_ok.mp hr
  obtain ⟨b, hb, hr⟩ := bind_eq_ok.mp hr
  obtain ⟨scalar, hscalar, hr⟩ := bind_eq_ok.mp hr
  cases hr
  obtain ⟨o', ho', hO⟩ := h.openBlock hc o ho
  have hheader := (hO.scanner.cursor.skip (by rwa [hO.cursor])).along hO.along
  have hline : s.mark.line ≤ o.cursor.mark.line := by
    obtain ⟨n, -, hn, -⟩ := hO.along
    rw [hn, Cursor.line_skipN, hO.cursor]
    exact Nat.le_refl _
  have hlow := lowest_of_openBlock ho
  have hplace : o.cursor.At cs := by
    obtain ⟨n, -, hn, -⟩ := hO.along
    rw [hn, hO.cursor]
    exact (hat.skipN 1).skipN n
  have hbreaks := hheader.nextBreaks o'.scanner.mark hplace hline hb
  have hfetch' : s'.fetchBlockScalar literal =
      (do
        let b ← scanBlockBreaks o'.scanner.mark (o.scanner.indent + 1).toNat o.indent
          o'.cursor.skipLine
        scanBlockLines o'.scanner.mark literal o.chomping b) >>= fun scalar =>
          .ok (o'.close scalar) := by
    have hbreaks' : o'.breaks = scanBlockBreaks o'.scanner.mark (o.scanner.indent + 1).toNat
        o.indent o'.cursor.skipLine := by
      rw [BlockOpening.breaks, hO.scanner.indent, hO.indent]
    rw [Scanner.fetchBlockScalar_eq, ho', bind_assoc, ← hbreaks', ← hO.chomping]
    rfl
  obtain ⟨b', hb', htwin, hline'⟩ | ⟨a, a', ha⟩ := hbreaks
  . have hindent := hlow.trans (lowest_le_indent hheader.whole.skipLine hb (Nat.lt_succ_self _))
    have hstart := (scanBlockBreaks.place hplace.skipLine hb).cursor
    have hlines := htwin.lines_or o'.scanner.mark hstart hline' hindent
      (Nat.lt_of_lt_of_le Nat.zero_lt_one ((Nat.le_max_right _ _).trans hindent)) hscalar
      (Nat.lt_succ_self _) (Nat.lt_succ_self _)
    rw [hb'] at hfetch'
    obtain ⟨scalar', hscalar', hS⟩ | hleave := hlines
    . refine .inl ⟨o'.close scalar', ?_, hO.scanner.close hS⟩
      rw [hfetch']
      exact bind_eq_ok.mpr ⟨scalar', hscalar', rfl⟩
    . exact .inr ⟨o, o', scalar, _, ho, hO, rfl, hleave, hfetch'⟩
  . refine .inr ⟨o, o', scalar, _, ho, hO, rfl, ?_, hfetch'⟩
    refine ⟨_, _, a, a', b, _, _, _, _, _, hlow, ha, hscalar, fun next' hnext' => ?_⟩
    rw [hnext']
    exact ⟨_, rfl⟩

variable {s s' t : Scanner}

theorem suffix_fetchBlockScalar (h : f.ScannerTwin s s') (hc : isBreak s.cursor.peek = false)
    (hr : s.fetchBlockScalar literal = .ok t) : t.cursor.rest <:+ s.cursor.rest := by
  rw [Scanner.fetchBlockScalar_eq] at hr
  obtain ⟨o, ho, hr⟩ := bind_eq_ok.mp hr
  obtain ⟨b, hb, hr⟩ := bind_eq_ok.mp hr
  obtain ⟨scalar, hscalar, hr⟩ := bind_eq_ok.mp hr
  cases hr
  obtain ⟨o', -, hO⟩ := h.openBlock hc o ho
  have hheader : o.cursor.rest <:+ s.cursor.rest := by
    rw [← hO.cursor]
    exact hO.along.suffix.trans (Cursor.suffix_skip _)
  exact (scanBlockLines.suffix_go hscalar).trans
    ((scanBlockBreaks.suffix_go hb).trans (o.cursor.suffix_skipLine.trans hheader))

theorem BlockTokenLeave.not_before {o o' : BlockOpening} {scalar : ScannedScalar}
    {r' : Except Fault ScannedScalar} (h : f.BlockTokenLeave cs s s' literal t o o' scalar r')
    : ¬ f.Before t.cursor := by
  obtain
    ⟨least, indent, a, a', next, r, n, value, firstBreak, leadingBlank, -, hleave, hlines, -⟩ :=
    h.leave
  obtain ⟨m, m', breaks, deepest, hr, -⟩ := hleave.loop
  rw [h.closed]
  exact hleave.leaves.not_before
    ((scanBlockLines.suffix_go hlines).trans (scanBlockBreaks.suffix_go hr.symm))

/-- Whatever is read but a directive. -/
theorem fetchHere_any (h : f.ScannerTwin s s') (hat : s.cursor.At cs)
    (hc : isBreak s.cursor.peek = false)
    (hdirective : (s.mark.column == 0 && s.cursor.peek == '%') = false)
    : f.Follows s.cursor s.fetchHere s'.fetchHere := by
  refine fetchHere_follows h hdirective fun f s' h => ?_
  refine fetchContent_of h hc (fun _ _ => .of_simulates) (fetchQuoted_fork h · hc)
    (fetchPlain_fork h) fun _ literal t hr => ⟨suffix_fetchBlockScalar h hc hr, fun hbefore => ?_⟩
  obtain hstep | ⟨o, o', scalar, r', hleave⟩ := fetchBlockScalar_or h hat hc hr
  . exact hstep
  . exact absurd hbefore hleave.not_before

end Fork
end Yaml
end YamlOrder
