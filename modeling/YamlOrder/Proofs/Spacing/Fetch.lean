import YamlOrder.Proofs.Spacing.Scanner

/-!
This module contains the reading of a token with added lines, for each kind of token.
-/

namespace YamlOrder
namespace Yaml

namespace Scanner

variable {s : Scanner}

/-- A scanner that has passed white space and comments. -/
def resume (s : Scanner) (cursor : Cursor) (keyAllowed : Bool) (comments : List Comment)
    : Scanner :=
  { s with cursor, keyAllowed, comments }

@[simp]
theorem cursor_resume (s : Scanner) (c : Cursor) (b : Bool) (l : List Comment)
    : (s.resume c b l).cursor = c := rfl

@[simp]
theorem keyAllowed_resume (s : Scanner) (c : Cursor) (b : Bool) (l : List Comment)
    : (s.resume c b l).keyAllowed = b := rfl

@[simp]
theorem inFlow_resume (s : Scanner) (c : Cursor) (b : Bool) (l : List Comment)
    : (s.resume c b l).inFlow = s.inFlow := rfl

/--
The place after the white space and the comments that are next, before the line break behind them.
-/
def passed (scan : Mark) (s : Scanner) : Cursor :=
  let c := s.cursor.skipWhile fun c => c == ' ' || ((s.inFlow || !s.keyAllowed) && c == '\t')
  if c.peek == '#' then (scanComments scan s.footToken s.inFlow s.indent c).2 else c

theorem exists_liftEntryComment (s : Scanner) : ∃ l,
    s.liftEntryComment = { s with comments := l } := by
  unfold liftEntryComment
  split
  . dsimp only
    split
    . exact ⟨_, rfl⟩
    . exact ⟨_, rfl⟩
  . exact ⟨_, rfl⟩

theorem scanToNext_succ (fuel : Nat) (scan : Mark) (h : s.cursor.Whole)
    : ∃ l, scanToNext scan (fuel + 1) s =
        if isBreak (s.passed scan).peek then
          scanToNext scan fuel (s.resume (s.passed scan).skipLine (s.keyAllowed || !s.inFlow) l)
        else
          s.resume (s.passed scan) s.keyAllowed l := by
  rw [scanToNext]
  unfold passed
  dsimp only
  rw [h.need, h.front]
  simp only [bne_self_eq_false, Bool.and_false, Bool.false_eq_true, if_false]
  generalize s.cursor.skipWhile _ = c
  obtain ⟨l, hl⟩ := exists_liftEntryComment { s with cursor := c }
  rw [hl]
  dsimp only
  by_cases hcomment : (c.peek == '#') = true
  . refine ⟨l ++ (scanComments scan s.footToken s.inFlow s.indent c).1, ?_⟩
    simp only [hcomment, if_true]
    rfl
  . refine ⟨l, ?_⟩
    simp only [hcomment, Bool.false_eq_true, if_false]
    rfl

/-- Read the token that starts here, whichever it is. -/
def fetchHere (s : Scanner) : Except Fault Scanner :=
  if isEnd s.cursor.peek then s.fetchStreamEnd
  else if s.mark.column == 0 && s.cursor.peek == '%' then s.fetchDirective
  else if s.cursor.atMarker '-' then s.fetchDocumentMarker .documentStart
  else if s.cursor.atMarker '.' then s.fetchDocumentMarker .documentEnd
  else do
    let token := s.lineCommentMark
    let s ← s.fetchContent
    return s.takeLineComment token

/-- The scanner at the next token, with the block collections before it ended. -/
def settled (s : Scanner) : Scanner :=
  let t := scanToNext s.mark (s.cursor.rest.length + 1) s
  let u := t.unrollIndent t.mark.column s.mark
  { u with cursor := u.cursor.need 4 }

theorem fetchNext_eq (s : Scanner)
    : s.fetchNext =
        if !s.started then
          .ok ({ s with started := true }.push ⟨.streamStart, s.mark, s.mark⟩)
        else
          s.settled.fetchHere := rfl

end Scanner

namespace Spacing

variable {p : Spacing} {s s' : Scanner} {K : Mark → Prop} {c c' : Cursor} {fuel fuel' : Nat}

theorem passed_twin (scan scan' : Mark) (h : p.StateTwin s s') (hc : p.Twin K s.cursor s'.cursor)
    : p.Twin K (s.passed scan) (s'.passed scan') := by
  have hblanks :=
    hc.skipWhile (f := fun c => c == ' ' || ((s.inFlow || !s.keyAllowed) && c == '\t')) (by simp)
  unfold Scanner.passed
  rw [h.inFlow, h.keyAllowed, h.indent]
  dsimp only
  rw [hblanks.peek]
  split
  . exact scanComments_twin _ _ _ _ _ _ hblanks
  . exact hblanks

theorem ScannerTwin.resume (h : p.ScannerTwin s s') (hc : p.Twin s.keyMark c c') (b : Bool)
    (l l' : List Comment)
    : p.ScannerTwin (s.resume c b l) (s'.resume c' b l') :=
  { h with cursor := hc, keyAllowed := rfl }

theorem scanToNext_late {b : Bool} (fuel : Nat) (scan : Mark) (s : Scanner) (l : List Comment)
    (h : p.Late K c c') (hb : b = true ∨ s.flowLevel ≠ 0)
    : ∃ l', Scanner.scanToNext scan (fuel + 1) (s.resume c' b l) =
        Scanner.scanToNext scan fuel (s.resume c'.skipLine b l') := by
  have hstay (b : Bool) : (c'.skipWhile fun c => c == ' ' || (b && c == '\t')) = c' := by
    unfold Cursor.skipWhile
    rw [h.rest', List.takeWhile_cons_of_neg (by simp), List.length_nil, Cursor.skipN, h.whole'.need]
  have hpassed : (s.resume c' b l).passed scan = c' := by
    unfold Scanner.passed
    dsimp only
    rw [Scanner.cursor_resume, hstay, h.peek']
    rfl
  have hsame : (b || !s.inFlow) = b := by
    obtain rfl | hflow := hb
    . exact Bool.true_or _
    . simp [Scanner.inFlow, hflow]
  obtain ⟨l', hl'⟩ := Scanner.scanToNext_succ fuel scan (s := s.resume c' b l) h.whole'
  rw [hpassed, h.peek', Scanner.keyAllowed_resume, Scanner.inFlow_resume, hsame] at hl'
  exact ⟨l', hl'⟩

theorem scanToNext_twin (scan scan' : Mark) (h : p.ScannerTwin s s')
    (hfuel : s.cursor.rest.length < fuel) (hample : p.Ample fuel fuel' s.cursor.mark.index)
    : p.ScannerTwin (Scanner.scanToNext scan fuel s) (Scanner.scanToNext scan' fuel' s') ∧
        isBreak (Scanner.scanToNext scan fuel s).cursor.peek = false := by
  induction fuel generalizing fuel' s s' with
  | zero => exact absurd hfuel (Nat.not_lt_zero _)
  | succ fuel ih =>
    obtain ⟨fuel', rfl⟩ := exists_fuel hample
    obtain ⟨l, hl⟩ := Scanner.scanToNext_succ fuel scan h.cursor.whole
    obtain ⟨l', hl'⟩ := Scanner.scanToNext_succ fuel' scan' h.cursor.whole'
    have hpassed := passed_twin scan scan' h.toStateTwin h.cursor.here
    have hle := (hpassed.seen _ (.inr rfl)).1
    rw [hl, hl', hpassed.peek]
    cases hbreak : isBreak (s.passed scan).peek with
    | false =>
      rw [h.keyAllowed]
      exact ⟨h.resume (hpassed.mono fun m => .inl) _ l l', hbreak⟩
    | true =>
      simp only [if_true]
      have hlt := Cursor.index_lt_skipLine hpassed.whole hbreak
      have hmono := p.count_mono (hle.trans hlt.le)
      have hlength : (s.passed scan).rest.length ≤ s.cursor.rest.length := by
        rw [hpassed.length_rest, h.cursor.length_rest]
        omega
      have hend := ne_endChar_of_isBreak hbreak
      rw [h.keyAllowed, h.inFlow]
      unfold Ample at hample
      obtain hline | hlate := hpassed.skipLine hbreak
      . have := hpassed.length_lt hline hend hlt
        refine ih (h.resume (hline.mono fun m => .inl) _ l l') ?_ ?_
        . rw [Scanner.cursor_resume]
          omega
        . rw [Scanner.cursor_resume]
          unfold Ample
          omega
      . have hcount := hlate.count_lt (.inr rfl)
        have := hpassed.length_lt hlate.skipLine hend hlt
        obtain ⟨fuel', rfl⟩ : ∃ k, fuel' = k + 1 := by
          have := p.count_le (s.passed scan).skipLine.mark.index
          have := p.count_mono hle
          exact ⟨fuel' - 1, by omega⟩
        have hallowed : (s.keyAllowed || !s.inFlow) = true ∨ s'.flowLevel ≠ 0 := by
          rw [h.flowLevel]
          by_cases hflow : s.flowLevel = 0
          . exact .inl (by simp [Scanner.inFlow, hflow])
          . exact .inr hflow
        obtain ⟨l'', hl''⟩ := scanToNext_late fuel' scan' s' l' hlate hallowed
        rw [hl'']
        refine ih (h.resume (hlate.skipLine.mono fun m => .inl) _ l l'') ?_ ?_
        . rw [Scanner.cursor_resume]
          omega
        . rw [Scanner.cursor_resume]
          unfold Ample
          omega

theorem Twin.toEnd (h : p.Twin K c c') (hend : isEnd c.peek = true)
    : p.Twin K { c with mark := { c.mark with line := c.mark.line + 1, column := 0 } }
        { c' with mark := { c'.mark with line := c'.mark.line + 1, column := 0 } } := by
  constructor
  . exact h.rest
  . exact h.rest'
  . rw [h.mark]
    simp only [shift, Mark.mk.injEq, and_true, true_and]
    omega
  . exact h.newlines
  . exact ⟨h.whole.fault, h.whole.front, h.whole.short⟩
  . exact ⟨h.whole'.fault, h.whole'.front, h.whole'.short⟩
  . have hfree := h.free
    cases hrest : c.rest with
    | nil => rfl
    | cons d ds =>
      rw [hrest] at hfree
      rw [Cursor.peek_of_rest hrest] at hend
      have hd : (d == '%') = false := by
        rw [beq_eq_false_iff_ne]
        rintro rfl
        cases hend
      simpa [undirected, hd] using hfree
  . intro m hm
    obtain ⟨hindex, hline⟩ := h.seen m hm
    exact ⟨hindex, .inl (by dsimp only; omega)⟩

theorem fetchStreamEnd_twin (h : p.ScannerTwin s s') (hend : isEnd s.cursor.peek = true)
    : Simulates p.ScannerTwin s.fetchStreamEnd s'.fetchStreamEnd := by
  have hlast : p.ScannerTwin
      { s with
        cursor :=
          { s.cursor with
            mark :=
              if s.mark.column == 0 then s.mark
              else { s.mark with line := s.mark.line + 1, column := 0 } } }
      { s' with
        cursor :=
          { s'.cursor with
            mark :=
              if s'.mark.column == 0 then s'.mark
              else { s'.mark with line := s'.mark.line + 1, column := 0 } } } := by
    rw [h.column]
    split
    . exact h
    . exact h.move (h.cursor.toEnd hend)
  unfold Scanner.fetchStreamEnd
  dsimp only
  refine (removeKey_twin (hlast.unrollIndent (-1) _ _).1).bind ?_
  rintro t t' ⟨ht, -⟩
  exact .ok ((ht.allow false).push (.of_kind rfl))

theorem fetchDocumentMarker_twin {m : Char} (h : p.ScannerTwin s s') (kind : TokenKind)
    (hm : m ≠ '\n') (hmarker : s.cursor.atMarker m = true)
    : Simulates p.ScannerTwin (s.fetchDocumentMarker kind) (s'.fetchDocumentMarker kind) := by
  obtain ⟨hunroll, hcursor⟩ := h.unrollIndent (-1) s.mark s'.mark
  unfold Scanner.fetchDocumentMarker
  refine (removeKey_twin hunroll).bind ?_
  rintro t t' ⟨ht, hcursor'⟩
  refine .ok ((ht.allow false).indicator kind ?_)
  intro k hk
  dsimp only
  rw [hcursor', hcursor]
  simp only [Cursor.atMarker, Bool.and_eq_true, beq_iff_eq] at hmarker
  obtain rfl | rfl | rfl : k = 0 ∨ k = 1 ∨ k = 2 := by omega
  . rwa [hmarker.1.1.1.2]
  . rwa [hmarker.1.1.2]
  . rwa [hmarker.1.2]

theorem ScannerTwin.indicator_one (h : p.ScannerTwin s s') (kind : TokenKind)
    (hc : s.cursor.peek ≠ '\n')
    : p.ScannerTwin (s.indicator kind 1) (s'.indicator kind 1) := by
  apply h.indicator
  intro k hk
  obtain rfl : k = 0 := by omega
  exact hc

theorem fetchFlowStart_twin (h : p.ScannerTwin s s') (kind : TokenKind) (hc : s.cursor.peek ≠ '\n')
    : Simulates p.ScannerTwin (s.fetchFlowStart kind) (s'.fetchFlowStart kind) := by
  unfold Scanner.fetchFlowStart
  refine (saveKey_twin h).bind ?_
  rintro t t' ⟨ht, hcursor⟩
  have hdeeper : p.ScannerTwin
      { t with
        keys := { number := t.given + t.tokens.length, mark := t.mark } :: t.keys
        flowLevel := t.flowLevel + 1 }
      { t' with
        keys := { number := t'.given + t'.tokens.length, mark := t'.mark } :: t'.keys
        flowLevel := t'.flowLevel + 1 } := by
    refine { ht with flowLevel := ?_, keys := ?_, depth := ?_, cursor :=
      { ht.cursor with seen := ?_ } }
    . rw [ht.flowLevel]
    . rw [ht.keys, List.map_cons, key, ht.given, ht.length_tokens, ht.mark]
    . rw [List.length_cons, ht.depth]
    . rintro m ⟨k, hk, rfl⟩
      obtain rfl | hk := List.mem_cons.mp hk
      . exact .refl p _
      . exact ht.cursor.seen _ ⟨k, hk, rfl⟩
  dsimp only
  rw [ht.flowLevel] at hdeeper ⊢
  split
  . exact .error _ _
  . exact .ok ((hdeeper.allow true).indicator_one kind (by rwa [← hcursor] at hc))

theorem fetchFlowEnd_twin (h : p.ScannerTwin s s') (kind : TokenKind) (hc : s.cursor.peek ≠ '\n')
    : Simulates p.ScannerTwin (s.fetchFlowEnd kind) (s'.fetchFlowEnd kind) := by
  unfold Scanner.fetchFlowEnd
  refine (removeKey_twin h).bind ?_
  rintro t t' ⟨ht, hcursor⟩
  rw [← hcursor] at hc
  dsimp only
  rw [ht.inFlow, ht.topKey]
  split
  . next hflow =>
    have hshallower : p.ScannerTwin
        { t with
          flowLevel := t.flowLevel - 1
          keys := t.keys.tail.map fun k =>
            { k with awaited := k.awaited && k.number != t.topKey.number } }
        { t' with
          flowLevel := t'.flowLevel - 1
          keys :=
            t'.keys.tail.map fun k => { k with awaited :=
              k.awaited && k.number != (p.key t.topKey).number } } := by
      refine { ht with flowLevel := ?_, keys := ?_, depth := ?_, cursor :=
        { ht.cursor with seen := ?_ } }
      . rw [ht.flowLevel]
      . rw [ht.keys, ← List.map_tail, List.map_map, List.map_map]
        rfl
      . have := ht.depth
        have : t.flowLevel ≠ 0 := by simpa [Scanner.inFlow] using hflow
        simp only [List.length_map, List.length_tail]
        omega
      . rintro m ⟨k, hk, rfl⟩
        obtain ⟨l, hl, rfl⟩ := List.mem_map.mp hk
        exact ht.cursor.seen _ ⟨l, List.mem_of_mem_tail hl, rfl⟩
    exact .ok ((hshallower.allow false).indicator_one kind hc)
  . exact .ok ((ht.allow false).indicator_one kind hc)

theorem fetchFlowEntry_twin (h : p.ScannerTwin s s') (hc : s.cursor.peek ≠ '\n')
    : Simulates p.ScannerTwin s.fetchFlowEntry s'.fetchFlowEntry := by
  unfold Scanner.fetchFlowEntry
  refine (removeKey_twin h).bind ?_
  rintro t t' ⟨ht, hcursor⟩
  exact .ok ((ht.allow true).indicator_one _ (by rwa [← hcursor] at hc))

theorem openBlock_twin {f f' : Scanner → Except Fault Scanner} (h : p.ScannerTwin s s')
    (kind : TokenKind) (problem : Problem)
    (hf : ∀ t t', p.ScannerTwin t t' → t.cursor = s.cursor → Simulates p.ScannerTwin (f t) (f' t'))
    : Simulates p.ScannerTwin
        (if s.inFlow then pure s >>= f
          else if !s.keyAllowed then s.fail s.mark problem >>= f
          else s.rollIndent s.mark.column none kind s.mark >>= f)
        (if s'.inFlow then pure s' >>= f'
          else if !s'.keyAllowed then s'.fail s'.mark problem >>= f'
          else s'.rollIndent s'.mark.column none kind s'.mark >>= f') := by
  rw [h.inFlow, h.keyAllowed, h.column]
  split
  . exact hf s s' h rfl
  split
  . exact .error _ _
  . refine (rollIndent_twin h _ _ _ _ _).bind ?_
    rintro t t' ⟨ht, hcursor, -⟩
    exact hf t t' ht hcursor

theorem fetchBlockEntry_twin (h : p.ScannerTwin s s') (hc : s.cursor.peek ≠ '\n')
    : Simulates p.ScannerTwin s.fetchBlockEntry s'.fetchBlockEntry := by
  refine openBlock_twin h .blockSequenceStart .entryNotAllowed ?_
  intro t t' ht hcursor
  refine (removeKey_twin ht).bind ?_
  rintro u u' ⟨hu, hcursor'⟩
  exact .ok ((hu.allow true).indicator_one _ (by rwa [← hcursor, ← hcursor'] at hc))

theorem fetchKey_twin (h : p.ScannerTwin s s') (hc : s.cursor.peek ≠ '\n')
    : Simulates p.ScannerTwin s.fetchKey s'.fetchKey := by
  refine openBlock_twin h .blockMappingStart .keyNotAllowed ?_
  intro t t' ht hcursor
  refine (removeKey_twin ht).bind ?_
  rintro u u' ⟨hu, hcursor'⟩
  rw [hu.inFlow]
  exact .ok ((hu.allow _).indicator_one _ (by rwa [← hcursor, ← hcursor'] at hc))

theorem fetchValue_twin (h : p.ScannerTwin s s') (hc : s.cursor.peek ≠ '\n')
    : Simulates p.ScannerTwin s.fetchValue s'.fetchValue := by
  unfold Scanner.fetchValue
  dsimp only
  rw [h.topKey]
  refine (keyIsValid_twin h h.topKey_mem).bind ?_
  rintro valid _ rfl
  split
  . have htoken : p.TokenTwin ⟨.key, s.topKey.mark, s.topKey.mark⟩
        ⟨.key, (p.key s.topKey).mark, (p.key s.topKey).mark⟩ := .of_kind rfl
    have hkey := h.insertAt s.topKey.number htoken
    refine (rollIndent_twin hkey _ _ _ _ _).bind ?_
    rintro t t' ⟨ht, hcursor, -⟩
    have hplace : t.cursor = s.cursor := hcursor
    have hseen : p.Seen s.topKey.mark t.mark := by
      rw [Scanner.mark, hplace]
      exact h.seen_topKey
    have hdone := ht.setTopKey (k := { s.topKey with possible := false }) hseen
    exact .ok ((hdone.allow false).indicator_one _ (by rwa [← hplace] at hc))
  . refine openBlock_twin h .blockMappingStart .valueNotAllowed ?_
    intro t t' ht hcursor
    rw [ht.inFlow]
    exact .ok ((ht.allow _).indicator_one _ (by rwa [← hcursor] at hc))

theorem fetchAnchor_twin (h : p.ScannerTwin s s') (kind : Text → TokenKind)
    (hc : s.cursor.peek ≠ '\n')
    : Simulates p.ScannerTwin (s.fetchAnchor kind) (s'.fetchAnchor kind) := by
  unfold Scanner.fetchAnchor
  refine (saveKey_twin h).bind ?_
  rintro t t' ⟨ht, hcursor⟩
  refine (scanAnchor_twin ht.cursor (by rwa [hcursor])).bind ?_
  rintro ⟨name, after⟩ ⟨_, after'⟩ ⟨rfl, hafter⟩
  exact .ok (((ht.move hafter).allow false).push (.of_kind rfl))

theorem fetchTag_twin (h : p.ScannerTwin s s') (hc : s.cursor.peek ≠ '\n')
    : Simulates p.ScannerTwin s.fetchTag s'.fetchTag := by
  unfold Scanner.fetchTag
  refine (saveKey_twin h).bind ?_
  rintro t t' ⟨ht, hcursor⟩
  refine (scanTag_twin ht.cursor (by rwa [hcursor])).bind ?_
  rintro ⟨handle, suffix, after⟩ ⟨_, _, after'⟩ ⟨rfl, rfl, hafter⟩
  exact .ok (((ht.move hafter).allow false).push (.of_kind rfl))

theorem fetchQuoted_twin (h : p.ScannerTwin s s') (single : Bool) (hc : s.cursor.peek ≠ '\n')
    : Simulates p.ScannerTwin (s.fetchQuoted single) (s'.fetchQuoted single) := by
  unfold Scanner.fetchQuoted
  refine (saveKey_twin h).bind ?_
  rintro t t' ⟨ht, hcursor⟩
  refine (scanQuoted_twin single ht.cursor (by rwa [hcursor])).bind ?_
  rintro scalar scalar' ⟨htoken, hafter, -⟩
  exact .ok (((ht.move hafter).allow false).push htoken)

theorem fetchPlain_twin (h : p.ScannerTwin s s')
    : Simulates p.ScannerTwin s.fetchPlain s'.fetchPlain := by
  unfold Scanner.fetchPlain
  refine (saveKey_twin h).bind ?_
  rintro t t' ⟨ht, -⟩
  have hplain := scanPlain_twin t.inFlow (t.indent + 1).toNat ht.cursor
  nth_rewrite 2 [← ht.inFlow, ← ht.indent] at hplain
  refine hplain.bind ?_
  rintro scalar scalar' ⟨htoken, hafter, hbroke⟩
  rw [hbroke]
  exact .ok (((ht.move hafter).allow scalar.brokeLine).push htoken)

theorem startsPlain_twin (h : p.ScannerTwin s s') (hc : s.cursor.peek ≠ '\n')
    : s'.startsPlain = s.startsPlain := by
  unfold Scanner.startsPlain
  rw [h.cursor.peek, h.cursor.peek_one hc, h.inFlow]

theorem StateTwin.afterEntry (h : p.StateTwin s s')
    : (s'.tokens.getLast?.any (·.kind == .blockEntry)) =
      s.tokens.getLast?.any (·.kind == .blockEntry) := by
  have hlast := List.forall₂_reverse_iff.mpr h.tokens
  rw [← List.head?_reverse, ← List.head?_reverse]
  generalize s.tokens.reverse = l at hlast
  generalize s'.tokens.reverse = l' at hlast
  cases hlast with
  | nil => rfl
  | cons hhead _ => exact KindTwin.beq hhead (by simp)

theorem ScannerTwin.takeLineComment (h : p.ScannerTwin s s') (token token' : Mark)
    : p.ScannerTwin (s.takeLineComment token) (s'.takeLineComment token') := by
  unfold Scanner.takeLineComment
  rw [h.afterEntry]
  split
  . exact h
  . exact h.pass (scanLineComment_twin token token' h.cursor) _ _

theorem headerComment_twin (token token' : Mark) (h : p.Twin K c c')
    : p.Twin K (if c.peek == '#' then scanLineComment token c else (none, c)).2
          (if c.peek == '#' then scanLineComment token' c' else (none, c')).2 ∧
        p.count (if c.peek == '#' then scanLineComment token c else (none, c)).2.mark.index =
        p.count c.mark.index := by
  split
  . exact ⟨scanLineComment_twin token token' h, count_scanLineComment token h⟩
  . exact ⟨h, rfl⟩

theorem passComment_twin (h : p.Twin K c c')
    : p.Twin K (if c.peek == '#' then c.skipToBreak else c)
      (if c.peek == '#' then c'.skipToBreak else c') ∧
        p.count (if c.peek == '#' then c.skipToBreak else c).mark.index = p.count c.mark.index := by
  split
  . exact ⟨h.skipToBreak, h.count_skipWhile rfl⟩
  . exact ⟨h, rfl⟩

theorem fetchBlockScalar_twin (h : p.ScannerTwin s s') (literal : Bool) (hc : s.cursor.peek ≠ '\n')
    : Simulates p.ScannerTwin (s.fetchBlockScalar literal) (s'.fetchBlockScalar literal) := by
  unfold Scanner.fetchBlockScalar
  refine (removeKey_twin h).bind ?_
  rintro t t' ⟨ht, hcursor⟩
  rw [← hcursor] at hc
  have hcount := ht.cursor.count_succ hc
  have hskip := ht.cursor.skip hc
  refine (scanBlockHeader_twin t.mark t'.mark hskip.here).bind ?_
  rintro ⟨_, _, after⟩ ⟨chomping, increment, after'⟩ ⟨rfl, rfl, hafter, hheader, hkeep⟩
  dsimp only at hafter hheader hkeep ⊢
  have hblanks : p.count after.skipBlanks.mark.index = p.count t.mark.index :=
    ((hafter.count_skipWhile rfl).trans hheader).trans hcount
  obtain ⟨hcomment, hline⟩ := headerComment_twin t.mark t'.mark hafter.skipBlanks
  rw [hafter.skipBlanks.peek]
  generalize (if after.skipBlanks.peek == '#' then scanLineComment t.mark after.skipBlanks
    else (none, after.skipBlanks)) = r at hcomment hline ⊢
  generalize (if after.skipBlanks.peek == '#' then scanLineComment t'.mark after'.skipBlanks
    else (none, after'.skipBlanks)) = r' at hcomment ⊢
  obtain ⟨hend, hsame⟩ := passComment_twin hcomment
  rw [hcomment.peek]
  generalize (if r.2.peek == '#' then r.2.skipToBreak else r.2) = e at hend hsame ⊢
  generalize (if r.2.peek == '#' then r'.2.skipToBreak else r'.2) = e' at hend ⊢
  rw [hline, hblanks] at hsame
  rw [hend.peek]
  split
  . exact .throw_bind _ _ _
  -- the lines of the scalar
  have hstart : t.mark.index < e.mark.index := (hend.seen _ (.inr rfl)).1
  have hbreaks : Simulates
    (p.BreaksTwin (fun m => (t.keyMark m ∨ m = t.cursor.skip.mark) ∨ m = e.mark) e.mark.index)
      (scanBlockBreaks t.mark (t.indent + 1).toNat
        (if increment == 0 then 0 else t.indent.toNat + increment)
        e.skipLine)
      (scanBlockBreaks t'.mark (t'.indent + 1).toNat
        (if increment == 0 then 0 else t'.indent.toNat + increment)
        e'.skipLine) := by
    rw [ht.indent]
    exact scanBlockBreaks_near t.mark t'.mark (.inr rfl) hend.here.skipLine_near
  refine hbreaks.bind ?_
  rintro b b' hb
  have hchomping : chomping = .keep → p.keepsBreaks t.mark = true := by
    intro hchomping
    have := hkeep hchomping
    rwa [hskip.rest] at this
  refine (scanBlockLines_twin hb hchomping hstart hsame).bind ?_
  rintro scalar scalar' ⟨htoken, hafter, -⟩
  have hplace : p.Twin t.keyMark scalar.cursor scalar'.cursor :=
    hafter.mono fun m hm => .inl (.inl hm)
  exact .ok (((ht.pass hplace _ _).allow true).push htoken)

theorem fetchContent_twin (h : p.ScannerTwin s s') (hc : s.cursor.peek ≠ '\n')
    : Simulates p.ScannerTwin s.fetchContent s'.fetchContent := by
  unfold Scanner.fetchContent
  dsimp only
  rw [h.cursor.peek, h.cursor.peek_one hc, startsPlain_twin h hc, h.inFlow]
  split
  . exact fetchFlowStart_twin h _ hc
  . exact fetchFlowStart_twin h _ hc
  . exact fetchFlowEnd_twin h _ hc
  . exact fetchFlowEnd_twin h _ hc
  . exact fetchFlowEntry_twin h hc
  . exact fetchAnchor_twin h _ hc
  . exact fetchAnchor_twin h _ hc
  . exact fetchTag_twin h hc
  . exact fetchQuoted_twin h _ hc
  . exact fetchQuoted_twin h _ hc
  split
  . exact fetchBlockEntry_twin h hc
  split
  . exact fetchKey_twin h hc
  split
  . exact fetchValue_twin h hc
  split
  . exact fetchBlockScalar_twin h _ hc
  split
  . exact fetchBlockScalar_twin h _ hc
  split
  . exact fetchPlain_twin h
  . exact .error _ _

theorem Twin.not_directive (h : p.Twin K c c') : (c.mark.column == 0 && c.peek == '%') = false := by
  have hfree := h.free
  rw [Bool.eq_false_iff]
  intro hdirective
  rw [Bool.and_eq_true, beq_iff_eq (a := c.peek)] at hdirective
  obtain ⟨cs, hcs⟩ := Cursor.exists_rest_of_peek hdirective.2 (by decide)
  rw [hcs, hdirective.1] at hfree
  cases hfree

theorem fetchHere_twin (h : p.ScannerTwin s s') (hbreak : isBreak s.cursor.peek = false)
    : Simulates p.ScannerTwin s.fetchHere s'.fetchHere := by
  have hc : s.cursor.peek ≠ '\n' := by
    intro heq
    rw [heq] at hbreak
    cases hbreak
  have hdirective : (s.mark.column == 0 && s.cursor.peek == '%') = false := h.cursor.not_directive
  unfold Scanner.fetchHere
  rw [h.cursor.peek, h.column, hdirective, h.cursor.atMarker (by decide),
    h.cursor.atMarker (by decide)]
  simp only [Bool.false_eq_true, if_false]
  split
  . next hend => exact fetchStreamEnd_twin h hend
  split
  . next hmarker => exact fetchDocumentMarker_twin h _ (by decide) hmarker
  split
  . next hmarker => exact fetchDocumentMarker_twin h _ (by decide) hmarker
  . refine (fetchContent_twin h hc).bind ?_
    intro t t' ht
    exact .ok (ht.takeLineComment _ _)

theorem fetchNext_twin (h : p.ScannerTwin s s')
    : Simulates p.ScannerTwin s.fetchNext s'.fetchNext := by
  rw [Scanner.fetchNext_eq, Scanner.fetchNext_eq, h.started]
  split
  . have hstarted : p.ScannerTwin { s with started := true } { s' with started := true } :=
      { h with started := rfl }
    exact .ok (hstarted.push (.of_kind rfl))
  . obtain ⟨hnext, hbreak⟩ := scanToNext_twin s.mark s'.mark h (Nat.lt_succ_self _) h.cursor.ample
    unfold Scanner.settled
    dsimp only
    rw [hnext.column]
    generalize Scanner.scanToNext s.mark _ s = t at hnext hbreak ⊢
    generalize Scanner.scanToNext s'.mark _ s' = t' at hnext ⊢
    obtain ⟨hunroll, hcursor⟩ := hnext.unrollIndent t.mark.column s.mark s'.mark
    rw [← hcursor] at hbreak
    rw [hunroll.cursor.whole.need, hunroll.cursor.whole'.need]
    exact fetchHere_twin hunroll hbreak

theorem fetch_twin (h : p.ScannerTwin s s') : Simulates p.ScannerTwin s.fetch s'.fetch := by
  unfold Scanner.fetch
  dsimp only
  rw [h.cursor.whole.need, h.cursor.whole'.need, h.cursor.whole.short, h.cursor.whole'.short]
  refine (fetchNext_twin h).bind ?_
  intro t t' ht
  rw [ht.cursor.whole.short, ht.cursor.whole'.short]
  exact .ok ht

theorem ready_twin (h : p.ScannerTwin s s') : Simulates (fun b b' => b' = b) s.ready s'.ready := by
  unfold Scanner.ready
  rw [h.length_tokens, h.keys, h.given, List.find?_map]
  split
  . exact .ok rfl
  . have hsame : ((fun k : SimpleKey => k.possible && k.awaited && k.number == s.given) ∘ p.key) =
        fun k => k.possible && k.awaited && k.number == s.given := rfl
    rw [hsame]
    cases hfind : s.keys.find? fun k => k.possible && k.awaited && k.number == s.given with
    | none => exact .ok rfl
    | some k =>
      refine (keyIsValid_twin h (List.mem_of_find?_eq_some hfind)).bind ?_
      rintro valid _ rfl
      exact .ok rfl

/-- The tokens of the first stream are those that come first in the second one. -/
inductive ItemsTwin (p : Spacing) : List TokenItem → List TokenItem → Prop where
  | nil (l' : List TokenItem) : ItemsTwin p [] l'
  | cons {i i' : TokenItem} {l l' : List TokenItem} (h : p.TokenTwin i.token i'.token)
      (hs : ItemsTwin p l l')
    : ItemsTwin p (i :: l) (i' :: l')

end Spacing

theorem Scanner.items_run (fuel : Nat) (s : Scanner) (items : List TokenItem)
    : (run fuel s items).items = items.reverse ++ (run fuel s []).items := by
  induction fuel generalizing s items with
  | zero => simp [run]
  | succ fuel ih =>
    unfold run
    split
    . simp
    . split
      . simp
      . exact ih _ _
    . split
      . simp
      . dsimp only
        split
        . simp
        . rw [ih, ih _ [_]]
          simp

namespace Spacing

variable {p : Spacing} {s s' : Scanner} {fuel fuel' : Nat}

theorem run_twin (h : p.ScannerTwin s s') (hfuel : fuel ≤ fuel')
    : p.ItemsTwin (Scanner.run fuel s []).items (Scanner.run fuel' s' []).items := by
  induction fuel generalizing fuel' s s' with
  | zero => exact .nil _
  | succ fuel ih =>
    obtain ⟨fuel', rfl⟩ : ∃ k, fuel' = k + 1 := ⟨fuel' - 1, by omega⟩
    unfold Scanner.run
    cases hready : s.ready with
    | error e => exact .nil _
    | ok _ =>
      obtain ⟨ready, hready', rfl⟩ := ready_twin h _ hready
      rw [hready']
      cases ready with
      | false =>
        cases hfetch : s.fetch with
        | error e => exact .nil _
        | ok t =>
          obtain ⟨t', hfetch', ht⟩ := fetch_twin h _ hfetch
          rw [hfetch']
          exact ih ht (by omega)
      | true =>
        have htokens := h.tokens
        dsimp only
        generalize htoken : s.tokens = l at htokens
        generalize s'.tokens = l' at htokens
        cases htokens with
        | nil => exact .nil _
        | cons ht hrest =>
          dsimp only
          rw [ht.beq (by simp)]
          split
          . exact .cons ht (.nil _)
          . rw [Scanner.items_run, Scanner.items_run _ _ [_]]
            refine .cons ht (ih ?_ (by omega))
            exact { h with given := by rw [h.given], tokens := hrest }

theorem start_twin (p : Spacing) (hfree : undirected true p.chars = true)
    : p.ScannerTwin { cursor := { rest := p.chars } } { cursor := { rest := p.after 0 } } := by
  refine ⟨⟨rfl, rfl, rfl, rfl, rfl, rfl, rfl, rfl, .nil⟩, ?_⟩
  refine ⟨rfl, rfl, rfl, Iff.rfl, ⟨rfl, rfl, rfl⟩, ⟨rfl, rfl, rfl⟩, hfree, ?_⟩
  rintro m ⟨k, hk, rfl⟩
  obtain rfl := List.mem_singleton.mp hk
  exact .refl p _

/-- The tokens of a stream come first among those of the stream with the added lines. -/
theorem ofSource_twin (p : Spacing) (front front' : Nat) (hfree : undirected true p.chars = true)
    (hfirst : p.chars.head?.any isByteOrderMark = false)
    : p.ItemsTwin (TokenStream.ofSource { chars := p.chars, fault := none, front }).items
        (TokenStream.ofSource { chars := p.after 0, fault := none, front := front' }).items := by
  have hlength := p.length_after 0
  have hhead : (p.after 0).head? = p.chars.head? := p.head?_after 0
  have hcount := p.count_le 0
  unfold TokenStream.ofSource
  dsimp only
  rw [hhead, hfirst]
  refine run_twin (p.start_twin hfree) ?_
  simp only [List.length_nil, List.drop_zero] at *
  omega

end Spacing
end Yaml
end YamlOrder
