import YamlOrder.Proofs.Folding.Scanner

/-!
This module contains the reading of a token before the place at which two streams fork, for each
kind of token but block scalars. The token is of the same kind in both.
-/

namespace YamlOrder
namespace Yaml
namespace Fork

open Sorter (bind_eq_ok)

variable {f : Fork} {s s' : Scanner}

theorem fetchStreamEnd_fork (h : f.ScannerTwin s s')
    : Simulates (f.After s.cursor) s.fetchStreamEnd s'.fetchStreamEnd := by
  have hlast : f.ScannerTwin
      { s with
        cursor :=
          { s.cursor with
            mark :=
              if s.mark.column == 0 then s.mark
              else { s.mark with line := s.mark.line + 1, column := 0 } } }
      { s' with
        cursor :=
          { s'.cursor with
            mark :=
              if s'.mark.column == 0 then s'.mark
              else { s'.mark with line := s'.mark.line + 1, column := 0 } } } := by
    have hwhole := h.cursor.whole
    have hwhole' := h.cursor.whole'
    have hmark : s'.mark = f.shift s.mark := h.cursor.mark
    have hfloor : f.floor ≤ s.mark.line := h.cursor.floor
    have hfloor' : f.floor' ≤ s'.mark.line := h.cursor.floor'
    refine h.move ⟨h.cursor.rest, ?_, ?_, ?_, h.cursor.newlines,
      ⟨hwhole.fault, hwhole.front, hwhole.short⟩, ⟨hwhole'.fault, hwhole'.front, hwhole'.short⟩⟩
    . rw [h.column, hmark]
      dsimp only
      split
      . rfl
      . simp only [shift, Mark.mk.injEq, and_true, true_and]
        omega
    . dsimp only
      split
      . exact hfloor
      . exact Nat.le_succ_of_le hfloor
    . dsimp only
      split
      . exact hfloor'
      . exact Nat.le_succ_of_le hfloor'
  unfold Scanner.fetchStreamEnd
  dsimp only
  obtain ⟨hunroll, hcursor⟩ := hlast.unrollIndent (-1) _ _
  refine (removeKey_fork hunroll).bind ?_
  rintro t t' ⟨ht, hcursor'⟩
  refine .ok ⟨(ht.allow false).push rfl, ?_⟩
  show t.cursor.rest <:+ _
  simp only [hcursor', hcursor, List.suffix_refl]

theorem fetchDocumentMarker_fork {m : Char} (h : f.ScannerTwin s s') (kind : TokenKind)
    (hm : isBreak m = false) (hmarker : s.cursor.atMarker m = true)
    : Simulates (f.After s.cursor) (s.fetchDocumentMarker kind) (s'.fetchDocumentMarker kind) := by
  obtain ⟨hunroll, hcursor⟩ := h.unrollIndent (-1) s.mark s'.mark
  unfold Scanner.fetchDocumentMarker
  refine (removeKey_fork hunroll).bind ?_
  rintro t t' ⟨ht, hcursor'⟩
  rw [← hcursor, ← hcursor']
  refine .ok ((ht.allow false).indicator kind ?_)
  intro k hk
  dsimp only
  rw [hcursor', hcursor]
  simp only [Cursor.atMarker, Bool.and_eq_true, beq_iff_eq] at hmarker
  obtain rfl | rfl | rfl : k = 0 ∨ k = 1 ∨ k = 2 := by omega
  . rwa [hmarker.1.1.1.2]
  . rwa [hmarker.1.1.2]
  . rwa [hmarker.1.2]

theorem fetchFlowStart_fork (h : f.ScannerTwin s s') (kind : TokenKind)
    (hc : isBreak s.cursor.peek = false)
    : Simulates (f.After s.cursor) (s.fetchFlowStart kind) (s'.fetchFlowStart kind) := by
  unfold Scanner.fetchFlowStart
  refine (saveKey_fork h).bind ?_
  rintro t t' ⟨ht, hcursor⟩
  have hdeeper : f.ScannerTwin
      { t with
        keys := { number := t.given + t.tokens.length, mark := t.mark } :: t.keys
        flowLevel := t.flowLevel + 1 }
      { t' with
        keys := { number := t'.given + t'.tokens.length, mark := t'.mark } :: t'.keys
        flowLevel := t'.flowLevel + 1 } := by
    refine { ht with flowLevel := ?_, keys := ?_ }
    . rw [ht.flowLevel]
    . refine .cons ⟨rfl, rfl, ?_, rfl, fun h => by cases h⟩ ht.keys
      rw [ht.given, ht.length_tokens]
  dsimp only
  rw [ht.flowLevel] at hdeeper ⊢
  rw [← hcursor] at hc ⊢
  split
  . exact .error _ _
  . exact .ok ((hdeeper.allow true).indicator_one kind hc)

theorem fetchFlowEnd_fork (h : f.ScannerTwin s s') (kind : TokenKind)
    (hc : isBreak s.cursor.peek = false)
    : Simulates (f.After s.cursor) (s.fetchFlowEnd kind) (s'.fetchFlowEnd kind) := by
  unfold Scanner.fetchFlowEnd
  refine (removeKey_fork h).bind ?_
  rintro t t' ⟨ht, hcursor⟩
  rw [← hcursor] at hc ⊢
  dsimp only
  rw [ht.inFlow, ht.topKey.number]
  split
  . have hshallower : f.ScannerTwin
        { t with
          flowLevel := t.flowLevel - 1
          keys := t.keys.tail.map fun k =>
            { k with awaited := k.awaited && k.number != t.topKey.number } }
        { t' with
          flowLevel := t'.flowLevel - 1
          keys := t'.keys.tail.map fun k =>
            { k with awaited := k.awaited && k.number != t.topKey.number } } := by
      refine { ht with flowLevel := ?_, keys := ?_ }
      . rw [ht.flowLevel]
      . rw [List.forall₂_map_left_iff, List.forall₂_map_right_iff]
        refine ht.lowerKeys.imp fun k k' hk => ⟨hk.possible, hk.required, hk.number, ?_, hk.mark⟩
        rw [hk.awaited, hk.number]
    exact .ok ((hshallower.allow false).indicator_one kind hc)
  . exact .ok ((ht.allow false).indicator_one kind hc)

theorem fetchFlowEntry_fork (h : f.ScannerTwin s s') (hc : isBreak s.cursor.peek = false)
    : Simulates (f.After s.cursor) s.fetchFlowEntry s'.fetchFlowEntry := by
  unfold Scanner.fetchFlowEntry
  refine (removeKey_fork h).bind ?_
  rintro t t' ⟨ht, hcursor⟩
  rw [← hcursor] at hc ⊢
  exact .ok ((ht.allow true).indicator_one _ hc)

theorem openBlock_fork {g g' : Scanner → Except Fault Scanner} (h : f.ScannerTwin s s')
    (kind : TokenKind) (problem : Problem)
    (hg : ∀ t t', f.ScannerTwin t t' → t.cursor = s.cursor →
      Simulates (f.After s.cursor) (g t) (g' t'))
    : Simulates (f.After s.cursor)
        (if s.inFlow then pure s >>= g
          else if !s.keyAllowed then s.fail s.mark problem >>= g
          else s.rollIndent s.mark.column none kind s.mark >>= g)
        (if s'.inFlow then pure s' >>= g'
          else if !s'.keyAllowed then s'.fail s'.mark problem >>= g'
          else s'.rollIndent s'.mark.column none kind s'.mark >>= g') := by
  rw [h.inFlow, h.keyAllowed, h.column]
  split
  . exact hg s s' h rfl
  split
  . exact .error _ _
  . refine (rollIndent_fork h rfl rfl _ _ _).bind ?_
    rintro t t' ⟨ht, hcursor⟩
    exact hg t t' ht hcursor

theorem fetchBlockEntry_fork (h : f.ScannerTwin s s') (hc : isBreak s.cursor.peek = false)
    : Simulates (f.After s.cursor) s.fetchBlockEntry s'.fetchBlockEntry := by
  refine openBlock_fork h .blockSequenceStart .entryNotAllowed ?_
  intro t t' ht hcursor
  refine (removeKey_fork ht).bind ?_
  rintro u u' ⟨hu, hcursor'⟩
  rw [← hcursor, ← hcursor'] at hc ⊢
  exact .ok ((hu.allow true).indicator_one _ hc)

theorem fetchKey_fork (h : f.ScannerTwin s s') (hc : isBreak s.cursor.peek = false)
    : Simulates (f.After s.cursor) s.fetchKey s'.fetchKey := by
  refine openBlock_fork h .blockMappingStart .keyNotAllowed ?_
  intro t t' ht hcursor
  refine (removeKey_fork ht).bind ?_
  rintro u u' ⟨hu, hcursor'⟩
  rw [← hcursor, ← hcursor'] at hc ⊢
  rw [hu.inFlow]
  exact .ok ((hu.allow _).indicator_one _ hc)

theorem fetchValue_fork (h : f.ScannerTwin s s') (hc : isBreak s.cursor.peek = false)
    : Simulates (f.After s.cursor) s.fetchValue s'.fetchValue := by
  have hk := h.topKey
  unfold Scanner.fetchValue
  dsimp only
  refine (hk.keyIsValid h.cursor.agree).bind ?_
  rintro valid _ ⟨rfl, hvalid⟩
  split
  . next hdone =>
    obtain ⟨hmoved, hreach⟩ := hvalid hdone
    have hinsert : f.ScannerTwin (s.insertAt s.topKey.number ⟨.key, s.topKey.mark, s.topKey.mark⟩)
        (s'.insertAt s'.topKey.number ⟨.key, s'.topKey.mark, s'.topKey.mark⟩) :=
          h.insertAt hk.number rfl
    have hcolumn : s'.topKey.mark.column = s.topKey.mark.column := by
      obtain hmark | ⟨hearly, -⟩ := hmoved
      . rw [hmark, shift]
      . exact absurd (h.cursor.floor.trans hreach.1) (Nat.not_le_of_lt hearly)
    refine (rollIndent_fork hinsert hcolumn (by rw [hk.number]) _ _ _).bind ?_
    rintro t t' ⟨ht, hcursor⟩
    have hplace : t.cursor = s.cursor := hcursor
    rw [← hplace] at hc ⊢
    exact .ok (((ht.setTopKey hk.close).allow false).indicator_one _ hc)
  . refine openBlock_fork h .blockMappingStart .valueNotAllowed ?_
    intro t t' ht hcursor
    rw [← hcursor] at hc ⊢
    rw [ht.inFlow]
    exact .ok ((ht.allow _).indicator_one _ hc)

theorem fetchAnchor_fork (h : f.ScannerTwin s s') (kind : Text → TokenKind)
    (hc : isBreak s.cursor.peek = false)
    : Simulates (f.After s.cursor) (s.fetchAnchor kind) (s'.fetchAnchor kind) := by
  unfold Scanner.fetchAnchor
  refine (saveKey_fork h).bind ?_
  rintro t t' ⟨ht, hcursor⟩
  rw [← hcursor] at hc ⊢
  refine (scanAnchor_line ht.cursor.sameLine hc).bind ?_
  rintro ⟨name, after⟩ ⟨_, after'⟩ ⟨rfl, hafter⟩
  exact .ok ⟨((ht.move (ht.cursor.along hafter)).allow false).push rfl, hafter.suffix⟩

theorem fetchTag_fork (h : f.ScannerTwin s s') (hc : isBreak s.cursor.peek = false)
    : Simulates (f.After s.cursor) s.fetchTag s'.fetchTag := by
  unfold Scanner.fetchTag
  refine (saveKey_fork h).bind ?_
  rintro t t' ⟨ht, hcursor⟩
  rw [← hcursor] at hc ⊢
  refine (scanTag_line ht.cursor.sameLine hc).bind ?_
  rintro ⟨handle, suffix, after⟩ ⟨_, _, after'⟩ ⟨rfl, rfl, hafter⟩
  exact .ok ⟨((ht.move (ht.cursor.along hafter)).allow false).push rfl, hafter.suffix⟩

theorem ScannerTwin.takeLineComment (h : f.ScannerTwin s s') (token token' : Mark)
    : f.After s.cursor (s.takeLineComment token) (s'.takeLineComment token') := by
  unfold Scanner.takeLineComment
  rw [h.afterEntry]
  split
  . exact ⟨h, List.suffix_refl _⟩
  . have halong := scanLineComment_line token token' h.cursor.sameLine
    exact ⟨h.pass (h.cursor.along halong) _ _, halong.suffix⟩

/--
If the first reading ends before the place at which the streams fork, then the second one ends in
step with it. In any case it ends at or after a place.
-/
def Follows (f : Fork) (c : Cursor) (r r' : Except Fault Scanner) : Prop :=
  ∀ t, r = .ok t → t.cursor.rest <:+ c.rest ∧
  (f.Before t.cursor → ∃ t', r' = .ok t' ∧ f.ScannerTwin t t')

theorem Follows.of_simulates {c : Cursor} {r r' : Except Fault Scanner}
    (h : Simulates (f.After c) r r')
    : f.Follows c r r' := by
  intro t hr
  obtain ⟨t', hr', ht, hsuffix⟩ := h t hr
  exact ⟨hsuffix, fun _ => ⟨t', hr', ht⟩⟩

theorem fetchQuoted_fork (h : f.ScannerTwin s s') (single : Bool)
    (hc : isBreak s.cursor.peek = false)
    : f.Follows s.cursor (s.fetchQuoted single) (s'.fetchQuoted single) := by
  intro t hr
  unfold Scanner.fetchQuoted at hr ⊢
  obtain ⟨u, hsave, hr⟩ := bind_eq_ok.mp hr
  obtain ⟨u', hsave', hu, hcursor⟩ := saveKey_fork h u hsave
  obtain ⟨scalar, hscalar, hr⟩ := bind_eq_ok.mp hr
  cases hr
  rw [← hcursor] at hc ⊢
  refine ⟨suffix_scanQuoted hscalar, fun hd => ?_⟩
  obtain ⟨scalar', hscalar', hs⟩ := hu.cursor.scanQuoted hc scalar hscalar hd
  refine ⟨_, ?_, ((hu.move hs.cursor).allow false).push hs.kind⟩
  exact bind_eq_ok.mpr ⟨u', hsave', bind_eq_ok.mpr ⟨scalar', hscalar', rfl⟩⟩

theorem fetchPlain_fork (h : f.ScannerTwin s s')
    : f.Follows s.cursor s.fetchPlain s'.fetchPlain := by
  intro t hr
  unfold Scanner.fetchPlain at hr ⊢
  obtain ⟨u, hsave, hr⟩ := bind_eq_ok.mp hr
  obtain ⟨u', hsave', hu, hcursor⟩ := saveKey_fork h u hsave
  obtain ⟨scalar, hscalar, hr⟩ := bind_eq_ok.mp hr
  cases hr
  rw [← hcursor]
  refine ⟨suffix_scanPlain hscalar, fun hd => ?_⟩
  obtain ⟨scalar', hscalar', hs⟩ := hu.cursor.scanPlain scalar hscalar hd
  refine ⟨_, ?_, ((hu.move hs.cursor).allow scalar.brokeLine).push hs.kind⟩
  refine bind_eq_ok.mpr ⟨u', hsave', bind_eq_ok.mpr ⟨scalar', ?_, by rw [hs.brokeLine]; rfl⟩⟩
  rw [hu.inFlow, hu.indent]
  exact hscalar'

theorem ScannerTwin.startsPlain (h : f.ScannerTwin s s') (hc : isBreak s.cursor.peek = false)
    : s'.startsPlain = s.startsPlain := by
  unfold Scanner.startsPlain
  rw [h.cursor.peek, h.cursor.sameLine.peek_one hc, h.inFlow]

end Fork

/-- Whether a block scalar starts here. -/
def Scanner.startsBlock (s : Scanner) : Bool :=
    (s.cursor.peek == '|' || s.cursor.peek == '>') && !s.inFlow

namespace Fork

open Sorter (bind_eq_ok)

variable {f : Fork} {s s' : Scanner}

section

variable {R : Except Fault Scanner → Except Fault Scanner → Prop}

theorem fetchContent_of (h : f.ScannerTwin s s') (hc : isBreak s.cursor.peek = false)
    (hone : ∀ r r', Simulates (f.After s.cursor) r r' → R r r')
    (hquoted : ∀ single, R (s.fetchQuoted single) (s'.fetchQuoted single))
    (hplain : R s.fetchPlain s'.fetchPlain)
    (hblock : s.startsBlock = true → ∀ literal,
      R (s.fetchBlockScalar literal) (s'.fetchBlockScalar literal))
    : R s.fetchContent s'.fetchContent := by
  unfold Scanner.fetchContent
  dsimp only
  rw [h.cursor.peek, h.cursor.sameLine.peek_one hc, h.startsPlain hc, h.inFlow]
  split
  . exact hone _ _ (fetchFlowStart_fork h _ hc)
  . exact hone _ _ (fetchFlowStart_fork h _ hc)
  . exact hone _ _ (fetchFlowEnd_fork h _ hc)
  . exact hone _ _ (fetchFlowEnd_fork h _ hc)
  . exact hone _ _ (fetchFlowEntry_fork h hc)
  . exact hone _ _ (fetchAnchor_fork h _ hc)
  . exact hone _ _ (fetchAnchor_fork h _ hc)
  . exact hone _ _ (fetchTag_fork h hc)
  . exact hquoted _
  . exact hquoted _
  split
  . exact hone _ _ (fetchBlockEntry_fork h hc)
  split
  . exact hone _ _ (fetchKey_fork h hc)
  split
  . exact hone _ _ (fetchValue_fork h hc)
  split
  . next hliteral =>
    rw [Bool.and_eq_true] at hliteral
    exact hblock (by rw [Scanner.startsBlock, hliteral.1, hliteral.2]; rfl) _
  split
  . next hfolded =>
    rw [Bool.and_eq_true] at hfolded
    exact hblock (by rw [Scanner.startsBlock, hfolded.1, hfolded.2, Bool.or_true]; rfl) _
  split
  . exact hplain
  . exact hone _ _ (.error _ _)

theorem fetchHere_of (h : f.ScannerTwin s s')
    (hdirective : (s.mark.column == 0 && s.cursor.peek == '%') = false)
    (hone : ∀ r r', Simulates (f.After s.cursor) r r' → R r r')
    (hcontent : isEnd s.cursor.peek = false →
      R (s.fetchContent >>= fun t => return t.takeLineComment s.lineCommentMark)
        (s'.fetchContent >>= fun t => return t.takeLineComment s'.lineCommentMark))
    : R s.fetchHere s'.fetchHere := by
  unfold Scanner.fetchHere
  rw [h.cursor.peek, h.column, hdirective, h.cursor.sameLine.atMarker (by decide),
    h.cursor.sameLine.atMarker (by decide)]
  simp only [Bool.false_eq_true, if_false]
  split
  . exact hone _ _ (fetchStreamEnd_fork h)
  next hend =>
  split
  . next hmarker => exact hone _ _ (fetchDocumentMarker_fork h _ (by decide) hmarker)
  split
  . next hmarker => exact hone _ _ (fetchDocumentMarker_fork h _ (by decide) hmarker)
  . exact hcontent (Bool.not_eq_true _ ▸ hend)

end

theorem fetchContent_fork (h : f.ScannerTwin s s') (hc : isBreak s.cursor.peek = false)
    (hblock : s.startsBlock = false)
    : f.Follows s.cursor s.fetchContent s'.fetchContent :=
  fetchContent_of h hc (fun _ _ => .of_simulates) (fetchQuoted_fork h · hc) (fetchPlain_fork h)
    fun hstarts => by
      rw [hblock] at hstarts
      cases hstarts

theorem fetchHere_follows (h : f.ScannerTwin s s')
    (hdirective : (s.mark.column == 0 && s.cursor.peek == '%') = false)
    (hcontent : ∀ (f : Fork) (s' : Scanner), f.ScannerTwin s s' →
      f.Follows s.cursor s.fetchContent s'.fetchContent)
    : f.Follows s.cursor s.fetchHere s'.fetchHere := by
  refine fetchHere_of h hdirective (fun _ _ => .of_simulates) fun _ t hr => ?_
  obtain ⟨u, hu, hr⟩ := bind_eq_ok.mp hr
  cases hr
  obtain ⟨hsuffix, hfollow⟩ := hcontent f s' h u hu
  -- a reader is in step with itself
  obtain ⟨-, hself⟩ := hcontent .none s (.self h.cursor.whole) u hu
  obtain ⟨v, -, hv⟩ := hself (before_none _)
  have hcomment := (hv.takeLineComment s.lineCommentMark s.lineCommentMark).2
  refine ⟨hcomment.trans hsuffix, fun hd => ?_⟩
  obtain ⟨u', hu', htwin⟩ := hfollow (hd.mono hcomment)
  exact ⟨_, bind_eq_ok.mpr ⟨u', hu', rfl⟩, (htwin.takeLineComment _ _).1⟩

/-- Whatever is read but a block scalar or a directive. -/
theorem fetchHere_fork (h : f.ScannerTwin s s') (hc : isBreak s.cursor.peek = false)
    (hblock : s.startsBlock = false)
    (hdirective : (s.mark.column == 0 && s.cursor.peek == '%') = false)
    : f.Follows s.cursor s.fetchHere s'.fetchHere :=
  fetchHere_follows h hdirective fun _ _ htwin => fetchContent_fork htwin hc hblock

end Fork
end Yaml
end YamlOrder
