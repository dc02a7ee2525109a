import YamlOrder.Proofs.Folding.Trace

/-!
This module contains where the lines of folded scalars are in a stream: behind the scanner that
comes across them, and behind a header of their own.
-/

namespace YamlOrder
namespace Yaml

open Sorter (bind_eq_ok)

/-- No added lines. -/
def Spacing.untouched (cs : List Char) : Spacing where
  chars := cs
  doubled _ := false
  newline _ h := by cases h
  opens _ h := by cases h

theorem Spacing.after_untouched (cs : List Char) (i : Nat)
    : (Spacing.untouched cs).after i = cs.drop i := by
  show spread (fun _ => false) i (cs.drop i) = cs.drop i
  induction cs.drop i generalizing i with
  | nil => rfl
  | cons c cs ih => rw [spread, ih, if_neg Bool.false_ne_true]

/-- A scanner in the middle of a stream. -/
def Scanner.Reads (cs : List Char) (s : Scanner) : Prop := (Spacing.untouched cs).ScannerTwin s s

namespace Scanner.Reads

variable {cs : List Char} {s t : Scanner}

theorem start (h : undirected true cs = true) : Scanner.Reads cs { cursor := { rest := cs } } := by
  have hstart := (Spacing.untouched cs).start_twin h
  rwa [Spacing.after_untouched, List.drop_zero] at hstart

theorem place (h : s.Reads cs) : s.cursor.At cs := ⟨h.cursor.whole, h.cursor.rest⟩

theorem fetch (h : s.Reads cs) (hr : s.fetch = .ok t) : t.Reads cs := by
  obtain ⟨t', hr', ht⟩ := Spacing.fetch_twin h t hr
  rw [hr] at hr'
  cases hr'
  exact ht

theorem give (h : s.Reads cs) (tokens : List Token) (given : Nat) (comments : List Comment)
    : Scanner.Reads cs { s with tokens, given, comments } :=
  { h with given := rfl, tokens := List.forall₂_same.mpr fun _ _ => .same _ }

theorem settled (h : s.Reads cs)
    : s.settled.Reads cs ∧ isBreak s.settled.cursor.peek = false ∧
      s.settled.cursor.rest <:+ s.cursor.rest := by
  obtain ⟨hnext, hbreak⟩ := Spacing.scanToNext_twin s.mark s.mark h (Nat.lt_succ_self _)
    h.cursor.ample
  have hsuffix := Fork.suffix_scanToNext h.place.toWhole s.mark (s.cursor.rest.length + 1)
  unfold Scanner.settled
  dsimp only
  generalize Scanner.scanToNext s.mark _ s = t at hnext hbreak hsuffix ⊢
  obtain ⟨hunroll, hcursor⟩ := hnext.unrollIndent t.mark.column s.mark s.mark
  rw [hunroll.cursor.whole.need]
  refine ⟨hunroll, ?_, ?_⟩
  . rwa [hcursor]
  . rwa [hcursor]

end Scanner.Reads

theorem headerComment_line {c c' : Cursor} (start start' : Mark) (h : SameLine c c')
    : Along c c' (Scanner.headerComment start c).2 (Scanner.headerComment start' c').2 := by
  unfold Scanner.headerComment
  dsimp only
  have hblanks := h.skipBlanks
  rw [(hblanks.sameLine h).peek]
  generalize hr : (if c.skipBlanks.peek == '#' then scanLineComment start c.skipBlanks
    else (none, c.skipBlanks)) = r
  generalize hr' : (if c.skipBlanks.peek == '#' then scanLineComment start' c'.skipBlanks
    else (none, c'.skipBlanks)) = r'
  have hcomment : Along c c' r.2 r'.2 := by
    rw [← hr, ← hr']
    split
    . exact hblanks.trans (scanLineComment_line start start' (hblanks.sameLine h))
    . exact hblanks
  rw [(hcomment.sameLine h).peek]
  split
  . exact hcomment.trans (hcomment.sameLine h).skipToBreak
  . exact hcomment

/-- The same header, read by two scanners. -/
structure BlockOpening.Twin (f : Fork) (s : Scanner) (o o' : BlockOpening) : Prop where
  scanner : f.ScannerTwin o.scanner o'.scanner
  removed : s.removeKey = .ok o.scanner
  cursor : o.scanner.cursor = s.cursor
  chomping : o'.chomping = o.chomping
  indent : o'.indent = o.indent
  along : Along o.scanner.cursor.skip o'.scanner.cursor.skip o.cursor o'.cursor
  ends : isBreakOrEnd o.cursor.peek = true

theorem Fork.ScannerTwin.openBlock {f : Fork} {s s' : Scanner} (h : f.ScannerTwin s s')
    (hc : isBreak s.cursor.peek = false)
    : Simulates (BlockOpening.Twin f s) s.openBlock s'.openBlock := by
  unfold Scanner.openBlock
  refine (removeKey_fork h).bind_of_eq ?_
  rintro t t' hremoved ⟨ht, hcursor⟩
  rw [← hcursor] at hc
  have hskip := ht.cursor.sameLine.skip hc
  refine (scanBlockHeader_line t.mark t'.mark hskip).bind ?_
  rintro ⟨chomping, increment, c⟩ ⟨_, _, c'⟩ ⟨rfl, rfl, hheader⟩
  dsimp only at hheader ⊢
  have hcomment := hheader.trans (headerComment_line t.mark t'.mark (hheader.sameLine hskip))
  rw [(hcomment.sameLine hskip).peek, ht.indent]
  generalize Scanner.headerComment t.mark c = r at hcomment ⊢
  generalize Scanner.headerComment t'.mark c' = r' at hcomment ⊢
  split
  . exact .throw_bind _ _ _
  . next hends => exact .ok ⟨ht, hremoved, hcursor, rfl, rfl, hcomment, by simpa using hends⟩

/-- A line of a folded scalar behind a header that is not before an index. -/
def FoldedLine.Opened (cs : List Char) (i : Nat) (l : FoldedLine) : Prop :=
  ∃ g p, i ≤ g ∧ g < p ∧ l.In cs p ∧ cs.getD g endChar = '>' ∧
  isBreak (cs.getD (p - 1) endChar) = true

theorem FoldedLine.Opened.mono {cs : List Char} {i j : Nat} {l : FoldedLine} (h : l.Opened cs j)
    (hij : ∀ g, j ≤ g → g < cs.length → i ≤ g) : l.Opened cs i := by
  obtain ⟨g, p, hle, hlt, hline, hheader, hbreak⟩ := h
  refine ⟨g, p, hij g hle ?_, hlt, hline, hheader, hbreak⟩
  by_contra hlong
  rw [List.getD_eq_getElem?_getD, List.getElem?_eq_none (Nat.le_of_not_lt hlong)] at hheader
  cases hheader

theorem FoldedLine.Opened.index_le {cs : List Char} {i : Nat} {l : FoldedLine} (h : l.Opened cs i)
    : i ≤ l.index := by
  obtain ⟨g, p, hle, hlt, hline, -⟩ := h
  exact (hle.trans hlt.le).trans hline.index_le

theorem FoldedLine.mem_of_takes {l : FoldedLine} {before behind : List FoldedLine} {i k n : Nat}
    (hbefore : ∀ l ∈ before, l.index + l.content.length ≤ i) (hbehind : ∀ l ∈ behind, i ≤ l.index)
    (hl : l ∈ before ++ behind) (h : l.takes k n = true)
    : (k < i → l ∈ before) ∧ (i ≤ k → l ∈ behind) := by
  obtain ⟨hlt, hlength⟩ := l.between_of_takes h
  obtain hl | hl := List.mem_append.mp hl
  . have := hbefore l hl
    exact ⟨fun _ => hl, fun hk => by omega⟩
  . have := hbehind l hl
    exact ⟨fun hk => by omega, fun _ => hl⟩

section Opened

variable {cs : List Char} {s t : Scanner} {o : BlockOpening} {b : BlockBreaks} {l : FoldedLine}
  {c : Cursor}
variable {start : Mark} {least indent fuel : Nat}

theorem Cursor.At.isBreak_skipLine (h : c.At cs) (hbreak : isBreak c.peek = true)
    : isBreak (cs.getD (c.skipLine.mark.index - 1) endChar) = true := by
  obtain ⟨w, d, ds, hrest, -, hd, hwidth⟩ := Cursor.exists_break hbreak
  have hget : cs.getD (c.mark.index + w.length) endChar = d := by
    rw [← h.peek, Cursor.peek_eq, hrest]
    simp [List.getD_eq_getElem?_getD]
  rw [h.toWhole.skipLine_eq hbreak, hwidth]
  dsimp only
  rwa [← Nat.add_assoc, Nat.add_sub_cancel, hget]

theorem scanBlockBreaks.cursor_of_end (h : c.At cs) (hend : isEnd c.peek = true)
    (hr : scanBlockBreaks start least indent c = .ok b) : b.cursor = c := by
  have hpeek : c.peek = endChar := by simpa [isEnd] using hend
  have hwidth : scanBlockBreaks.width indent c = 0 := by
    refine Nat.eq_zero_of_le_zero ((scanBlockBreaks.width_le indent c).trans_eq ?_)
    rw [Cursor.peek_eq] at hpeek
    cases hrest : c.rest with
    | nil => rfl
    | cons ch chs =>
      rw [hrest] at hpeek
      obtain rfl : ch = endChar := hpeek
      rfl
  rw [scanBlockBreaks, scanBlockBreaks.go_succ h.toWhole, scanBlockBreaks.indented, hwidth,
    Cursor.skipN, hpeek] at hr
  have htab : (endChar == '\t') = false := rfl
  have hbreak : isBreak endChar = false := rfl
  rw [htab, hbreak, Bool.and_false, if_neg Bool.false_ne_true, if_neg Bool.false_ne_true] at hr
  cases hr
  rfl

theorem Scanner.Reads.openBlock (h : s.Reads cs) (hc : isBreak s.cursor.peek = false)
    (hr : s.openBlock = .ok o)
    : o.cursor.At cs ∧ s.cursor.mark.index < o.cursor.mark.index ∧
      isBreakOrEnd o.cursor.peek = true := by
  obtain ⟨o', -, ho⟩ := (Fork.ScannerTwin.self h.place.toWhole).openBlock hc o hr
  obtain ⟨n, -, hn, -⟩ := ho.along
  rw [ho.cursor] at hn
  have hplace := h.place.skipN (n + 1)
  rw [Cursor.skipN, ← hn] at hplace
  refine ⟨hplace, ?_, ho.ends⟩
  rw [hn, Cursor.index_skipN, Cursor.index_skip]
  omega

theorem Scanner.Reads.in_of_mem_blockLines (h : s.Reads cs) (hc : isBreak s.cursor.peek = false)
    (ho : s.openBlock = .ok o) (hb : o.breaks = .ok b) (hl : l ∈ blockLines start fuel b)
    : isBreak o.cursor.peek = true ∧ l.In cs o.cursor.skipLine.mark.index := by
  obtain ⟨hplace, -, hends⟩ := h.openBlock hc ho
  have hbreaks := scanBlockBreaks.place hplace.skipLine hb
  have hline := YamlOrder.Yaml.in_of_mem_blockLines hbreaks hl
  refine ⟨?_, { hline with index_le := hbreaks.index_le.trans hline.index_le }⟩
  by_contra hbreak
  rw [Bool.not_eq_true] at hbreak
  have hend : isEnd o.cursor.peek = true := by simpa [isBreakOrEnd, hbreak] using hends
  have hstay := hplace.toWhole.skipLine_of_not_break hbreak
  rw [BlockOpening.breaks, hstay] at hb
  rw [← scanBlockBreaks.cursor_of_end hplace hend hb] at hend
  cases fuel with
  | zero => cases hl
  | succ fuel =>
    have hcontent := (mem_blockLines_succ.mp hl).1
    rw [hend, Bool.not_true, Bool.and_false, Bool.false_and] at hcontent
    cases hcontent

end Opened

namespace Scanner

variable {cs : List Char} {s t : Scanner} {o : BlockOpening} {b : BlockBreaks} {l : FoldedLine}

theorem fetchHere_of_startsBlock (h : s.startsBlock = true)
    : s.fetchHere = (do
        let t ← s.fetchBlockScalar (s.cursor.peek == '|')
        return t.takeLineComment s.lineCommentMark) := by
  rw [startsBlock, Bool.and_eq_true, Bool.or_eq_true, beq_iff_eq, beq_iff_eq,
    Bool.not_eq_true'] at h
  obtain ⟨hpeek | hpeek, hflow⟩ := h
  . simp [fetchHere, fetchContent, Cursor.atMarker, hpeek, hflow, isEnd, endChar]
  . simp [fetchHere, fetchContent, Cursor.atMarker, hpeek, hflow, isEnd, endChar]

theorem fetchNext_eq_ok_iff (hstarted : s.started = true) (hblock : s.settled.startsBlock = true)
    : s.fetchNext = .ok t ↔
        ∃ o b scalar, s.settled.openBlock = .ok o ∧ o.breaks = .ok b ∧
          scanBlockLines o.scanner.mark (s.settled.cursor.peek == '|') o.chomping b = .ok scalar ∧
          t = (o.close scalar).takeLineComment s.settled.lineCommentMark := by
  rw [fetchNext_eq, hstarted, Bool.not_true, if_neg Bool.false_ne_true,
    fetchHere_of_startsBlock hblock,
    fetchBlockScalar_eq]
  constructor
  . intro hr
    obtain ⟨u, hr, hcomment⟩ := bind_eq_ok.mp hr
    obtain ⟨o, ho, hr⟩ := bind_eq_ok.mp hr
    obtain ⟨b, hb, hr⟩ := bind_eq_ok.mp hr
    obtain ⟨scalar, hscalar, hr⟩ := bind_eq_ok.mp hr
    cases hr
    cases hcomment
    exact ⟨o, b, scalar, ho, hb, hscalar, rfl⟩
  . rintro ⟨o, b, scalar, ho, hb, hscalar, rfl⟩
    refine bind_eq_ok.mpr ⟨o.close scalar, ?_, rfl⟩
    exact bind_eq_ok.mpr ⟨o, ho, bind_eq_ok.mpr ⟨b, hb, bind_eq_ok.mpr ⟨scalar, hscalar, rfl⟩⟩⟩

theorem startsBlock_of_startsFolded (h : s.startsFolded = true) : s.startsBlock = true := by
  rw [startsFolded, Bool.and_eq_true] at h
  rw [startsBlock, h.1, h.2, Bool.or_true, Bool.and_true]

theorem exists_block_of_mem_nextLines (hl : l ∈ s.nextLines)
    : s.started = true ∧ s.settled.startsFolded = true ∧ ∃ o b, s.settled.openBlock = .ok o ∧
      o.breaks = .ok b ∧
        l ∈ blockLines o.scanner.mark (b.cursor.rest.length + 1) b := by
  unfold nextLines at hl
  split at hl
  . next hfolded =>
    rw [Bool.and_eq_true] at hfolded
    refine ⟨hfolded.1, hfolded.2, ?_⟩
    split at hl
    . cases hl
    . next lines hlines =>
      obtain ⟨o, ho, hlines⟩ := bind_eq_ok.mp hlines
      obtain ⟨b, hb, hlines⟩ := bind_eq_ok.mp hlines
      cases hlines
      exact ⟨o, b, ho, hb, hl⟩
  . cases hl

theorem mem_blockLines_of_mem_nextLines (ho : s.settled.openBlock = .ok o) (hb : o.breaks = .ok b)
    (hl : l ∈ s.nextLines)
    : s.settled.cursor.peek = '>' ∧ l ∈ blockLines o.scanner.mark (b.cursor.rest.length + 1) b := by
  obtain ⟨-, hfolded, o', b', ho', hb', hl⟩ := exists_block_of_mem_nextLines hl
  rw [startsFolded, Bool.and_eq_true, beq_iff_eq] at hfolded
  rw [ho, Except.ok.injEq] at ho'
  subst ho'
  rw [hb, Except.ok.injEq] at hb'
  subst hb'
  exact ⟨hfolded.1, hl⟩

theorem fetch_eq_ok {s t : Scanner} (hs : s.cursor.Whole) (hr : s.fetchNext = .ok t)
    (ht : t.cursor.Whole)
    : s.fetch = .ok t := by
  unfold fetch
  dsimp only
  rw [hs.need, hs.short, if_neg Bool.false_ne_true, hr]
  dsimp only [bind, Except.bind]
  rw [ht.short]
  rfl

namespace Reads

theorem fetch_eq (h : s.Reads cs) : s.fetch = s.fetchNext := by
  have hnext := Spacing.fetchNext_twin h
  cases hr : s.fetchNext with
  | error e =>
    unfold Scanner.fetch
    dsimp only
    rw [h.cursor.whole.need, h.cursor.whole.short, if_neg Bool.false_ne_true, hr]
    rfl
  | ok t =>
    obtain ⟨t', -, ht⟩ := hnext t hr
    exact fetch_eq_ok h.cursor.whole hr ht.cursor.whole

theorem exists_block (h : s.Reads cs) (hstarted : s.started = true)
    (hblock : s.settled.startsBlock = true) (hr : s.fetch = .ok t)
    : ∃ o b scalar, s.settled.openBlock = .ok o ∧ o.breaks = .ok b ∧
        scanBlockLines o.scanner.mark (s.settled.cursor.peek == '|') o.chomping b = .ok scalar ∧
        t = (o.close scalar).takeLineComment s.settled.lineCommentMark :=
  (fetchNext_eq_ok_iff hstarted hblock).mp (h.fetch_eq ▸ hr)

theorem takeLineComment (h : s.cursor.At cs) (token : Mark)
    : (s.takeLineComment token).cursor.At cs ∧ s.cursor.mark.index ≤
      (s.takeLineComment token).cursor.mark.index := by
  unfold Scanner.takeLineComment
  split
  . exact ⟨h, Nat.le_refl _⟩
  . obtain ⟨n, -, hn, -⟩ := scanLineComment_line token token (.refl h.toWhole)
    dsimp only
    rw [hn, Cursor.index_skipN]
    exact ⟨h.skipN n, Nat.le_add_right _ _⟩

theorem index_le_of_block (h : s.Reads cs) (hstarted : s.started = true)
    (hblock : s.settled.startsBlock = true) (hr : s.fetch = .ok t)
    : t.cursor.At cs ∧ s.settled.cursor.mark.index ≤ t.cursor.mark.index ∧
        ∀ l ∈ s.nextLines, l.index + l.content.length ≤ t.cursor.mark.index := by
  obtain ⟨hsettled, hbreak, -⟩ := h.settled
  obtain ⟨o, b, scalar, ho, hb, hscalar, rfl⟩ := h.exists_block hstarted hblock hr
  obtain ⟨hplace, hlt, -⟩ := hsettled.openBlock hbreak ho
  have hbreaks := scanBlockBreaks.place hplace.skipLine hb
  obtain ⟨hend, hle, hlines⟩ := le_of_mem_blockLines hbreaks hscalar
  have hcomment := takeLineComment (s := o.close scalar) hend s.settled.lineCommentMark
  refine ⟨hcomment.1, ?_, fun l hl => ?_⟩
  . have := hplace.index_le_skipLine
    exact (((hlt.le.trans this).trans hbreaks.index_le).trans hle).trans hcomment.2
  . exact (hlines l (mem_blockLines_of_mem_nextLines ho hb hl).2).trans hcomment.2

theorem suffix_fetch (h : s.Reads cs) (hr : s.fetch = .ok t) : t.cursor.rest <:+ s.cursor.rest := by
  obtain ⟨hsettled, hbreak, hsuffix⟩ := h.settled
  cases hstarted : s.started with
  | false =>
    rw [h.fetch_eq, fetchNext_eq, hstarted] at hr
    cases hr
    exact List.suffix_refl _
  | true =>
    cases hblock : s.settled.startsBlock with
    | true =>
      obtain ⟨hplace, hle, -⟩ := h.index_le_of_block hstarted hblock hr
      refine List.IsSuffix.trans ?_ hsuffix
      rw [hplace.rest, hsettled.place.rest, ← Nat.sub_add_cancel hle, Nat.add_comm,
        ← List.drop_drop]
      exact List.drop_suffix _ _
    | false =>
      rw [h.fetch_eq, fetchNext_eq, hstarted, Bool.not_true, if_neg Bool.false_ne_true] at hr
      generalize s.settled = u at *
      have hdirective : (u.mark.column == 0 && u.cursor.peek == '%') = false :=
        hsettled.cursor.not_directive
      exact (Fork.fetchHere_fork (.self hsettled.place.toWhole) hbreak hblock hdirective t
        hr).1.trans hsuffix

theorem opened_of_mem_nextLines (h : s.Reads cs) (hl : l ∈ s.nextLines)
    : l.Opened cs s.settled.cursor.mark.index := by
  obtain ⟨hsettled, hbreak, -⟩ := h.settled
  obtain ⟨-, hfolded, o, b, ho, hb, hl⟩ := exists_block_of_mem_nextLines hl
  rw [startsFolded, Bool.and_eq_true, beq_iff_eq] at hfolded
  obtain ⟨hplace, hlt, -⟩ := hsettled.openBlock hbreak ho
  obtain ⟨hends, hline⟩ := hsettled.in_of_mem_blockLines hbreak ho hb hl
  have hlt' := hlt.trans_le hplace.index_le_skipLine
  refine ⟨_, _, Nat.le_refl _, hlt', hline, ?_, hplace.isBreak_skipLine hends⟩
  rw [← hfolded.1, hsettled.place.peek, Nat.add_zero]

end Reads

/-- The lines that a scanner comes across are behind it, each with a header before it. -/
theorem opened_of_mem_foldedLines {fuel : Nat} (h : s.Reads cs) (hl : l ∈ s.foldedLines fuel)
    : l.Opened cs s.cursor.mark.index := by
  induction fuel generalizing s with
  | zero => cases hl
  | succ fuel ih =>
    unfold foldedLines at hl
    split at hl
    . cases hl
    . rw [List.mem_append] at hl
      obtain hl | hl := hl
      . obtain ⟨hsettled, -, hsuffix⟩ := h.settled
        exact (h.opened_of_mem_nextLines hl).mono fun g =>
          h.place.le_of_suffix hsettled.place hsuffix
      . split at hl
        . cases hl
        . next t hr =>
          have ht := h.fetch hr
          exact (ih ht hl).mono fun g => h.place.le_of_suffix ht.place (h.suffix_fetch hr)
    . split at hl
      . cases hl
      . split at hl
        . cases hl
        . have hopened := fun hs => ih hs hl
          exact hopened (h.give _ _ _)

end Scanner

end Yaml
end YamlOrder
