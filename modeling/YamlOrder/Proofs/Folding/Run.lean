import YamlOrder.Proofs.Folding.BlockScalar
import YamlOrder.Proofs.Spacing.Parser

/-!
This module contains two scanners at the same place of a stream without and with breaks within the
lines of folded scalars. They go on in step to the line behind the header of the next scalar that is
cut, and their tokens are of the same kinds.
-/

namespace YamlOrder
namespace Yaml
namespace Wrap

/-- The streams before an index, for two readers that are at the same place. -/
def fork (w : Wrap) (p : Nat) (c c' : Cursor) : Fork where
  rest := w.chars.drop p
  rest' := w.after p
  last := w.chars.getD (p - 1) endChar
  index := c'.mark.index - c.mark.index
  line := c'.mark.line - c.mark.line
  length_le := w.length_after p

/--
Whether two readers can go on in step from an index up to another one, where a line starts or
nothing is left.
-/
structure Stretch (w : Wrap) (i p : Nat) : Prop where
  le : i ≤ p
  clear : w.Clear i p
  starts : w.chars.length ≤ p ∨ i < p ∧ isBreak (w.chars.getD (p - 1) endChar) = true

variable {w : Wrap} {i j k m p : Nat} {c c' d d' : Cursor} {s s' t t' : Scanner} {fuel fuel' : Nat}

theorem lt_length_of_some (h : w.cut k = some m) : k < w.chars.length := by
  by_contra hle
  have hspace := w.space k m h
  rw [List.getD_eq_getElem?_getD, List.getElem?_eq_none (Nat.le_of_not_lt hle)] at hspace
  cases hspace

theorem Clear.of_length (h : w.Clear i p) (hp : w.chars.length ≤ p) (j : Nat) : w.Clear i j := by
  intro k hle hlt
  by_cases hk : k < p
  . exact h k hle hk
  . by_contra hcut
    obtain ⟨m, hcut⟩ := Option.ne_none_iff_exists'.mp hcut
    have := lt_length_of_some hcut
    omega

theorem drop_eq_take_append {a b : Nat} (h : a ≤ b) (cs : List Char)
    : cs.drop a = (cs.drop a).take (b - a) ++ cs.drop b := by
  obtain ⟨n, rfl⟩ := Nat.exists_eq_add_of_le h
  rw [Nat.add_sub_cancel_left, ← List.drop_drop, List.take_append_drop]

theorem joined_of_length_le (h : w.chars.length ≤ p)
    : w.chars.drop p = [] ∧ w.after p = [] := by
  have hnil : w.chars.drop p = [] := List.drop_eq_nil_of_le h
  exact ⟨hnil, by rw [after, hnil, broken]⟩

theorem Stretch.exists_eq (h : w.Stretch i p)
    : ∃ u, w.chars.drop i = u ++ w.chars.drop p ∧ w.after i = u ++ w.after p ∧
        (w.chars.drop p = [] ∧ w.after p = [] ∨
          isBreak (w.chars.getD (p - 1) endChar) = true ∧
            ∃ v, u = v ++ [w.chars.getD (p - 1) endChar]) := by
  have hdrop := drop_eq_take_append h.le w.chars
  have hlength : ((w.chars.drop i).take (p - i)).length = min (p - i) (w.chars.length - i) := by
    rw [List.length_take, List.length_drop]
  have hle := h.le
  obtain ⟨hafter, hnext⟩ := after_of_clear hdrop (h.clear.mono (Nat.le_refl _) (by omega))
  refine ⟨_, hdrop, ?_, ?_⟩
  . by_cases hp : p ≤ w.chars.length
    . rw [hafter]
      congr 2
      omega
    . have hnil : w.chars.drop p = [] := List.drop_eq_nil_of_le (by omega)
      rw [hnil] at hnext
      rw [hafter, after, hnext, after, hnil, broken, broken]
  . obtain hp | ⟨hlt, hbreak⟩ := h.starts
    . exact .inl (joined_of_length_le hp)
    . by_cases hp : p ≤ w.chars.length
      . refine .inr ⟨hbreak, (w.chars.drop i).take (p - i - 1), ?_⟩
        have hget : p - i - 1 < (w.chars.drop i).length := by
          rw [List.length_drop]
          omega
        have hlast : (w.chars.drop i)[p - i - 1] = w.chars.getD (p - 1) endChar := by
          rw [List.getElem_drop, List.getD_eq_getElem?_getD, List.getElem?_eq_getElem (by omega),
            Option.getD_some]
          congr 1
          omega
        rw [← hlast, ← List.take_succ_eq_append_getElem hget]
        congr 1
        omega
      . exact .inl (joined_of_length_le (by omega))

theorem Here.mark (h : w.Here c c') (hcolumn : c'.mark.column = c.mark.column)
    : c'.mark = (w.fork p c c').shift c.mark := by
  have hindex := h.index_le
  have hline := h.line_le
  show c'.mark = ⟨c.mark.index + (c'.mark.index - c.mark.index),
    c.mark.line + (c'.mark.line - c.mark.line),
    c.mark.column⟩
  rw [Nat.add_sub_cancel' hindex, Nat.add_sub_cancel' hline, ← hcolumn]

theorem Here.twin (h : w.Here c c') (hcolumn : c'.mark.column = c.mark.column)
    (hp : w.Stretch c.mark.index p)
    : (w.fork p c c').Twin c c' := by
  obtain ⟨u, hdrop, hafter, hends⟩ := hp.exists_eq
  refine ⟨⟨u, ?_, ?_, hends⟩, h.mark hcolumn, Nat.zero_le _, Nat.zero_le _, h.newlines,
    h.place.toWhole, h.whole'⟩
  . rw [h.place.rest, hdrop]
    rfl
  . rw [h.rest', hafter]
    rfl

theorem Here.of_twin (h : (w.fork p c c').Twin d d') (hat : d.At w.chars) (hp : w.Clear i p)
    (hi : d.rest ≠ [] → i ≤ d.mark.index)
    : w.Here d d' ∧ d'.mark.column = d.mark.column ∧ ∀ q, w.fork q d d' = w.fork q c c' := by
  have hmark := h.mark
  obtain ⟨u, hrest, hrest', -⟩ := h.rest
  have hdrop : w.chars.drop d.mark.index = u ++ w.chars.drop p := by rw [← hat.rest, hrest]; rfl
  have hlength := congrArg List.length hdrop
  rw [List.length_append, List.length_drop, List.length_drop] at hlength
  have hclear : w.Clear d.mark.index (d.mark.index + u.length) := by
    by_cases hnil : d.rest = []
    . have hu : u = [] := (List.append_eq_nil_iff.mp (hrest.symm.trans hnil)).1
      rw [hu]
      exact fun k hle hlt => absurd hle (Nat.not_le_of_lt hlt)
    . by_cases hp' : p < w.chars.length
      . exact hp.mono (hi hnil) (by omega)
      . exact (hp.of_length (by omega) _).mono (hi hnil) (Nat.le_refl _)
  obtain ⟨hafter, hnext⟩ := after_of_clear hdrop hclear
  refine ⟨⟨hat, ?_, h.whole', ?_, ?_, h.newlines⟩, h.column, ?_⟩
  . rw [hrest', hafter]
    by_cases hp' : p < w.chars.length
    . have hindex : d.mark.index + u.length = p := by omega
      rw [hindex]
      rfl
    . have hnil : w.chars.drop p = [] := List.drop_eq_nil_of_le (by omega)
      rw [hnil] at hnext
      show u ++ w.after p = _
      rw [after, hnil, after, hnext, broken, broken]
  . rw [hmark]
    exact Nat.le_add_right _ _
  . rw [hmark]
    exact Nat.le_add_right _ _
  . intro q
    unfold fork
    rw [hmark]
    simp only [Fork.shift, Nat.add_sub_cancel_left]
    rfl

theorem exists_stretch (d d' : Cursor) {lines : List FoldedLine}
    (hlines : ∀ l ∈ lines, l.Opened w.chars j)
    (hcuts : ∀ k m, i ≤ k → w.cut k = some m → ∃ l ∈ lines, l.takes k m = true)
    (hij : ∀ g, j ≤ g → g < w.chars.length → i ≤ g)
    : ∃ p, w.Stretch i p ∧ ∀ c : Cursor, c.At w.chars → c.mark.index ≤ j →
      (w.fork p d d').Guarded c := by
  by_cases hclear : w.Clear i (i + (w.chars.drop i).length)
  . have hend : w.Clear i w.chars.length :=
      hclear.mono (Nat.le_refl _) (by rw [List.length_drop]; omega)
    refine ⟨max i w.chars.length, ⟨Nat.le_max_left _ _, hend.of_length (Nat.le_refl _) _,
      .inl (Nat.le_max_right _ _)⟩,
      fun c _ _ => .inl (joined_of_length_le (Nat.le_max_right _ _))⟩
  . obtain ⟨piece, more, m, -, hbefore, hcut⟩ := exists_first_cut (List.append_nil _).symm hclear
    obtain ⟨l, hl, htaken⟩ := hcuts _ m (Nat.le_add_right _ _) hcut
    obtain ⟨g, p, hg, hlt, hline, hheader, hbreak⟩ := hlines l hl
    have htake := (FoldedLine.between_of_takes htaken).1
    have hle := hline.index_le
    have hlength : g < w.chars.length := by
      by_contra hlong
      rw [List.getD_eq_getElem?_getD, List.getElem?_eq_none (Nat.le_of_not_lt hlong)] at hheader
      cases hheader
    have hi := hij g hg hlength
    refine ⟨p, ⟨by omega, hbefore.mono (Nat.le_refl _) (by omega), .inr ⟨by omega, hbreak⟩⟩,
      fun c hc hcj => .inr ?_⟩
    refine ⟨(w.chars.drop c.mark.index).take (g - c.mark.index),
      (w.chars.drop (g + 1)).take (p - (g + 1)), ?_⟩
    have hchar : w.chars[g] = '>' := by
      rwa [List.getD_eq_getElem?_getD, List.getElem?_eq_getElem hlength,
        Option.getD_some] at hheader
    rw [hc.rest]
    show w.chars.drop c.mark.index = _ ++ '>' :: (_ ++ w.chars.drop p)
    rw [← drop_eq_take_append hlt, ← hchar, ← List.drop_eq_getElem_cons hlength]
    exact drop_eq_take_append (hcj.trans hg) w.chars

/-- Two scanners in the same state and at the same place. -/
structure RunTwin (w : Wrap) (s s' : Scanner) : Prop where
  reads : s.Reads w.chars
  here : w.Here s.cursor s'.cursor
  column : s'.cursor.mark.column = s.cursor.mark.column
  state : Scanner.StateTwin (w.fork 0 s.cursor s'.cursor).Moved s s'

theorem RunTwin.agree (h : w.RunTwin s s')
    : Mark.Agree (w.fork 0 s.cursor s'.cursor).Moved s.mark s'.mark :=
  Fork.agree (h.here.mark h.column) (Nat.zero_le _) (Nat.zero_le _)

theorem RunTwin.scanner (h : w.RunTwin s s') (hp : w.Stretch s.cursor.mark.index p)
    : (w.fork p s.cursor s'.cursor).ScannerTwin s s' := by
  exact { h.state with cursor := h.here.twin h.column hp }

theorem RunTwin.of_scanner (h : (w.fork p c c').ScannerTwin t t') (hreads : t.Reads w.chars)
    (hp : w.Clear i p) (hi : t.cursor.rest ≠ [] → i ≤ t.cursor.mark.index) : w.RunTwin t t' := by
  obtain ⟨hhere, hcolumn, hfork⟩ := Here.of_twin h.cursor hreads.place hp hi
  exact ⟨hreads, hhere, hcolumn, hfork 0 ▸ h.toStateTwin⟩

end Wrap

open Sorter (bind_eq_ok)

theorem Scanner.cursor_unroll_go (column : Int) (n : Nat) (mark : Mark) (s : Scanner)
    : (unrollIndent.go column n mark s).cursor = s.cursor := by
  induction n generalizing mark s with
  | zero => rfl
  | succ n ih =>
    unfold unrollIndent.go
    split
    . exact ih _ _
    . rfl

theorem Scanner.rest_settled (s : Scanner)
    : s.settled.cursor.rest = (scanToNext s.mark (s.cursor.rest.length + 1) s).cursor.rest := by
  unfold settled unrollIndent
  dsimp only
  rw [Cursor.rest_need]
  split
  . rfl
  . rw [cursor_unroll_go]

theorem Fork.ScannerTwin.settled {f : Fork} {s s' : Scanner} (h : f.ScannerTwin s s')
    (hd : f.Guarded s.settled.cursor)
    : f.ScannerTwin s.settled s'.settled := by
  have hguarded : f.Guarded (Scanner.scanToNext s.mark (s.cursor.rest.length + 1) s).cursor :=
    hd.mono (by simp only [Scanner.rest_settled, List.suffix_refl])
  have hnext := h.scanToNext s.mark s'.mark hguarded (Nat.lt_succ_self _)
    (Nat.succ_le_succ h.cursor.length_le)
  unfold Scanner.settled
  dsimp only
  rw [hnext.column]
  generalize Scanner.scanToNext s.mark _ s = t at hnext ⊢
  generalize Scanner.scanToNext s'.mark _ s' = t' at hnext ⊢
  have hunroll := (hnext.unrollIndent t.mark.column s.mark s'.mark).1
  rw [hunroll.cursor.whole.need, hunroll.cursor.whole'.need]
  exact hunroll

namespace Wrap

variable {w : Wrap} {s s' t : Scanner} {lines : List FoldedLine}

theorem RunTwin.fetchHere (h : w.RunTwin s s') (hstarted : s.started = true)
    (hblock : s.settled.startsBlock = false) (hr : s.fetch = .ok t)
    (hlines : ∀ l ∈ lines, l.Opened w.chars t.cursor.mark.index)
    (hcuts : ∀ k m, s.cursor.mark.index ≤ k → w.cut k = some m → ∃ l ∈ lines, l.takes k m = true)
    : ∃ t', s'.fetch = .ok t' ∧ w.RunTwin t t' := by
  obtain ⟨hsettled, hbreak, -⟩ := h.reads.settled
  have ht := h.reads.fetch hr
  have hsuffix := h.reads.suffix_fetch hr
  obtain ⟨p, hp, hbefore⟩ := exists_stretch s.cursor s'.cursor hlines hcuts fun g =>
    h.reads.place.le_of_suffix ht.place hsuffix
  have hd := hbefore t.cursor ht.place (Nat.le_refl _)
  have htwin := h.scanner hp
  have hsettle := htwin.settled
  rw [h.reads.fetch_eq, Scanner.fetchNext_eq, hstarted, Bool.not_true,
    if_neg Bool.false_ne_true] at hr
  have hfetch (t' : Scanner) (hr' : s'.settled.fetchHere = .ok t')
      (ht' : t'.cursor.Whole) : s'.fetch = .ok t' := by
    refine Scanner.fetch_eq_ok h.here.whole' ?_ ht'
    rw [Scanner.fetchNext_eq, htwin.started, hstarted, Bool.not_true, if_neg Bool.false_ne_true]
    exact hr'
  generalize s.settled = u at *
  generalize s'.settled = u' at *
  have hdirective : (u.mark.column == 0 && u.cursor.peek == '%') = false :=
    hsettled.cursor.not_directive
  have hself := Fork.fetchHere_fork (.self hsettled.place.toWhole) hbreak hblock hdirective t hr
  obtain ⟨t', hr', htwin'⟩ :=
    (Fork.fetchHere_fork (hsettle (hd.mono hself.1)) hbreak hblock hdirective t hr).2 hd.before
  have hi := h.reads.place.index_le_of_suffix ht.place hsuffix
  exact ⟨t', hfetch t' hr' htwin'.cursor.whole', .of_scanner htwin' ht hp.clear hi⟩

end Wrap

theorem Scanner.Reads.not_possible {cs : List Char} {s t : Scanner} (h : s.Reads cs)
    (hflow : s.inFlow = false) (hr : s.removeKey = .ok t) : ∀ k ∈ t.keys, k.possible = false := by
  have hdepth := h.depth
  have hlevel : s.flowLevel = 0 := by simpa [Scanner.inFlow] using hflow
  have htail : s.keys.tail = [] := by
    rw [← List.length_eq_zero_iff, List.length_tail, hdepth, hlevel]
  unfold Scanner.removeKey at hr
  dsimp only at hr
  split at hr
  . cases hr
  . cases hr
    intro k hk
    rw [Scanner.setTopKey, htail, List.mem_singleton] at hk
    rw [hk]

theorem Scanner.StateTwin.rekey {R S : Mark → Mark → Prop} {s s' : Scanner} (h : StateTwin R s s')
    (hkeys : ∀ k ∈ s.keys, k.possible = true → ∀ m', R k.mark m' → S k.mark m')
    : StateTwin S s s' := by
  refine { h with keys := ?_ }
  have hforall := h.keys
  generalize s.keys = l at hkeys hforall
  generalize s'.keys = l' at hforall
  induction hforall with
  | nil => exact .nil
  | @cons k k' l l' hk _ ih =>
    rw [List.forall_mem_cons] at hkeys
    exact .cons { hk with mark := fun hpossible => hkeys.1 hpossible _ (hk.mark hpossible) }
      (ih hkeys.2)

namespace Wrap

variable {w : Wrap} {s s' t : Scanner} {lines : List FoldedLine}

theorem exists_block_twin {u u' : Scanner} {c c' : Cursor} {i p : Nat} {o : BlockOpening}
    {b : BlockBreaks} {literal : Bool} {scalar : ScannedScalar} (hu : u.Reads w.chars)
    (htwin : (w.fork p c c').ScannerTwin u u') (hp : w.Clear i p) (hi : i ≤ u.cursor.mark.index)
    (hbreak : isBreak u.cursor.peek = false) (hflow : u.inFlow = false) (ho : u.openBlock = .ok o)
    (hb : o.breaks = .ok b)
    (hscalar : scanBlockLines o.scanner.mark literal o.chomping b = .ok scalar)
    (htakes : ∀ k m, b.cursor.mark.index ≤ k → k < scalar.cursor.mark.index → w.cut k = some m →
      literal = false ∧ ∃ l ∈ blockLines o.scanner.mark (b.cursor.rest.length + 1) b,
        l.takes k m = true)
    : ∃ o' b' scalar', u'.openBlock = .ok o' ∧ o'.breaks = .ok b' ∧
        scanBlockLines o'.scanner.mark literal o'.chomping b' = .ok scalar' ∧
        w.ScalarTwin scalar scalar' ∧
        ∀ R, Scanner.StateTwin R o.scanner o'.scanner := by
  obtain ⟨hplace, hlt, hends⟩ := hu.openBlock hbreak ho
  obtain ⟨o', ho', hO⟩ := htwin.openBlock hbreak o ho
  have hheader := (hO.scanner.cursor.skip (by rw [hO.cursor]; exact hbreak)).along hO.along
  obtain ⟨hhere, hcolumn, -⟩ := Here.of_twin hheader hplace hp fun _ => hi.trans hlt.le
  have hbreaks := hhere.nextBreaks o.scanner.mark o'.scanner.mark
    (o.scanner.indent + 1).toNat o.indent
    (fun _ => hcolumn) hends
  obtain ⟨b', hb', hB⟩ := hbreaks b hb
  rw [← hO.scanner.indent, ← hO.indent] at hb'
  obtain ⟨scalar', hscalar', hS⟩ :=
    hB.lines o'.scanner.mark (scanBlockBreaks.place hplace.skipLine hb)
    hscalar htakes (Nat.lt_succ_self _) (Nat.lt_succ_self _)
  refine ⟨o', b', scalar', ho', hb', ?_, hS, fun g => ?_⟩
  . rw [hO.chomping]
    exact hscalar'
  . refine hO.scanner.toStateTwin.rekey fun k hk hpossible => ?_
    rw [hu.not_possible hflow hO.removed k hk] at hpossible
    cases hpossible

theorem ScalarTwin.close {o o' : BlockOpening} {scalar scalar' : ScannedScalar} {q : Nat}
    (h : w.ScalarTwin scalar scalar') (hstate : ∀ R, Scanner.StateTwin R o.scanner o'.scanner)
    (hq : w.Stretch scalar.cursor.mark.index q)
    : (w.fork q scalar.cursor scalar'.cursor).ScannerTwin (o.close scalar) (o'.close scalar') := by
  have hdone := hstate (w.fork q scalar.cursor scalar'.cursor).Moved
  exact { hdone with
    cursor := h.here.twin h.column hq
    keyAllowed := rfl
    tokens := List.rel_append hdone.tokens (.cons h.kind .nil) }

theorem RunTwin.fetchBlock (h : w.RunTwin s s') (hstarted : s.started = true)
    (hblock : s.settled.startsBlock = true) (hr : s.fetch = .ok t)
    (hlines : ∀ l ∈ lines, l.Opened w.chars t.cursor.mark.index)
    (hcuts : ∀ k m, s.cursor.mark.index ≤ k → w.cut k = some m →
      ∃ l ∈ s.nextLines ++ lines, l.takes k m = true)
    : ∃ t', s'.fetch = .ok t' ∧ w.RunTwin t t' := by
  have ht := h.reads.fetch hr
  obtain ⟨hsettled, hbreak, hsuffix⟩ := h.reads.settled
  obtain ⟨-, hle, -⟩ := h.reads.index_le_of_block hstarted hblock hr
  obtain ⟨o, b, scalar, ho, hb, hscalar, rfl⟩ := h.reads.exists_block hstarted hblock hr
  obtain ⟨hplace, hlt, -⟩ := hsettled.openBlock hbreak ho
  have hbreaks := scanBlockBreaks.place hplace.skipLine hb
  obtain ⟨hend, hb_le, hbehind⟩ := le_of_mem_blockLines hbreaks hscalar
  have hcomment :=
    (Scanner.Reads.takeLineComment (s := o.close scalar) hend s.settled.lineCommentMark).2
  have hmem := fun l => Scanner.mem_blockLines_of_mem_nextLines (l := l) ho hb
  -- the header is the same, since what is cut is behind it
  have hopened : ∀ l ∈ s.nextLines ++ lines, l.Opened w.chars s.settled.cursor.mark.index := by
    intro l hl
    rw [List.mem_append] at hl
    obtain hl | hl := hl
    . exact h.reads.opened_of_mem_nextLines hl
    . exact (hlines l hl).mono fun g hg _ => hle.trans hg
  obtain ⟨p, hp, hbefore⟩ := exists_stretch s.cursor s'.cursor hopened hcuts fun g =>
    h.reads.place.le_of_suffix hsettled.place hsuffix
  have hsettle := (h.scanner hp).settled (hbefore _ hsettled.place (Nat.le_refl _))
  have hflow : s.settled.inFlow = false := by
    rw [Scanner.startsBlock, Bool.and_eq_true, Bool.not_eq_true'] at hblock
    exact hblock.2
  have hne : s.settled.cursor.rest ≠ [] := by
    intro hnil
    rw [Scanner.startsBlock, Cursor.peek_eq, hnil] at hblock
    cases hblock
  have hi := h.reads.place.index_le_of_suffix hsettled.place hsuffix hne
  have hb_index : s.settled.cursor.mark.index ≤ b.cursor.mark.index :=
    (hlt.le.trans hplace.index_le_skipLine).trans hbreaks.index_le
  -- what is cut within the scalar is taken by its lines, and what is cut behind it by later ones
  have hsplit {l : FoldedLine} {k m : Nat} := FoldedLine.mem_of_takes (l := l) (k := k) (n := m)
    (fun l hl => hbehind l (hmem l hl).2) (fun l hl => hcomment.trans (hlines l hl).index_le)
  obtain ⟨o', b', scalar', ho', hb', hscalar', hS, hstate⟩ :=
    exists_block_twin hsettled hsettle hp.clear hi hbreak hflow
    ho hb hscalar fun k m hk hlt hcut => by
      obtain ⟨l, hl, htaken⟩ := hcuts k m (by omega) hcut
      obtain ⟨hpeek, hl⟩ := hmem l ((hsplit hl htaken).1 hlt)
      rw [hpeek]
      exact ⟨rfl, l, hl, htaken⟩
  obtain ⟨q, hq, -⟩ := exists_stretch (i := scalar.cursor.mark.index) scalar.cursor
    scalar'.cursor hlines
    (fun k m hk hcut => by
      obtain ⟨l, hl, htaken⟩ := hcuts k m (by omega) hcut
      exact ⟨l, (hsplit hl htaken).2 hk, htaken⟩) fun g hg _ => hcomment.trans hg
  have hclose := hS.close hstate hq
  have hline := (hclose.takeLineComment s.settled.lineCommentMark s'.settled.lineCommentMark).1
  have hstarted' : s'.started = true := by rw [h.state.started, hstarted]
  have hblock' : s'.settled.startsBlock = true := by
    rw [Scanner.startsBlock, hsettle.cursor.peek, hsettle.inFlow]
    exact hblock
  have hr' := (Scanner.fetchNext_eq_ok_iff hstarted' hblock').mpr
    ⟨o', b', scalar', ho', hb', by rw [hsettle.cursor.peek]; exact hscalar', rfl⟩
  exact ⟨_, Scanner.fetch_eq_ok h.here.whole' hr' hline.cursor.whole',
    .of_scanner hline ht hq.clear fun _ => hcomment⟩

theorem RunTwin.fetch (h : w.RunTwin s s') (hr : s.fetch = .ok t)
    (hlines : ∀ l ∈ lines, l.Opened w.chars t.cursor.mark.index)
    (hcuts : ∀ k m, s.cursor.mark.index ≤ k → w.cut k = some m →
      ∃ l ∈ s.nextLines ++ lines, l.takes k m = true)
    : ∃ t', s'.fetch = .ok t' ∧ w.RunTwin t t' := by
  cases hstarted : s.started with
  | false =>
    have ht := h.reads.fetch hr
    have hstarted' : s'.started = false := by rw [h.state.started, hstarted]
    rw [h.reads.fetch_eq, Scanner.fetchNext_eq, hstarted] at hr
    cases hr
    have htwin : w.RunTwin ({ s with started := true }.push ⟨.streamStart, s.mark, s.mark⟩)
        ({ s' with started := true }.push ⟨.streamStart, s'.mark, s'.mark⟩) := by
      refine ⟨ht, h.here, h.column, ?_⟩
      exact { h.state with
        started := rfl
        tokens := List.rel_append h.state.tokens (.cons rfl .nil) }
    refine ⟨_, Scanner.fetch_eq_ok h.here.whole' ?_ htwin.here.whole', htwin⟩
    rw [Scanner.fetchNext_eq, hstarted']
    rfl
  | true =>
    cases hblock : s.settled.startsBlock with
    | true => exact h.fetchBlock hstarted hblock hr hlines hcuts
    | false =>
      refine h.fetchHere hstarted hblock hr hlines fun k m hk hcut => ?_
      obtain ⟨l, hl, htaken⟩ := hcuts k m hk hcut
      rw [List.mem_append] at hl
      obtain hl | hl := hl
      . obtain ⟨-, hfolded, -⟩ := Scanner.exists_block_of_mem_nextLines hl
        rw [Scanner.startsBlock_of_startsFolded hfolded] at hblock
        cases hblock
      . exact ⟨l, hl, htaken⟩

theorem RunTwin.takes_later (h : w.RunTwin s s') (hr : s.fetch = .ok t)
    (hcuts : ∀ k m, s.cursor.mark.index ≤ k → w.cut k = some m →
      ∃ l ∈ s.nextLines ++ lines, l.takes k m = true)
    {k m : Nat} (hk : t.cursor.mark.index ≤ k) (hcut : w.cut k = some m)
    : ∃ l ∈ lines, l.takes k m = true := by
  have hle := h.reads.place.le_of_suffix (h.reads.fetch hr).place (h.reads.suffix_fetch hr) hk
    (lt_length_of_some hcut)
  obtain ⟨l, hl, htaken⟩ := hcuts k m hle hcut
  rw [List.mem_append] at hl
  obtain hl | hl := hl
  . obtain ⟨hstarted, hfolded, -⟩ := Scanner.exists_block_of_mem_nextLines hl
    have hend :=
      (h.reads.index_le_of_block hstarted (Scanner.startsBlock_of_startsFolded hfolded) hr).2.2 l hl
    have := (FoldedLine.between_of_takes htaken).2
    omega
  . exact ⟨l, hl, htaken⟩

theorem RunTwin.give (h : w.RunTwin s s') {tokens tokens' : List Token}
    (htokens : List.Forall₂ (fun t t' => t'.kind = t.kind) tokens tokens')
    (comments comments' : List Comment)
    : w.RunTwin { s with tokens, given := s.given + 1, comments }
        { s' with tokens := tokens', given := s'.given + 1, comments := comments' } := by
  refine ⟨h.reads.give _ _ _, h.here, h.column, ?_⟩
  exact { h.state with given := congrArg (· + 1) h.state.given, tokens := htokens }

theorem run_leads {q : Prop} {fuel fuel' : Nat} (h : w.RunTwin s s')
    (hcuts : ∀ k m, s.cursor.mark.index ≤ k → w.cut k = some m →
      ∃ l ∈ s.foldedLines fuel, l.takes k m = true)
    (hfuel : fuel ≤ fuel') : Leads q (Scanner.run fuel s []).items
    (Scanner.run fuel' s' []).items := by
  induction fuel generalizing fuel' s s' with
  | zero => exact .nil _
  | succ fuel ih =>
    obtain ⟨fuel', rfl⟩ : ∃ k, fuel' = k + 1 := ⟨fuel' - 1, by omega⟩
    unfold Scanner.foldedLines at hcuts
    unfold Scanner.run
    cases hready : s.ready with
    | error e => exact .nil _
    | ok _ =>
      obtain ⟨ready, hready', rfl⟩ := h.state.ready h.agree _ hready
      rw [hready] at hcuts
      rw [hready']
      cases ready with
      | false =>
        cases hfetch : s.fetch with
        | error e => exact .nil _
        | ok t =>
          rw [hfetch] at hcuts
          have hlines : ∀ l ∈ t.foldedLines fuel,
            l.Opened w.chars t.cursor.mark.index := fun l hl =>
            Scanner.opened_of_mem_foldedLines (h.reads.fetch hfetch) hl
          obtain ⟨t', hfetch', ht⟩ := h.fetch hfetch hlines hcuts
          rw [hfetch']
          exact ih ht (fun k m hk hcut => h.takes_later hfetch hcuts hk hcut) (by omega)
      | true =>
        have htokens := h.state.tokens
        dsimp only at hcuts ⊢
        generalize htoken : s.tokens = l at htokens hcuts
        generalize s'.tokens = l' at htokens
        cases htokens with
        | nil => exact .nil _
        | @cons a a' l l' ha hrest =>
          have hkind : Spacing.KindTwin q a.kind a'.kind := ha ▸ .same _
          dsimp only at hcuts ⊢
          rw [ha]
          split
          . exact .cons hkind (.nil _)
          . next hend =>
            rw [if_neg hend] at hcuts
            rw [Scanner.items_run, Scanner.items_run _ _ [_]]
            exact .cons hkind (ih (h.give hrest _ _) hcuts (by omega))

theorem head?_after_zero (w : Wrap) : (w.after 0).head? = w.chars.head? := by
  cases hchars : w.chars with
  | nil => rw [after, hchars, List.drop_nil, broken]
  | cons ch cs =>
    have hcut : w.cut 0 = none := by
      by_contra hcut
      obtain ⟨n, hcut⟩ := Option.ne_none_iff_exists'.mp hcut
      obtain ⟨j, hlt, -⟩ := w.inside 0 n hcut
      exact Nat.not_lt_zero j hlt
    rw [after_of_none (by rw [hchars, List.drop_zero]) hcut]
    rfl

/-- The tokens of a stream come first among those of the stream with the added breaks. -/
theorem ofSource_leads {q : Prop} (w : Wrap) (front front' : Nat)
    (hfree : undirected true w.chars = true) (hfirst : w.chars.head?.any isByteOrderMark = false)
    (hcuts : ∀ k m, w.cut k = some m →
      ∃ l ∈ Scanner.foldedLines (12 * w.chars.length + 64) { cursor := { rest := w.chars } },
        l.takes k m = true)
    : Leads q (TokenStream.ofSource { chars := w.chars, fault := none, front }).items
        (TokenStream.ofSource { chars := w.after 0, fault := none, front := front' }).items := by
  have hlength := w.length_after 0
  rw [List.drop_zero] at hlength
  unfold TokenStream.ofSource
  dsimp only
  rw [w.head?_after_zero, hfirst]
  have hreads := Scanner.Reads.start hfree
  have htwin : w.RunTwin { cursor := { rest := w.chars } } { cursor := { rest := w.after 0 } } := by
    refine ⟨hreads, ⟨hreads.place, rfl, ⟨rfl, rfl, rfl⟩, Nat.le_refl _, Nat.le_refl _,
      fun _ => Iff.rfl⟩, rfl, ?_⟩
    exact ⟨rfl, rfl, rfl, rfl, rfl, rfl, .cons ⟨rfl, rfl, rfl, rfl, fun h => by cases h⟩ .nil, .nil⟩
  refine run_leads htwin (fun k m _ => hcuts k m) ?_
  simp only [List.length_nil]
  omega

end Wrap
end Yaml
end YamlOrder
