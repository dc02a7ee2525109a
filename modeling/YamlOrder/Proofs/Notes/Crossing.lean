import YamlOrder.Proofs.Notes.BlockScalar
import YamlOrder.Proofs.Notes.Gap

/-!
This module contains a comment line that is added to a stream, and two readers that pass its place,
one without and one with the line. They do so between two tokens, and are in step behind it.
-/

namespace YamlOrder
namespace Yaml

open StateTransition (Reaches eval)

namespace Fork

/-- Two readers with the same before them, one of them some characters and lines ahead. -/
structure Level (f : Fork) (c c' : Cursor) : Prop where
  rest : c'.rest = c.rest
  mark : c'.mark = f.shift c.mark
  floor : f.floor ≤ c.mark.line
  floor' : f.floor' ≤ c'.mark.line
  whole : c.Whole
  whole' : c'.Whole

variable {f : Fork} {a a' c c' d d' : Cursor} {n : Nat}

namespace Level

theorem peek (h : f.Level c c') (n : Nat) : c'.peek n = c.peek n := by
  rw [Cursor.peek_eq, Cursor.peek_eq, h.rest]

theorem skipN (h : f.Level c c') (n : Nat) : f.Level (c.skipN n) (c'.skipN n) := by
  induction n generalizing c c' with
  | zero => exact h
  | succ n ih =>
    refine ih ⟨?_, ?_, h.floor, h.floor', h.whole.skip, h.whole'.skip⟩
    . rw [Cursor.rest_skip, Cursor.rest_skip, h.rest]
    . simp only [Cursor.skip, h.mark, shift, Mark.mk.injEq, and_true]
      omega

theorem skipLine (h : f.Level c c') (hbreak : isBreak c.peek = true)
    : f.Level c.skipLine c'.skipLine := by
  have hpair : c'.atPair = c.atPair := by
    unfold Cursor.atPair
    rw [h.peek, h.peek]
  have hmark := h.mark
  rw [shift, Mark.mk.injEq] at hmark
  rw [h.whole.skipLine_eq hbreak, h.whole'.skipLine_eq (by rwa [h.peek]), hpair, h.rest]
  refine ⟨rfl, ?_, Nat.le_succ_of_le h.floor, Nat.le_succ_of_le h.floor',
    ⟨h.whole.fault, h.whole.front, h.whole.short⟩,
    ⟨h.whole'.fault, h.whole'.front, h.whole'.short⟩⟩
  simp only [shift, hmark, Mark.mk.injEq, and_true]
  omega

theorem stepGap (h : f.Level c c') (hstep : c.stepGap = some d)
    : ∃ d', c'.stepGap = some d' ∧ f.Level d d' := by
  unfold Cursor.stepGap at hstep ⊢
  rw [h.peek]
  split at hstep
  . next hspace =>
    cases hstep
    exact ⟨_, if_pos hspace, h.skipN 1⟩
  next hspace =>
  rw [if_neg hspace]
  split at hstep
  . next hnumber =>
    cases hstep
    refine ⟨_, if_pos hnumber, ?_⟩
    rw [h.whole.skipToBreak, h.whole'.skipToBreak, Cursor.takeWhile, Cursor.takeWhile, h.rest]
    exact h.skipN _
  next hnumber =>
  rw [if_neg hnumber]
  split at hstep
  . next hbreak =>
    cases hstep
    exact ⟨_, if_pos hbreak, h.skipLine hbreak⟩
  . cases hstep

theorem reaches (h : f.Level c c') (hd : Reaches Cursor.stepGap c d)
    : ∃ d', Reaches Cursor.stepGap c' d' ∧ f.Level d d' := by
  induction hd with
  | refl => exact ⟨c', .refl, h⟩
  | tail _ hstep ih =>
    obtain ⟨e', he, hlevel⟩ := ih
    obtain ⟨d', hd, hnext⟩ := hlevel.stepGap hstep
    exact ⟨d', he.tail hd, hnext⟩

theorem twin (h : f.Level c c') (hjoined : f.Joined) (htame : Tame c.rest)
    (hstop : c.stepGap = none) : f.Twin c c' := by
  obtain ⟨hspace, hnumber, -⟩ := Cursor.stepGap_eq_none_iff.mp hstop
  refine ⟨⟨c.rest, ?_, ?_, .inl hjoined⟩, h.mark, h.floor, h.floor', ?_, h.whole, h.whole'⟩
  . rw [hjoined.1, List.append_nil]
  . rw [hjoined.2, List.append_nil, h.rest]
  . intro hstarts
    rw [Bool.or_eq_true, beq_iff_eq] at hstarts
    obtain hpeek | hblank := hstarts
    . exact absurd hpeek hnumber
    . exact absurd (Cursor.eq_space_of_isBlank htame hblank) hspace

end Level

theorem Twin.reaches_or (h : f.Twin c c') (hd : Reaches Cursor.stepGap c d)
    : (∃ d', Reaches Cursor.stepGap c' d' ∧ f.Twin d d') ∨
        ∃ a a', f.Leaves a a' ∧ c.mark.line < a.mark.line ∧ Reaches Cursor.stepGap c a ∧
          Reaches Cursor.stepGap c' a' := by
  induction hd with
  | refl => exact .inl ⟨c', .refl, h⟩
  | @tail e d hreaches hstep ih =>
    obtain ⟨e', he', htwin⟩ | hleaves := ih
    . have hline := (Cursor.le_of_reaches h.whole hreaches).2.2
      rw [Option.mem_def, Cursor.stepGap] at hstep
      split at hstep
      . next hspace =>
        cases hstep
        refine .inl ⟨_, he'.tail (Cursor.stepGap_space (htwin.peek.trans hspace)), htwin.skip ?_⟩
        rw [hspace]
        rfl
      split at hstep
      . next hnumber =>
        cases hstep
        exact .inl ⟨_, he'.tail (Cursor.stepGap_comment (htwin.peek.trans hnumber)),
          htwin.along htwin.sameLine.skipToBreak⟩
      split at hstep
      . next hbreak =>
        cases hstep
        have hstep' := he'.tail (Cursor.stepGap_break (htwin.peek ▸ hbreak))
        obtain hnext | hleaves := htwin.skipLine_or hbreak
        . exact .inl ⟨_, hstep', hnext⟩
        . exact .inr ⟨_, _, hleaves, hline.trans_lt (Cursor.line_lt_skipLine htwin.whole hbreak),
            hreaches.tail (Cursor.stepGap_break hbreak), hstep'⟩
      . cases hstep
    . exact .inr hleaves

end Fork

namespace scanPlain

variable {inFlow : Bool} {least fuel : Nat} {c now d e : Cursor} {value cs : List Char} {g : Gap}
  {last : Mark} {s : ScannedScalar}

theorem le_last_behind (hcs : Tame cs) (hd : d.At cs) (hle : last.index ≤ d.mark.index)
    (hgo : ∀ g (e : Cursor), e.At cs → last.index ≤ e.mark.index →
      go inFlow least c fuel e value g last = .ok s → last.index ≤ s.token.last.index)
    (h : behind inFlow least c fuel d value g last = .ok s)
    : last.index ≤ s.token.last.index := by
  unfold behind at h
  split at h
  . obtain ⟨⟨g', e⟩, hscan, h⟩ := Sorter.bind_eq_ok.mp h
    have htame : Tame d.rest := by
      rw [hd.rest]
      exact hcs.of_suffix (List.drop_suffix _ _)
    obtain ⟨he, hindex⟩ := hd.reaches (Gap.reaches_scan hd.toWhole htame hscan)
    dsimp only at h
    split at h
    . cases h
      exact Nat.le_refl _
    . exact hgo g' e he (hle.trans hindex) h
  . cases h
    exact Nat.le_refl _

theorem le_last (hcs : Tame cs) (hnow : now.At cs) (hle : last.index ≤ now.mark.index)
    (h : go inFlow least c fuel now value g last = .ok s) : last.index ≤ s.token.last.index := by
  induction fuel generalizing now value g last with
  | zero =>
    cases h
    exact Nat.le_refl _
  | succ fuel ih =>
    rw [go_succ hnow.toWhole] at h
    split at h
    . cases h
      exact Nat.le_refl _
    split at h
    . exact le_last_behind hcs hnow hle (fun g e he hle => ih he hle) h
    . have hword := hnow.skipN (plainRun inFlow now.rest)
      rw [hword.toWhole.need] at h
      have hle := le_last_behind hcs hword (Nat.le_refl _) (fun g e he hle => ih he hle) h
      refine Nat.le_trans ?_ hle
      rw [Cursor.index_skipN]
      omega

theorem eq_finish_or_lt (hcs : Tame cs) (he : e.At cs)
    (hstop : isBlank e.peek = false ∧ isBreak e.peek = false)
    (h : go inFlow least c fuel e value g last = .ok s)
    : s = finish c e value g last ∨ e.mark.index < s.token.last.index := by
  cases fuel with
  | zero =>
    cases h
    exact .inl rfl
  | succ fuel =>
    rw [go_succ he.toWhole] at h
    split at h
    . cases h
      exact .inl rfl
    split at h
    . rw [behind, hstop.1, hstop.2, Bool.or_false, if_neg Bool.false_ne_true] at h
      cases h
      exact .inl rfl
    . next hword =>
      right
      have hnext := he.skipN (plainRun inFlow e.rest)
      rw [hnext.toWhole.need] at h
      refine Nat.lt_of_lt_of_le ?_
        (le_last_behind hcs hnext (Nat.le_refl _) (fun g e he hle => le_last hcs he hle) h)
      rw [Cursor.index_skipN]
      omega

theorem go_number (hnow : now.Whole) (hpeek : now.peek = '#')
    : go inFlow least c fuel now value g last = .ok (finish c now value g last) := by
  cases fuel with
  | zero => rfl
  | succ fuel => rw [go_succ hnow, hpeek, beq_self_eq_true, Bool.or_true, if_pos rfl]

end scanPlain

namespace scanQuoted

variable {single escaped : Bool} {fuel : Nat} {c now : Cursor} {acc : List Char} {s : ScannedScalar}

theorem quote_ne_end (single : Bool) : quote single ≠ endChar := by
  cases single
  all_goals decide

/-- Whether a scalar ends with its quote. -/
def Closes (single : Bool) (rest : List Char) (s : ScannedScalar) : Prop :=
  s.token.last = s.cursor.mark ∧
    ∃ d : Cursor, s.cursor = d.skip ∧ d.peek = quote single ∧ d.rest <:+ rest

theorem closes_behind
    (hgo : ∀ {acc now}, go single c fuel acc now = .ok s → Closes single now.rest s)
    (h : behind single c fuel acc escaped now = .ok s) : Closes single now.rest s := by
  unfold behind at h
  split at h
  . next hquote =>
    cases h
    exact ⟨rfl, now, rfl, beq_iff_eq.mp hquote, List.suffix_refl _⟩
  . obtain ⟨⟨g, e⟩, hscan, h⟩ := Sorter.bind_eq_ok.mp h
    obtain ⟨hlast, d, hd, hpeek, hsuffix⟩ := hgo h
    exact ⟨hlast, d, hd, hpeek, hsuffix.trans (Gap.suffix_scan hscan)⟩

theorem closes (h : go single c fuel acc now = .ok s) : Closes single now.rest s := by
  induction fuel generalizing now acc with
  | zero => cases h
  | succ fuel ih =>
    unfold go at h
    dsimp only at h
    split at h
    . cases h
    split at h
    . cases h
    obtain ⟨⟨acc', leading, d⟩, hrun, h⟩ := Sorter.bind_eq_ok.mp h
    obtain ⟨hlast, e, he, hpeek, hsuffix⟩ := closes_behind ih h
    refine ⟨hlast, e, he, hpeek, hsuffix.trans ?_⟩
    exact (Cursor.suffix_need 1 d).trans
      ((suffix_scanQuotedRun hrun).trans (Cursor.suffix_need 4 now))

end scanQuoted

/-- A stream without tabs, and a comment line that is added before one of its lines. -/
structure Note where
  before : List Char
  behind : List Char
  spaces : Nat
  content : List Char
  /-- Whether a carriage return ends the line, with a line feed behind it. -/
  paired : Bool
  opens : before = [] ∨ ∃ w, before = w ++ ['\n']
  plain : ∀ ch ∈ content, isBreakOrEnd ch = false
  untabbed : '\t' ∉ content
  tame : Tame (before ++ behind)

namespace Note

variable {p : Note} {a a' c c' d d' : Cursor} {floor n : Nat}

def chars (p : Note) : List Char := p.before ++ p.behind

/-- What ends the line. -/
def ending (p : Note) : List Char := if p.paired then ['\r', '\n'] else ['\n']

/-- The line. -/
def added (p : Note) : List Char :=
  List.replicate p.spaces ' ' ++ '#' :: (p.content ++ p.ending)

/-- The stream with the line. -/
def extended (p : Note) : List Char := p.before ++ (p.added ++ p.behind)

/-- The two streams up to the line. -/
def fork (p : Note) : Fork where
  rest := p.behind
  rest' := p.added ++ p.behind
  index := 0
  line := 0
  length_le := by
    rw [List.length_append]
    exact Nat.le_add_left _ _

/-- The two streams behind the line, for readers that are not above some line. -/
def beyond (p : Note) (floor : Nat) : Fork :=
  { Fork.none with index := p.added.length, line := 1, floor, floor' := floor }

theorem joined_beyond (p : Note) (floor : Nat) : (p.beyond floor).Joined := ⟨rfl, rfl⟩

/-- Two readers at the place of the line. -/
structure At (p : Note) (a a' : Cursor) : Prop where
  rest : a.rest = p.behind
  rest' : a'.rest = p.added ++ p.behind
  mark : a'.mark = a.mark
  column : a.mark.column = 0
  whole : a.Whole
  whole' : a'.Whole

theorem not_joined (p : Note) : ¬ p.fork.Joined := by
  intro h
  have hline : p.added ++ p.behind = [] := h.2
  simp [added] at hline

theorem before_iff (c : Cursor) : p.fork.Before c ↔ p.behind.length < c.rest.length :=
  or_iff_right p.not_joined

theorem of_leaves (h : p.fork.Leaves a a') : p.At a a' ∧ a.newlines ≠ 0 ∧ a'.newlines ≠ 0 := by
  obtain ⟨c, c', hc, hbreak, hnext, rfl, rfl⟩ := h
  have hbreak' : isBreak c'.peek = true := by rwa [hc.peek]
  have heq := hc.whole.skipLine_eq hbreak
  have heq' := hc.whole'.skipLine_eq hbreak'
  obtain ⟨u, hrest, hrest', hjoined | ⟨-, w, hu⟩⟩ := hc.rest
  . exact absurd hjoined p.not_joined
  rw [before_iff, heq] at hnext
  have hmark : c'.mark = c.mark := hc.mark
  have hlast : u = w ++ ['\n'] := hu
  have hbehind : c.rest = u ++ p.behind := hrest
  have hbehind' : c'.rest = u ++ (p.added ++ p.behind) := hrest'
  dsimp only at hnext
  rw [hbehind, List.length_drop, List.length_append] at hnext
  -- of the break only the line feed is left, or all of it
  have hwidth : c'.atPair = c.atPair ∧ (if c.atPair then 2 else 1) = u.length := by
    match w, hlast with
    | [], hlast =>
      have hpair {e : Cursor} {x : List Char} (he : e.rest = u ++ x) : e.atPair = false := by
        rw [Cursor.atPair, Cursor.peek_of_rest (hlast ▸ he)]
        rfl
      rw [hpair hbehind, hpair hbehind', hlast]
      exact ⟨rfl, rfl⟩
    | [ch], hlast =>
      have hpair {e : Cursor} {x : List Char} (he : e.rest = u ++ x)
          : e.atPair = (ch == '\r') := by
        rw [Cursor.atPair, Cursor.peek_eq, Cursor.peek_eq, he, hlast]
        simp
      rw [hlast] at hnext
      simp only [List.cons_append, List.nil_append, List.length_cons, List.length_nil] at hnext
      refine ⟨(hpair hbehind').trans (hpair hbehind).symm, ?_⟩
      split at hnext
      . next hpair =>
        rw [if_pos hpair, hlast]
        rfl
      . omega
    | ch :: ch' :: w, hlast =>
      rw [hlast] at hnext
      simp only [List.cons_append, List.length_cons, List.length_append] at hnext
      split at hnext
      . omega
      . omega
  rw [heq, heq', hwidth.1, hwidth.2]
  refine ⟨⟨?_, ?_, ?_, rfl, ?_, ?_⟩, Nat.succ_ne_zero _, Nat.succ_ne_zero _⟩
  . dsimp only
    rw [hbehind, List.drop_left]
  . dsimp only
    rw [hbehind', List.drop_left]
  . dsimp only
    rw [hmark]
  . exact ⟨hc.whole.fault, hc.whole.front, hc.whole.short⟩
  . exact ⟨hc.whole'.fault, hc.whole'.front, hc.whole'.short⟩

theorem At.rest_eq (h : p.At a a')
    : a'.rest = List.replicate p.spaces ' ' ++ '#' :: (p.content ++ (p.ending ++ p.behind)) := by
  simp [h.rest', added]

theorem At.peek_of_lt (h : p.At a a') : ∀ k < p.spaces, a'.peek k = ' ' := by
  intro k hk
  rw [Cursor.peek_eq, h.rest_eq, List.getD_eq_getElem?_getD,
    List.getElem?_append_left (by rwa [List.length_replicate]),
    List.getElem?_replicate_of_lt hk, Option.getD_some]

theorem At.peek_skipN (h : p.At a a') : (a'.skipN p.spaces).peek = '#' := by
  rw [Cursor.peek_eq, Cursor.rest_skipN, h.rest_eq, List.drop_left' List.length_replicate]
  rfl

theorem At.reaches_skipN (h : p.At a a') : Reaches Cursor.stepGap a' (a'.skipN p.spaces) :=
  Cursor.reaches_skipN h.peek_of_lt

theorem At.exists_level (h : p.At a a')
    : ∃ b', Reaches Cursor.stepGap a' b' ∧ (p.beyond a.mark.line).Level a b' := by
  have hcomment : (a'.skipN p.spaces).rest = '#' :: p.content ++ (p.ending ++ p.behind) := by
    rw [Cursor.rest_skipN, h.rest_eq, List.drop_left' List.length_replicate]
    rfl
  obtain ⟨ch, x, hending, hch, hwidth⟩ : ∃ ch x, p.ending ++ p.behind = ch :: x ∧
      isBreak ch = true ∧
        ∀ e : Cursor, e.rest = ch :: x → (if e.atPair then 2 else 1) = p.ending.length := by
    unfold ending
    cases p.paired with
    | true =>
      refine ⟨'\r', '\n' :: p.behind, rfl, rfl, fun e he => ?_⟩
      rw [Cursor.atPair, Cursor.peek_eq, Cursor.peek_eq, he]
      rfl
    | false =>
      refine ⟨'\n', p.behind, rfl, rfl, fun e he => ?_⟩
      rw [Cursor.atPair, Cursor.peek_eq, Cursor.peek_eq, he]
      rfl
  have hplain : ∀ d ∈ '#' :: p.content, isBreakOrEnd d = false := by
    simpa using ⟨rfl, p.plain⟩
  have hwhole := h.whole'.skipN p.spaces
  have hreaches := h.reaches_skipN
  generalize hb : a'.skipN p.spaces = b at *
  rw [hending] at hcomment
  obtain ⟨-, hskip⟩ :=
    Cursor.skipToBreak_of_rest hwhole hcomment hplain (by simp [isBreakOrEnd, hch])
  have hline := hreaches.tail (Cursor.stepGap_comment (Cursor.peek_of_rest hcomment))
  have hstop : b.skipToBreak.rest = ch :: x := by
    rw [hskip, Cursor.rest_skipN, hcomment, List.drop_left]
  have hwhole' : b.skipToBreak.Whole := hwhole.skipWhile _
  have hbreak : isBreak b.skipToBreak.peek = true := by rwa [Cursor.peek_of_rest hstop]
  refine ⟨_, hline.tail (Cursor.stepGap_break hbreak), ?_⟩
  have hmark : b.skipToBreak.mark.index + p.ending.length = a.mark.index + p.added.length ∧
      b.skipToBreak.mark.line = a.mark.line := by
    rw [hskip, Cursor.index_skipN, Cursor.line_skipN, ← hb, Cursor.index_skipN, Cursor.line_skipN,
      h.mark]
    refine ⟨?_, rfl⟩
    simp only [added, List.length_append, List.length_cons, List.length_replicate]
    omega
  rw [hwhole'.skipLine_eq hbreak, hwidth _ hstop, hstop, ← hending, hmark.1, hmark.2]
  refine ⟨?_, ?_, Nat.le_refl _, Nat.le_succ _, h.whole, ?_⟩
  . rw [List.drop_left, h.rest]
  . rw [Fork.shift, h.column]
    rfl
  . exact ⟨hwhole'.fault, hwhole'.front, hwhole'.short⟩

theorem tame_behind (p : Note) : Tame p.behind := p.tame.of_suffix (List.suffix_append _ _)

/-- Readers at the place of the line come to the same token, and are in step there. -/
theorem At.exists_twin (h : p.At a a') (hd : d ∈ eval Cursor.stepGap a)
    : ∃ d' ∈ eval Cursor.stepGap a', (p.beyond a.mark.line).Twin d d' := by
  obtain ⟨b', hb, hlevel⟩ := h.exists_level
  obtain ⟨hreaches, hstop⟩ := StateTransition.mem_eval.mp hd
  obtain ⟨d', hd', hnext⟩ := hlevel.reaches hreaches
  have hstop' : d'.stepGap = none := by
    rw [Cursor.stepGap_eq_none_iff] at hstop ⊢
    rwa [hnext.peek]
  have htame : Tame d.rest := by
    refine p.tame_behind.of_suffix ?_
    rw [← h.rest]
    exact (Cursor.le_of_reaches h.whole hreaches).2.1
  refine ⟨d', ?_, hnext.twin (p.joined_beyond _) htame hstop⟩
  rw [StateTransition.reaches_eval hb]
  exact StateTransition.mem_eval.mpr ⟨hd', hstop'⟩

/--
Two readers behind the same token above some line, which have passed white space beyond the place of
the comment line.
-/
def Crossed (p : Note) (line : Nat) (c c' : Cursor) : Prop :=
  ∃ a a', p.At a a' ∧ line < a.mark.line ∧ Reaches Cursor.stepGap a c ∧
    Reaches Cursor.stepGap a' c' ∧ c.newlines ≠ 0 ∧ c'.newlines ≠ 0

section Plain

variable {inFlow : Bool} {least fuel fuel' line n' : Nat} {now now' e e' : Cursor}
  {value : List Char} {g i : Gap} {last last' start start' : Mark} {s : ScannedScalar}
  {r' : Except Fault ScannedScalar}

theorem exists_scan_of_leaves (start' : Mark) (h : p.fork.Leaves a a') (hline : line < a.mark.line)
    (hleading : i.leading = true) (hfuel : a'.rest.length < n')
    (hr : Gap.scan start least n i a = .ok (g, e))
    : ∃ e', Gap.scan start' least n' i a' = .ok (i, e') ∧ e'.peek = '#' ∧ e'.Whole ∧
        g.leading = true ∧ p.Crossed line e e' := by
  obtain ⟨hat, hnew, hnew'⟩ := p.of_leaves h
  have hlt : p.spaces < n' := by
    simp only [hat.rest_eq, List.length_append, List.length_replicate] at hfuel
    omega
  have hscan : Gap.scan start' least n' i a' = .ok (i, a'.skipN p.spaces) :=
    Gap.scan_spaces hat.whole' hleading hat.rest_eq rfl rfl hlt
  have htame : Tame a.rest := by
    rw [hat.rest]
    exact p.tame_behind
  obtain ⟨hlead, hend⟩ := Gap.behind_break hat.whole hr hleading hnew
  obtain ⟨-, hend'⟩ := Gap.behind_break hat.whole' hscan hleading hnew'
  exact ⟨_, hscan, hat.peek_skipN, hat.whole'.skipN _, hlead, a, a', hat, hline,
    Gap.reaches_scan hat.whole htame hr, hat.reaches_skipN, hend, hend'⟩

/-- The same scalar, read by two readers that pass the place of the line behind it. -/
structure ScalarCross (p : Note) (line : Nat) (s s' : ScannedScalar) : Prop where
  kind : s'.token.kind = s.token.kind
  crossed : p.Crossed line s.cursor s'.cursor
  brokeLine : s.brokeLine = true
  brokeLine' : s'.brokeLine = true

theorem le_index_of_not_before (he : e.At p.chars) (hnot : ¬ p.fork.Before e)
    : p.before.length ≤ e.mark.index := by
  rw [before_iff, he.rest, chars, List.length_drop, List.length_append] at hnot
  omega

theorem plain_behind_or (hd : p.fork.Twin d d') (hat : d.At p.chars) (hline : line ≤ d.mark.line)
    (hlast : last.index ≤ d.mark.index)
    (hgo : ∀ g e e', p.fork.Twin e e' → e.At p.chars → line ≤ e.mark.line →
      last.index ≤ e.mark.index → e.rest.length < d.rest.length →
      e'.rest.length < d'.rest.length →
      scanPlain.go inFlow least c fuel e value g last = .ok s →
        (∃ s', scanPlain.go inFlow least c' fuel' e' value g last' = .ok s' ∧
          p.fork.ScalarTwin s s') ∨
        (∃ s', scanPlain.go inFlow least c' fuel' e' value g last' = .ok s' ∧
          p.ScalarCross line s s') ∨ p.before.length < s.token.last.index)
    (h : scanPlain.behind inFlow least c fuel d value g last = .ok s)
    : (∃ s', scanPlain.behind inFlow least c' fuel' d' value g last' = .ok s' ∧
          p.fork.ScalarTwin s s') ∨
        (∃ s', scanPlain.behind inFlow least c' fuel' d' value g last' = .ok s' ∧
          p.ScalarCross line s s') ∨ p.before.length < s.token.last.index := by
  unfold scanPlain.behind at h ⊢
  rw [hd.peek]
  split at h
  . next hgap =>
    rw [if_pos hgap]
    obtain ⟨⟨g₁, e⟩, hscan, h⟩ := Sorter.bind_eq_ok.mp h
    have htame : Tame d.rest := by
      rw [hat.rest]
      exact p.tame.of_suffix (List.drop_suffix _ _)
    have hreaches := Gap.reaches_scan hat.toWhole htame hscan
    obtain ⟨he, hindex⟩ := hat.reaches hreaches
    have hle := hline.trans (Cursor.le_of_reaches hat.toWhole hreaches).2.2
    dsimp only at h
    obtain ⟨e', hscan', htwin⟩ | ⟨a, a', i, n, n', hleaves, hlt, hleading, hfuel, hbase, himage⟩ :=
      hd.scan_or c'.mark (Nat.lt_succ_self _) (Nat.lt_succ_self _) hscan
    . rw [hscan']
      show (∃ s', (if !inFlow && e'.mark.column < least then _ else _) = _ ∧ _) ∨
        (∃ s', (if !inFlow && e'.mark.column < least then _ else _) = _ ∧ _) ∨ _
      rw [htwin.column]
      split at h
      . next hcolumn =>
        rw [if_pos hcolumn]
        cases h
        exact .inl ⟨_, rfl, rfl, htwin, rfl⟩
      . next hcolumn =>
        rw [if_neg hcolumn]
        have hlength := Gap.length_scan_lt (by simpa using hgap) hscan
        have hlength' := Gap.length_scan_lt (by simpa [hd.peek] using hgap) hscan'
        exact hgo _ e e' htwin he hle (hlast.trans hindex) hlength hlength' h
    . right
      have hnot := hleaves.not_before (Gap.suffix_scan hbase)
      have hbeyond := p.le_index_of_not_before he hnot
      have hstop := Gap.stop_scan hscan (Nat.lt_succ_self _)
      obtain ⟨e', hscan', hpeek', hwhole', hlead, hcrossed⟩ := p.exists_scan_of_leaves c'.mark
        hleaves (hline.trans_lt hlt) hleading hfuel hbase
      have hend : s = scanPlain.finish c e value g₁ last ∨ e.mark.index < s.token.last.index := by
        split at h
        . cases h
          exact .inl rfl
        . exact scanPlain.eq_finish_or_lt p.tame he hstop h
      obtain rfl | hlong := hend
      . left
        refine ⟨scanPlain.finish c' e' value i last', ?_, rfl, hcrossed, hlead, hleading⟩
        rw [himage, hscan']
        show (if !inFlow && e'.mark.column < least then _ else _) = _
        split
        . rfl
        . exact scanPlain.go_number hwhole' hpeek'
      . exact .inr (hbeyond.trans_lt hlong)
  . next hgap =>
    rw [if_neg hgap]
    cases h
    exact .inl ⟨_, rfl, rfl, hd, rfl⟩

theorem plain_go_or (h : p.fork.Twin now now') (hat : now.At p.chars) (hline : line ≤ now.mark.line)
    (hlast : last.index ≤ now.mark.index) (hfuel : now.rest.length < fuel)
    (hfuel' : now'.rest.length < fuel')
    (hr : scanPlain.go inFlow least c fuel now value g last = .ok s)
    : (∃ s', scanPlain.go inFlow least c' fuel' now' value g last' = .ok s' ∧
          p.fork.ScalarTwin s s') ∨
        (∃ s', scanPlain.go inFlow least c' fuel' now' value g last' = .ok s' ∧
          p.ScalarCross line s s') ∨ p.before.length < s.token.last.index := by
  induction fuel generalizing fuel' now now' value g last last' with
  | zero => exact absurd hfuel (Nat.not_lt_zero _)
  | succ fuel ih =>
    obtain ⟨fuel', rfl⟩ : ∃ k, fuel' = k + 1 := ⟨fuel' - 1, by omega⟩
    have hsame := h.sameLine
    rw [scanPlain.go_succ h.whole] at hr
    rw [scanPlain.go_succ h.whole', hsame.atDocumentMarker, h.peek, hsame.plainRun]
    split at hr
    . next hend =>
      rw [if_pos hend]
      cases hr
      exact .inl ⟨_, rfl, rfl, h, rfl⟩
    next hend =>
    rw [if_neg hend]
    split at hr
    . next hnone =>
      rw [if_pos hnone]
      refine plain_behind_or h hat hline hlast ?_ hr
      intro g e e' he heat hle hindex hlength hlength' hgo
      exact ih he heat hle hindex (by omega) (by omega) hgo
    . next hword =>
      rw [if_neg hword]
      have hnobreak (k : Nat) (hk : k < plainRun inFlow now.rest)
          : isBreak (now.peek k) = false := not_isBreak_of_lt_plainRun hk
      have hnext := h.along (.skipN hnobreak)
      have hplace := hat.skipN (plainRun inFlow now.rest)
      rw [hnext.whole.need] at hr
      rw [hsame.take hnobreak, hnext.whole'.need]
      refine plain_behind_or hnext hplace (by rwa [Cursor.line_skipN]) (Nat.le_refl _) ?_ hr
      intro g e e' he heat hle hindex hlength hlength' hgo
      rw [Cursor.rest_skipN, List.length_drop] at hlength hlength'
      exact ih he heat hle hindex (by omega) (by omega) hgo

/-- A plain scalar ends before the place of the line or there, or goes beyond it. -/
theorem plain_or (h : p.fork.Twin c c') (hat : c.At p.chars)
    (hr : scanPlain inFlow least c = .ok s)
    : (∃ s', scanPlain inFlow least c' = .ok s' ∧ p.fork.ScalarTwin s s') ∨
        (∃ s', scanPlain inFlow least c' = .ok s' ∧ p.ScalarCross c.mark.line s s') ∨
        p.before.length < s.token.last.index :=
  plain_go_or h hat (Nat.le_refl _) (Nat.le_refl _) (Nat.lt_succ_self _) (Nat.lt_succ_self _) hr

end Plain

/-- A quoted scalar ends before the place of the line, or goes beyond it. -/
theorem quoted_or {single : Bool} {s : ScannedScalar} (h : p.fork.Twin c c')
    (hc : isBreak c.peek = false) (hs : s.cursor.At p.chars) (hr : scanQuoted single c = .ok s)
    : (∃ s', scanQuoted single c' = .ok s' ∧ p.fork.ScalarTwin s s') ∨
        p.before.length < s.token.last.index := by
  by_cases hbefore : p.fork.Before s.cursor
  . exact .inl (h.scanQuoted hc s hr hbefore)
  . right
    obtain ⟨hlast, d, hd, hpeek, hsuffix⟩ := scanQuoted.closes hr
    have hle := p.le_index_of_not_before hs hbefore
    rw [hlast]
    refine Nat.lt_of_le_of_ne hle fun heq => ?_
    have hbehind : s.cursor.rest = p.behind := by
      rw [hs.rest, ← heq, chars, List.drop_left]
    have hquote : d.rest = scanQuoted.quote single :: p.behind := by
      obtain ⟨cs, hcs⟩ := Cursor.exists_rest_of_peek hpeek (scanQuoted.quote_ne_end single)
      rw [hd, Cursor.rest_skip, hcs, List.tail_cons] at hbehind
      rw [hcs, hbehind]
    obtain ⟨u, hrest, -, hjoined | ⟨-, w, hu⟩⟩ := h.rest
    . exact p.not_joined hjoined
    -- the quote would be the line break before the place of the line
    have hline : '\n' :: p.behind <:+ c.rest := ⟨w, by rw [hrest, hu, List.append_assoc]; rfl⟩
    have hsuffix := hsuffix.trans c.suffix_skip
    rw [hquote] at hsuffix
    have hsame := (List.suffix_of_suffix_length_le hsuffix hline (Nat.le_refl _)).eq_of_length rfl
    exact scanQuoted.quote_ne_newline single (List.cons.inj hsame).1

section Block

variable {start start' : Mark} {least indent line deepest : Nat}
  {breaks value firstBreak : List Char} {next : BlockBreaks} {literal leadingBlank : Bool}
  {chomping : Chomping} {s : ScannedScalar} {r' : Except Fault ScannedScalar}

theorem At.base_breaks (h : p.At a a') (ha : a.At p.chars) (hnew : a.newlines ≠ 0)
    (hr : scanBlockBreaks.go start least indent n breaks deepest a.mark a = .ok next)
    : a.mark.index < next.last.index ∨
        next.breaks = breaks ∧ Reaches Cursor.stepGap a next.cursor ∧ next.cursor.newlines ≠ 0 := by
  cases n with
  | zero =>
    cases hr
    exact .inr ⟨rfl, .refl, hnew⟩
  | succ n =>
    have hspaces : ∀ k < scanBlockBreaks.width indent a, a.peek k = ' ' := by
      intro k hk
      have := Cursor.peek_of_lt_takeWhile (hk.trans_le (scanBlockBreaks.width_le indent a))
      simpa using this
    rw [scanBlockBreaks.go_succ h.whole] at hr
    split at hr
    . cases hr
    split at hr
    . next hbreak =>
      left
      have hnext : (scanBlockBreaks.indented indent a).At p.chars := ha.skipN _
      have hindex := Spacing.index_le_indented indent a
      have hlt := Cursor.index_lt_skipLine hnext.toWhole hbreak
      have := (scanBlockBreaks.le_last hnext.skipLine (Nat.le_refl _) hr).2.1
      omega
    . right
      cases hr
      refine ⟨rfl, Cursor.reaches_skipN hspaces, ?_⟩
      show (scanBlockBreaks.indented indent a).newlines ≠ 0
      rwa [scanBlockBreaks.indented, Cursor.newlines_skipN_of_spaces hspaces]

/-- The second reader stops at the comment, which is not indented like a line of the scalar. -/
theorem At.image_breaks (start' : Mark) (n : Nat) (h : p.At a a') (hnew : a'.newlines ≠ 0)
    (hspaces : p.spaces < Fork.lowest least indent)
    : ∃ next, scanBlockBreaks.go start' least indent n breaks deepest a'.mark a' = .ok next ∧
        next.breaks = breaks ∧ next.cursor.mark.column < next.indent ∧
          Reaches Cursor.stepGap a' next.cursor ∧ next.cursor.newlines ≠ 0 := by
  have hcolumn : a'.mark.column = 0 := by rw [h.mark, h.column]
  cases n with
  | zero =>
    refine ⟨_, rfl, rfl, ?_, .refl, hnew⟩
    have := Fork.lowest_le_finish least indent breaks deepest a'.mark a'
    show a'.mark.column < (scanBlockBreaks.finish least indent breaks deepest a'.mark a').indent
    omega
  | succ n =>
    have htake : a'.takeWhile (· == ' ') = List.replicate p.spaces ' ' := by
      rw [Cursor.takeWhile, h.rest_eq, List.takeWhile_append_of_pos (by simp),
        List.takeWhile_cons_of_neg (by decide), List.append_nil]
    have hwidth : scanBlockBreaks.width indent a' = p.spaces := by
      unfold scanBlockBreaks.width
      unfold Fork.lowest at hspaces
      rw [htake, List.length_replicate, hcolumn]
      dsimp only
      split
      . rfl
      . next hne =>
        rw [beq_iff_eq] at hne
        rw [if_neg hne] at hspaces
        omega
    have hindented : scanBlockBreaks.indented indent a' = a'.skipN p.spaces := by
      rw [scanBlockBreaks.indented, hwidth]
    have htab : ('#' == '\t') = false := rfl
    have hbreak : isBreak '#' = false := rfl
    rw [scanBlockBreaks.go_succ h.whole', hindented, h.peek_skipN, htab, hbreak, Bool.and_false,
      if_neg Bool.false_ne_true, if_neg Bool.false_ne_true]
    refine ⟨_, rfl, rfl, ?_, h.reaches_skipN, ?_⟩
    . have := Fork.lowest_le_finish least indent breaks
        (max deepest (a'.skipN p.spaces).mark.column) a'.mark (a'.skipN p.spaces)
      refine Nat.lt_of_lt_of_le ?_ this
      show (a'.skipN p.spaces).mark.column < _
      rw [Cursor.column_skipN, hcolumn]
      omega
    . show (a'.skipN p.spaces).newlines ≠ 0
      rwa [Cursor.newlines_skipN_of_spaces h.peek_of_lt]

/-- A block scalar ends before the place of the line, or goes beyond it. -/
theorem block_or {low : Nat} (hspaces : p.spaces < low)
    (h : p.fork.BlockLeave p.chars start start' literal chomping low line s r')
    : (∃ s', r' = .ok s' ∧ s'.token.kind = s.token.kind ∧ p.Crossed line s.cursor s'.cursor) ∨
        p.before.length < s.token.last.index := by
  obtain ⟨least, indent, a, a', next, r, n, value, firstBreak, leadingBlank, hlow, hleave, hbase,
    himage⟩ := h
  obtain ⟨m, m', breaks, deepest, hr, hr'⟩ := hleave.loop
  obtain ⟨hat, hnew, hnew'⟩ := p.of_leaves hleave.leaves
  have hindex := p.le_index_of_not_before hleave.place
    (hleave.leaves.not_before (List.suffix_refl _))
  obtain ⟨hplace, hnext, hcursor⟩ := scanBlockBreaks.le_last hleave.place (Nat.le_refl _) hr.symm
  obtain ⟨hlast, rfl | hlong⟩ := scanBlockLines.le_last hplace hcursor hbase
  . obtain hlong | ⟨hbreaks, hreaches, hend⟩ := hat.base_breaks hleave.place hnew hr.symm
    . exact .inr (by omega)
    . left
      obtain ⟨next', hr'', hbreaks', hcolumn, hreaches', hend'⟩ :=
        hat.image_breaks start' m' hnew' (hspaces.trans_le hlow)
      obtain ⟨n', hn'⟩ := himage next' (hr'.trans hr'')
      refine ⟨scanBlockLines.finish start' literal chomping value firstBreak next', ?_, ?_, a, a',
        hat, hleave.line, hreaches, hreaches', hend, hend'⟩
      . rw [hn']
        cases n' with
        | zero => rfl
        | succ n' =>
          rw [scanBlockLines.go]
          dsimp only
          rw [beq_eq_false_iff_ne.mpr hcolumn.ne, Bool.false_and, if_neg Bool.false_ne_true]
      . unfold scanBlockLines.finish
        rw [hbreaks, hbreaks']
  . exact .inr (by omega)

end Block

end Note
end Yaml
end YamlOrder
