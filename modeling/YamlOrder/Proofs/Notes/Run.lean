import YamlOrder.Proofs.Notes.Crossing

/-!
This module contains two scanners on a stream without and with a comment line. If the line is not
within a scalar, then they go on in step up to it and behind it, and their tokens are of the same
kinds.
-/

namespace YamlOrder
namespace Yaml

open StateTransition (Reaches eval)
open Sorter (bind_eq_ok)

namespace Scanner

/-- The scanner in the same state, where a key may start or not. -/
def allow (s : Scanner) (b : Bool) : Scanner := { s with keyAllowed := b }

variable {s : Scanner} {d : Cursor} {b : Bool} {l : List Comment}

theorem unroll_go_allow (b : Bool) (column : Int) (n : Nat) (mark : Mark) (s : Scanner)
    : unrollIndent.go column n mark (s.allow b) = (unrollIndent.go column n mark s).allow b := by
  induction n generalizing mark s with
  | zero => rfl
  | succ n ih =>
    unfold unrollIndent.go
    have hindent : (s.allow b).indent = s.indent := rfl
    rw [hindent]
    split
    . exact ih _ { s with
        tokens := s.tokens ++ [⟨.blockEnd, blockEndMark s.indent mark s.comments,
          blockEndMark s.indent mark s.comments⟩]
        indent := s.indents.headD (-1)
        indents := s.indents.tail }
    . rfl

theorem unrollIndent_allow (b : Bool) (column : Int) (scan : Mark) (s : Scanner)
    : (s.allow b).unrollIndent column scan = (s.unrollIndent column scan).allow b := by
  have hflow : (s.allow b).inFlow = s.inFlow := rfl
  unfold unrollIndent
  rw [hflow]
  split
  . rfl
  . exact unroll_go_allow b _ _ _ s

theorem removeKey_allow (b : Bool) (s : Scanner)
    : (s.allow b).removeKey = s.removeKey.map (·.allow b) := by
  have htop : (s.allow b).topKey = s.topKey := rfl
  unfold removeKey
  rw [htop]
  dsimp only
  split
  . rfl
  . rfl

theorem fetchStreamEnd_allow (b : Bool) (s : Scanner)
    : (s.allow b).fetchStreamEnd = s.fetchStreamEnd := by
  unfold fetchStreamEnd
  have hmark : (s.allow b).mark = s.mark := rfl
  rw [hmark]
  generalize (if s.mark.column == 0 then s.mark
    else { s.mark with line := s.mark.line + 1, column := 0 }) = mark
  generalize hu : ({ s with cursor := { s.cursor with mark } } : Scanner) = u
  have hu' : ({ s.allow b with cursor := { (s.allow b).cursor with mark } } : Scanner) =
      u.allow b := by
    rw [← hu]
    rfl
  dsimp only at hu hu' ⊢
  rw [hu', hu]
  have hplace : (u.allow b).mark = u.mark := rfl
  rw [hplace, unrollIndent_allow, removeKey_allow]
  cases (u.unrollIndent (-1) u.mark).removeKey with
  | error e => rfl
  | ok t => rfl

theorem cursor_unrollIndent (column : Int) (scan : Mark) (s : Scanner)
    : (s.unrollIndent column scan).cursor = s.cursor := by
  unfold unrollIndent
  split
  . rfl
  . exact cursor_unroll_go _ _ _ s

theorem settled_eq (hscan : scanToNext s.mark (s.cursor.rest.length + 1) s = s.resume d b l)
    (hd : d.Whole) : s.settled = (s.resume d b l).unrollIndent d.mark.column s.mark := by
  unfold settled
  dsimp only
  rw [hscan]
  have hcursor := cursor_unrollIndent d.mark.column s.mark (s.resume d b l)
  have hmark : (s.resume d b l).mark = d.mark := rfl
  rw [hmark]
  generalize (s.resume d b l).unrollIndent d.mark.column s.mark = u at *
  have hneed : u.cursor.need 4 = u.cursor := by rw [hcursor, cursor_resume, hd.need]
  rw [hneed]

theorem fetchHere_of_isEnd (hd : isEnd d.peek = true) (column : Int) (scan : Mark)
    : ((s.resume d b l).unrollIndent column scan).fetchHere =
        ((s.resume d true l).unrollIndent column scan).fetchStreamEnd := by
  have hcursor := cursor_unrollIndent column scan (s.resume d b l)
  have hallow : s.resume d b l = (s.resume d true l).allow b := rfl
  rw [fetchHere, if_pos (by rwa [hcursor]), hallow, unrollIndent_allow, fetchStreamEnd_allow]

theorem takeLineComment_of_newlines (h : s.cursor.newlines ≠ 0) (token : Mark)
    : s.takeLineComment token = s := by
  unfold takeLineComment scanLineComment
  rw [if_pos (Nat.pos_of_ne_zero h)]
  split
  . rfl
  . dsimp only
    rw [Option.toList_none, List.append_nil]

theorem Reads.fetchHere {f : Fork} {cs : List Char} {s' : Scanner} (hs : s.Reads cs)
    (h : f.ScannerTwin s s') (hc : isBreak s.cursor.peek = false)
    : f.Follows s.cursor s.fetchHere s'.fetchHere :=
  Fork.fetchHere_any h hs.place hc hs.cursor.not_directive

theorem Reads.line_le {cs : List Char} {k : SimpleKey} (h : s.Reads cs) (hk : k ∈ s.keys)
    : k.mark.line ≤ s.mark.line := by
  obtain ⟨-, hlt | ⟨heq, -⟩⟩ := h.cursor.seen _ ⟨k, hk, rfl⟩
  . exact hlt.le
  . exact heq.le

end Scanner

namespace Fork

/-- Two scanners in the same state that come to the same token. -/
structure Meets (f : Fork) (s s' : Scanner) : Prop where
  state : Scanner.StateTwin
    (fun m m' => f.Moved m m' ∧ (m'.Reaches s'.mark ↔ m.Reaches s.mark)) s s'
  settles : ∃ d ∈ eval Cursor.stepGap s.cursor, ∃ d' ∈ eval Cursor.stepGap s'.cursor,
    f.Twin d d' ∧
      (s.keyAllowed = true ∨ (s'.mark.line < d'.mark.line ↔ s.mark.line < d.mark.line))
  whole' : s'.cursor.Whole
  tame' : Tame s'.cursor.rest

variable {f : Fork} {s s' : Scanner} {d d' : Cursor}

theorem Twin.mem_eval {c' : Cursor} (h : f.Twin d d') (hd : d.stepGap = none)
    (hd' : Reaches Cursor.stepGap c' d') : d' ∈ eval Cursor.stepGap c' := by
  refine StateTransition.mem_eval.mpr ⟨hd', ?_⟩
  rw [Cursor.stepGap_eq_none_iff] at hd ⊢
  rwa [h.peek]

theorem ScannerTwin.meets (h : f.ScannerTwin s s') (hd : d ∈ eval Cursor.stepGap s.cursor)
    (hd' : Reaches Cursor.stepGap s'.cursor d') (htwin : f.Twin d d')
    (htame' : Tame s'.cursor.rest) : f.Meets s s' := by
  refine ⟨h.mono fun m m' hm => ⟨hm, h.cursor.agree m m' hm⟩,
    ⟨d, hd, d', htwin.mem_eval (StateTransition.mem_eval.mp hd).2 hd', htwin, .inr ?_⟩,
    h.cursor.whole', htame'⟩
  have hmark : s'.mark = f.shift s.mark := h.cursor.mark
  rw [hmark, htwin.mark]
  exact Nat.add_lt_add_iff_right

theorem Meets.fetchHere {R : Except Fault Scanner → Except Fault Scanner → Prop} (h : f.Meets s s')
    (hwhole : s.cursor.Whole) (htame : Tame s.cursor.rest)
    (hone : ∀ r r', Simulates (f.After s.settled.cursor) r r' → R r r')
    (hnext : isEnd s.settled.cursor.peek = false → f.ScannerTwin s.settled s'.settled →
      R s.settled.fetchHere s'.settled.fetchHere)
    : R s.settled.fetchHere s'.settled.fetchHere := by
  obtain ⟨d, hd, d', hd', htwin, hlines⟩ := h.settles
  obtain ⟨e, b, l, hscan, he, hb⟩ :=
    Scanner.exists_scanToNext hwhole htame s.mark (Nat.lt_succ_self _)
  obtain ⟨e', b', l', hscan', he', hb'⟩ :=
    Scanner.exists_scanToNext h.whole' h.tame' s'.mark (Nat.lt_succ_self _)
  obtain rfl := Part.mem_unique hd he
  obtain rfl := Part.mem_unique hd' he'
  rw [Scanner.settled_eq hscan htwin.whole] at hone hnext ⊢
  rw [Scanner.settled_eq hscan' htwin.whole'] at hnext ⊢
  have hcursor := Scanner.cursor_unrollIndent d.mark.column s.mark (s.resume d b l)
  have hresume (b : Bool)
      : f.ScannerTwin ((s.resume d b l).unrollIndent d.mark.column s.mark)
          ((s'.resume d' b l').unrollIndent d'.mark.column s'.mark) := by
    rw [htwin.column]
    refine (ScannerTwin.unrollIndent ?_ _ _ _).1
    exact { h.state.mono (fun m m' hm => hm.1) with cursor := htwin, keyAllowed := rfl }
  cases hend : isEnd d.peek with
  | false =>
    refine hnext (by rwa [hcursor]) ?_
    have hallowed : b' = b := by
      rw [hb hend, hb' (by rwa [htwin.peek]), h.state.keyAllowed, h.state.inFlow]
      obtain hallowed | hiff := hlines
      . rw [hallowed, Bool.true_or, Bool.true_or]
      . rw [decide_eq_decide.mpr hiff]
    rw [hallowed]
    exact hresume b
  | true =>
    have hstream := fetchStreamEnd_fork (hresume true)
    rw [Scanner.fetchHere_of_isEnd hend, Scanner.fetchHere_of_isEnd (by rwa [htwin.peek])]
    refine hone _ _ ?_
    rw [hcursor]
    rwa [Scanner.cursor_unrollIndent] at hstream

end Fork

/--
What the scanner passes for a token: where the token starts and ends, where the scanner goes on, and
the least indentation that a line can have to be one of a block scalar.
-/
structure Passage where
  first : Nat
  last : Nat
  stop : Nat
  lowest : Option Nat
  deriving Repr, DecidableEq

/--
Whether a comment line with some spaces before it is outside of a token, if it is added at an index.
Behind a block scalar it is not indented like a line of it.
-/
def Passage.Spares (a : Passage) (k n : Nat) : Prop :=
  k ≤ a.first ∨ a.last ≤ k ∧ (a.stop < k ∨ ∀ m ∈ a.lowest, n < m)

instance (a : Passage) (k n : Nat) : Decidable (a.Spares k n) :=
  inferInstanceAs (Decidable (_ ∨ _ ∧ (_ ∨ _)))

namespace Scanner

/-- What is passed from a scanner at a token to one behind it. -/
def passage (s t : Scanner) : Passage where
  first := s.mark.index
  last := (t.tokens.getLast?.map (·.last.index)).getD 0
  stop := t.mark.index
  lowest := if s.startsBlock then some (max (s.indent + 1).toNat 1) else none

/-- What is passed for the tokens in a stream. -/
def passages : Nat → Scanner → List Passage
  | 0, _ => []
  | fuel + 1, s =>
    match s.ready with
    | .error _ => []
    | .ok false =>
      match s.fetch with
      | .error _ => []
      | .ok t => s.settled.passage t :: passages fuel t
    | .ok true =>
      match s.tokens with
      | [] => []
      | t :: rest =>
        if t.kind == .streamEnd then []
        else
          passages fuel
            { s with
              tokens := rest
              given := s.given + 1
              comments := s.comments.dropWhile (takes t) }

theorem spares_scalar {s t : Scanner} {a : Token} {k n : Nat} (h : (s.passage t).Spares k n)
    (hs : s.mark.index < k) (ht : t.tokens.getLast? = some a)
    : a.last.index ≤ k ∧
        (t.mark.index < k ∨ (s.startsBlock = true → n < max (s.indent + 1).toNat 1)) := by
  have hlast : (s.passage t).last = a.last.index := by
    rw [passage, ht]
    rfl
  obtain hfirst | ⟨hle, hbehind⟩ := h
  . exact absurd hs (Nat.not_lt_of_le hfirst)
  . rw [hlast] at hle
    refine ⟨hle, hbehind.imp_right fun hlowest hblock => hlowest _ ?_⟩
    rw [passage, if_pos hblock]
    rfl

theorem indent_of_removeKey {s t : Scanner} (h : s.removeKey = .ok t) : t.indent = s.indent := by
  unfold removeKey at h
  dsimp only at h
  split at h
  . cases h
  . cases h
    rfl

theorem Reads.of_simulates {cs : List Char} {r : Except Fault Scanner} {t : Scanner}
    (h : Simulates (Spacing.untouched cs).ScannerTwin r r) (hr : r = .ok t) : t.Reads cs := by
  obtain ⟨t', hr', ht⟩ := h t hr
  rw [hr] at hr'
  cases hr'
  exact ht

end Scanner

namespace Note

variable {p : Note} {f : Fork} {s s' t t' : Scanner} {c c' : Cursor} {line : Nat}

/-- The streams up to the line, or behind it. -/
inductive Stage (p : Note) : Fork → Prop where
  | above : p.Stage p.fork
  | below (line : Nat) : p.Stage (p.beyond line)

theorem tame_added (p : Note) : Tame p.added := by
  have htab := p.untabbed
  have hend : endChar ∉ p.content := by
    intro hmem
    have hplain := p.plain _ hmem
    cases hplain
  have hline {ch : Char} (hch : ch ∉ p.content) (hother : ch ∉ [' ', '#', '\r', '\n'])
      : ch ∉ p.added := by
    unfold added ending
    split
    all_goals simp_all
  exact ⟨hline htab (by decide), hline hend (by decide)⟩

theorem index_lt_of_twin (h : p.fork.Twin c c') (hc : c.At p.chars)
    : c.mark.index < p.before.length := by
  obtain ⟨u, hrest, -, hjoined | ⟨-, w, hu⟩⟩ := h.rest
  . exact absurd hjoined p.not_joined
  . have hlength := congrArg List.length (hc.rest.symm.trans hrest)
    have hbehind : p.fork.rest = p.behind := rfl
    simp only [chars, List.length_drop, List.length_append, hbehind, hu, List.length_singleton]
      at hlength
    omega

theorem tame_of_twin (hstage : p.Stage f) (h : f.Twin c c') (htame : Tame c.rest)
    : Tame c'.rest := by
  obtain ⟨u, hrest, hrest', -⟩ := h.rest
  rw [hrest] at htame
  rw [hrest']
  cases hstage with
  | above =>
    have hadded := p.tame_added
    have hbehind := p.tame_behind
    unfold Tame at *
    simp only [fork, List.mem_append, not_or] at *
    exact ⟨⟨htame.1.1, hadded.1, hbehind.1⟩, htame.2.1, hadded.2, hbehind.2⟩
  | below => exact htame

/-- Two scanners behind a token that have passed white space beyond the place of the line. -/
structure ScannerCross (p : Note) (line : Nat) (t t' : Scanner) : Prop where
  state : Scanner.StateTwin p.fork.Moved t t'
  keys : ∀ k ∈ t.keys, k.possible = true → k.mark.line ≤ line
  keyAllowed : t.keyAllowed = true
  crossed : p.Crossed line t.cursor t'.cursor

/--
If a token that is read spares the line, then the same token is read with the line, and it ends up
to the line or beyond it.
-/
def Goes (p : Note) (s : Scanner) (r r' : Except Fault Scanner) : Prop :=
  ∀ t, r = .ok t → (s.passage t).Spares p.before.length p.spaces →
    ∃ t', r' = .ok t' ∧ (p.fork.ScannerTwin t t' ∨ p.ScannerCross s.mark.line t t')

theorem Goes.of_simulates {r r' : Except Fault Scanner}
    (h : Simulates (p.fork.After c) r r') : p.Goes s r r' := by
  intro t hr _
  obtain ⟨t', hr', ht, -⟩ := h t hr
  exact ⟨t', hr', .inl ht⟩

theorem ne_newline_of_not_isBreak {ch : Char} (h : isBreak ch = false) : ch ≠ '\n' := by
  rintro rfl
  cases h

theorem fetchQuoted_goes (h : p.fork.ScannerTwin s s') (hreads : s.Reads p.chars)
    (hc : isBreak s.cursor.peek = false) (hnewline : s.cursor.peek ≠ '\n') (single : Bool)
    : p.Goes s (s.fetchQuoted single) (s'.fetchQuoted single) := by
  intro t hr hspares
  have ht : t.Reads p.chars := .of_simulates (Spacing.fetchQuoted_twin hreads single hnewline) hr
  have hlt := index_lt_of_twin h.cursor hreads.place
  unfold Scanner.fetchQuoted at hr ⊢
  obtain ⟨u, hsave, hr⟩ := bind_eq_ok.mp hr
  obtain ⟨u', hsave', hu, hcursor⟩ := Fork.saveKey_fork h u hsave
  obtain ⟨scalar, hscalar, hr⟩ := bind_eq_ok.mp hr
  cases hr
  rw [← hcursor] at hc
  obtain ⟨scalar', hscalar', hs⟩ | hlong := quoted_or hu.cursor hc ht.place hscalar
  . refine ⟨_, bind_eq_ok.mpr ⟨u', hsave', bind_eq_ok.mpr ⟨scalar', hscalar', rfl⟩⟩, .inl ?_⟩
    exact ((hu.move hs.cursor).allow false).push hs.kind
  . have hle := (Scanner.spares_scalar hspares hlt List.getLast?_concat).1
    omega

theorem fetchPlain_goes (h : p.fork.ScannerTwin s s') (hreads : s.Reads p.chars)
    : p.Goes s s.fetchPlain s'.fetchPlain := by
  intro t hr hspares
  have hlt := index_lt_of_twin h.cursor hreads.place
  unfold Scanner.fetchPlain at hr ⊢
  obtain ⟨u, hsave, hr⟩ := bind_eq_ok.mp hr
  obtain ⟨u', hsave', hu, hcursor⟩ := Fork.saveKey_fork h u hsave
  obtain ⟨scalar, hscalar, hr⟩ := bind_eq_ok.mp hr
  cases hr
  have hsaved : u.Reads p.chars :=
    .of_simulates ((Spacing.saveKey_twin hreads).mono fun _ _ => And.left) hsave
  have hfetch (scalar' : ScannedScalar)
      (hscalar' : scanPlain u.inFlow (u.indent + 1).toNat u'.cursor = .ok scalar')
      : (do
          let s ← s'.saveKey
          let scalar ← scanPlain s.inFlow (s.indent + 1).toNat s.cursor
          return { s with keyAllowed := scalar.brokeLine, cursor := scalar.cursor }.push
            scalar.token) =
        .ok ({ u' with keyAllowed := scalar'.brokeLine, cursor := scalar'.cursor }.push
          scalar'.token) := by
    rw [← hu.inFlow, ← hu.indent] at hscalar'
    exact bind_eq_ok.mpr ⟨u', hsave', bind_eq_ok.mpr ⟨scalar', hscalar', rfl⟩⟩
  obtain ⟨scalar', hscalar', hs⟩ | ⟨scalar', hscalar', hs⟩ | hlong :=
    plain_or hu.cursor hsaved.place hscalar
  . refine ⟨_, hfetch scalar' hscalar', .inl ?_⟩
    rw [hs.brokeLine]
    exact ((hu.move hs.cursor).allow scalar.brokeLine).push hs.kind
  . refine ⟨_, hfetch scalar' hscalar', .inr ⟨?_, ?_, hs.brokeLine, ?_⟩⟩
    . exact { hu with
        keyAllowed := hs.brokeLine'.trans hs.brokeLine.symm
        tokens := List.rel_append hu.tokens (.cons hs.kind .nil) }
    . intro k hk _
      have hline := hsaved.line_le hk
      rwa [Scanner.mark, hcursor] at hline
    . have hcross := hs.crossed
      rwa [hcursor] at hcross
  . have hle := (Scanner.spares_scalar hspares hlt List.getLast?_concat).1
    omega

theorem fetchBlockScalar_goes (h : p.fork.ScannerTwin s s') (hreads : s.Reads p.chars)
    (hc : isBreak s.cursor.peek = false) (hnewline : s.cursor.peek ≠ '\n')
    (hblock : s.startsBlock = true) (literal : Bool)
    : p.Goes s (s.fetchBlockScalar literal) (s'.fetchBlockScalar literal) := by
  intro t hr hspares
  have ht : t.Reads p.chars :=
    .of_simulates (Spacing.fetchBlockScalar_twin hreads literal hnewline) hr
  have hlt := index_lt_of_twin h.cursor hreads.place
  obtain ⟨t', hr', htwin⟩ | ⟨o, o', scalar, r', hleave⟩ :=
    Fork.fetchBlockScalar_or h hreads.place hc hr
  . exact ⟨t', hr', .inl htwin⟩
  obtain ⟨hO, hclosed⟩ := And.intro hleave.twin hleave.closed
  have hlong := p.le_index_of_not_before ht.place hleave.not_before
  have hflow : s.inFlow = false := by
    rw [Scanner.startsBlock, Bool.and_eq_true, Bool.not_eq_true'] at hblock
    exact hblock.2
  subst hclosed
  obtain ⟨hle, hstop | hspaces⟩ := Scanner.spares_scalar hspares hlt List.getLast?_concat
  . exact absurd hlong (Nat.not_le_of_lt hstop)
  . rw [← Scanner.indent_of_removeKey hO.removed] at hspaces
    obtain ⟨scalar', rfl, hkind, hcross⟩ | hlong := p.block_or (hspaces hblock) hleave.leave
    . refine ⟨o'.close scalar', hleave.closed', .inr ⟨?_, fun k hk hpossible => ?_, rfl, hcross⟩⟩
      . exact { hO.scanner with
          keyAllowed := rfl
          tokens := List.rel_append hO.scanner.tokens (.cons hkind .nil) }
      . rw [hreads.not_possible hflow hO.removed k hk] at hpossible
        cases hpossible
    . omega

theorem fetchContent_goes (h : p.fork.ScannerTwin s s') (hreads : s.Reads p.chars)
    (hc : isBreak s.cursor.peek = false) : p.Goes s s.fetchContent s'.fetchContent := by
  have hnewline := ne_newline_of_not_isBreak hc
  exact Fork.fetchContent_of h hc (fun _ _ => .of_simulates)
    (fetchQuoted_goes h hreads hc hnewline) (fetchPlain_goes h hreads)
    (fetchBlockScalar_goes h hreads hc hnewline)

theorem Goes.takeLineComment {r r' : Except Fault Scanner} (h : p.Goes s r r')
    (hplace : ∀ t, r = .ok t → t.cursor.At p.chars) (mark mark' : Mark)
    : p.Goes s (r >>= fun t => return t.takeLineComment mark)
        (r' >>= fun t => return t.takeLineComment mark') := by
  intro t hr hspares
  obtain ⟨u, hu, hr⟩ := bind_eq_ok.mp hr
  cases hr
  have hle := (Scanner.Reads.takeLineComment (hplace u hu) mark).2
  have hspares' : (s.passage u).Spares p.before.length p.spaces := by
    have htokens : (u.takeLineComment mark).tokens = u.tokens := by
      unfold Scanner.takeLineComment
      split
      . rfl
      . rfl
    refine hspares.imp_right fun hbehind => ?_
    rw [Scanner.passage, htokens] at hbehind
    exact hbehind.imp_right (Or.imp_left (Nat.lt_of_le_of_lt hle))
  obtain ⟨u', hu', htwin | hcross⟩ := h u hu hspares'
  . exact ⟨_, bind_eq_ok.mpr ⟨u', hu', rfl⟩, .inl (htwin.takeLineComment _ _).1⟩
  . obtain ⟨a, a', -, -, -, -, hnew, hnew'⟩ := hcross.crossed
    rw [Scanner.takeLineComment_of_newlines hnew]
    refine ⟨u', bind_eq_ok.mpr ⟨u', hu', ?_⟩, .inr hcross⟩
    rw [Scanner.takeLineComment_of_newlines hnew']
    rfl

theorem fetchHere_goes (h : p.fork.ScannerTwin s s') (hreads : s.Reads p.chars)
    (hc : isBreak s.cursor.peek = false) : p.Goes s s.fetchHere s'.fetchHere := by
  refine Fork.fetchHere_of h hreads.cursor.not_directive (fun _ _ => .of_simulates) fun _ => ?_
  refine (fetchContent_goes h hreads hc).takeLineComment (fun t ht => ?_) _ _
  have hcontent := Spacing.fetchContent_twin hreads (ne_newline_of_not_isBreak hc)
  exact (Scanner.Reads.of_simulates hcontent ht).place

theorem tame_rest (hc : c.At p.chars) : Tame c.rest := by
  rw [hc.rest]
  exact p.tame.of_suffix (List.drop_suffix _ _)

theorem exists_settled (hc : c.At p.chars) : ∃ d, d ∈ eval Cursor.stepGap c := by
  obtain ⟨d, -, -, -, hd, -⟩ := Scanner.exists_scanToNext (s := { cursor := c }) hc.toWhole
    (tame_rest hc) c.mark (Nat.lt_succ_self _)
  exact ⟨d, hd⟩

theorem At.tame' (h : p.At c c') : Tame c'.rest := by
  have hadded := p.tame_added
  have hbehind := p.tame_behind
  rw [h.rest']
  unfold Tame at *
  simp only [List.mem_append, not_or]
  exact ⟨⟨hadded.1, hbehind.1⟩, hadded.2, hbehind.2⟩

theorem moved_beyond {m m' : Mark} (h : p.fork.Moved m m') (hm : m.line < line)
    : m' = m ∧ (p.beyond line).Moved m m' := by
  obtain rfl | ⟨hlt, -⟩ := h
  . exact ⟨rfl, .inr ⟨hm, hm⟩⟩
  . exact absurd hlt (Nat.not_lt_zero _)

/-- Two scanners that cross the place of the line between two tokens come to the same token. -/
theorem exists_meets_of_crossed (h : p.ScannerCross line t t') (hreads : t.Reads p.chars)
    : ∃ g, p.Stage g ∧ g.Meets t t' := by
  obtain ⟨a, a', hat, hline, ha, ha', -, -⟩ := h.crossed
  obtain ⟨d, hd⟩ := exists_settled hreads.place
  rw [← StateTransition.reaches_eval ha] at hd
  obtain ⟨d', hd', htwin⟩ := hat.exists_twin hd
  rw [StateTransition.reaches_eval ha] at hd
  rw [StateTransition.reaches_eval ha'] at hd'
  obtain ⟨-, -, hle⟩ := Cursor.le_of_reaches hat.whole ha
  obtain ⟨hwhole', hsuffix', hle'⟩ := Cursor.le_of_reaches hat.whole' ha'
  refine ⟨p.beyond a.mark.line, .below _, h.state.rekey fun k hk hpossible m' hm => ?_,
    ⟨d, hd, d', hd', htwin, .inl h.keyAllowed⟩, hwhole', hat.tame'.of_suffix hsuffix'⟩
  have hk := (h.keys k hk hpossible).trans_lt hline
  obtain ⟨rfl, hmoved⟩ := moved_beyond hm hk
  rw [hat.mark] at hle'
  refine ⟨hmoved, ?_⟩
  simp only [Mark.Reaches, Scanner.mark]
  omega

theorem exists_meets_of_twin (hstage : p.Stage f) (h : f.ScannerTwin t t')
    (hreads : t.Reads p.chars)
    : ∃ g, p.Stage g ∧ g.Meets t t' := by
  have htame' := tame_of_twin hstage h.cursor (tame_rest hreads.place)
  obtain ⟨d, hd⟩ := exists_settled hreads.place
  have hreaches := (StateTransition.mem_eval.mp hd).1
  obtain ⟨d', hd', htwin⟩ | ⟨a, a', hleaves, hline, ha, ha'⟩ := h.cursor.reaches_or hreaches
  . exact ⟨f, hstage, h.meets hd hd' htwin htame'⟩
  cases hstage with
  | above =>
    obtain ⟨hat, -, -⟩ := p.of_leaves hleaves
    rw [StateTransition.reaches_eval ha] at hd
    obtain ⟨d', hd', htwin⟩ := hat.exists_twin hd
    rw [← StateTransition.reaches_eval ha] at hd
    rw [← StateTransition.reaches_eval ha'] at hd'
    have hmark : t'.mark = t.mark := h.cursor.mark
    refine ⟨p.beyond a.mark.line, .below _, h.rekey fun k hk _ m' hm => ?_,
      ⟨d, hd, d', hd', htwin, .inr (iff_of_true ?_ ?_)⟩, h.cursor.whole', htame'⟩
    . exact ⟨(moved_beyond hm ((hreads.line_le hk).trans_lt hline)).2, h.cursor.agree _ _ hm⟩
    . rw [hmark]
      exact hline.trans_le htwin.floor'
    . exact hline.trans_le htwin.floor
  | below =>
    obtain ⟨b, b', -, -, hnot, -⟩ := hleaves
    exact absurd (.inl (p.joined_beyond _)) hnot

variable {fuel fuel' : Nat}

theorem fetch_meets (h : f.Meets s s') (hstage : p.Stage f) (hreads : s.Reads p.chars)
    (hr : s.fetch = .ok t)
    (hspares : (s.settled.passage t).Spares p.before.length p.spaces)
    : ∃ t', s'.fetch = .ok t' ∧ ∃ g, p.Stage g ∧ g.Meets t t' := by
  have ht := hreads.fetch hr
  rw [hreads.fetch_eq, Scanner.fetchNext_eq] at hr
  cases hstarted : s.started with
  | false =>
    rw [hstarted] at hr
    cases hr
    refine ⟨{ s' with started := true }.push ⟨.streamStart, s'.mark, s'.mark⟩, ?_, f, hstage, ?_⟩
    . refine Scanner.fetch_eq_ok h.whole' ?_ h.whole'
      rw [Scanner.fetchNext_eq, h.state.started, hstarted]
      rfl
    . refine ⟨?_, h.settles, h.whole', h.tame'⟩
      exact { h.state with
        started := rfl
        tokens := List.rel_append h.state.tokens (.cons rfl .nil) }
  | true =>
    obtain ⟨hsettled, hbreak, -⟩ := hreads.settled
    rw [hstarted, Bool.not_true, if_neg Bool.false_ne_true] at hr
    have hfetch {t' : Scanner} (hr' : s'.settled.fetchHere = .ok t') (ht' : t'.cursor.Whole)
        : s'.fetch = .ok t' := by
      refine Scanner.fetch_eq_ok h.whole' ?_ ht'
      rwa [Scanner.fetchNext_eq, h.state.started, hstarted, Bool.not_true,
        if_neg Bool.false_ne_true]
    have htame := tame_rest hreads.place
    -- only above the line can a token miss it, so the condition on the token is used there only
    cases hstage with
    | above =>
      have hgoes : p.Goes s.settled s.settled.fetchHere s'.settled.fetchHere :=
        h.fetchHere hreads.place.toWhole htame (fun _ _ => .of_simulates) fun _ htwin =>
          fetchHere_goes htwin hsettled hbreak
      obtain ⟨t', hr', htwin | hcross⟩ := hgoes t hr hspares
      . exact ⟨t', hfetch hr' htwin.cursor.whole', exists_meets_of_twin .above htwin ht⟩
      . obtain ⟨g, hg, hmeets⟩ := exists_meets_of_crossed hcross ht
        exact ⟨t', hfetch hr' hmeets.whole', g, hg, hmeets⟩
    | below line =>
      have hfollows : (p.beyond line).Follows s.settled.cursor s.settled.fetchHere
          s'.settled.fetchHere :=
        h.fetchHere (R := (p.beyond line).Follows s.settled.cursor) hreads.place.toWhole htame
          (fun _ _ => .of_simulates) fun _ htwin =>
            hsettled.fetchHere htwin hbreak
      obtain ⟨t', hr', htwin⟩ := (hfollows t hr).2 (.inl (p.joined_beyond line))
      exact ⟨t', hfetch hr' htwin.cursor.whole', exists_meets_of_twin (.below line) htwin ht⟩

theorem run_leads {q : Prop} (h : f.Meets s s') (hstage : p.Stage f) (hreads : s.Reads p.chars)
    (hspares : ∀ a ∈ s.passages fuel, a.Spares p.before.length p.spaces) (hfuel : fuel ≤ fuel')
    : Leads q (Scanner.run fuel s []).items (Scanner.run fuel' s' []).items := by
  -- a token that is fetched may end the stage above the line, so the fork is not fixed
  induction fuel generalizing fuel' f s s' with
  | zero => exact .nil _
  | succ fuel ih =>
    obtain ⟨fuel', rfl⟩ : ∃ k, fuel' = k + 1 := ⟨fuel' - 1, by omega⟩
    unfold Scanner.passages at hspares
    unfold Scanner.run
    cases hready : s.ready with
    | error e => exact .nil _
    | ok _ =>
      obtain ⟨ready, hready', rfl⟩ := h.state.ready (fun _ _ => And.right) _ hready
      rw [hready] at hspares
      rw [hready']
      cases ready with
      | false =>
        cases hfetch : s.fetch with
        | error e => exact .nil _
        | ok t =>
          rw [hfetch, List.forall_mem_cons] at hspares
          obtain ⟨t', hfetch', g, hg, hmeets⟩ := fetch_meets h hstage hreads hfetch hspares.1
          rw [hfetch']
          exact ih hmeets hg (hreads.fetch hfetch) hspares.2 (by omega)
      | true =>
        have htokens := h.state.tokens
        dsimp only at hspares ⊢
        generalize htoken : s.tokens = l at htokens hspares
        generalize s'.tokens = l' at htokens
        cases htokens with
        | nil => exact .nil _
        | @cons a a' l l' ha hrest =>
          have hkind : Spacing.KindTwin q a.kind a'.kind := ha ▸ .same _
          dsimp only at hspares ⊢
          rw [ha]
          split
          . exact .cons hkind (.nil _)
          . next hend =>
            rw [if_neg hend] at hspares
            rw [Scanner.items_run, Scanner.items_run _ _ [_]]
            have hgive : f.Meets
                { s with
                  tokens := l
                  given := s.given + 1
                  comments := s.comments.dropWhile (Scanner.takes a) }
                { s' with
                  tokens := l'
                  given := s'.given + 1
                  comments := s'.comments.dropWhile (Scanner.takes a') } :=
              ⟨{ h.state with given := congrArg (· + 1) h.state.given, tokens := hrest }, h.settles,
                h.whole', h.tame'⟩
            exact .cons hkind (ih hgive hstage (hreads.give _ _ _) hspares (by omega))

theorem start_meets (hfree : undirected true p.chars = true)
    : ∃ g, p.Stage g ∧
        g.Meets { cursor := { rest := p.chars } } { cursor := { rest := p.extended } } := by
  have hreads := Scanner.Reads.start hfree
  have hkeys (R : Mark → Mark → Prop)
      : Scanner.StateTwin R { cursor := { rest := p.chars } }
          { cursor := { rest := p.extended } } :=
    ⟨rfl, rfl, rfl, rfl, rfl, rfl, .cons ⟨rfl, rfl, rfl, rfl, fun h => by cases h⟩ .nil, .nil⟩
  obtain hnil | ⟨w, hw⟩ := p.opens
  . have hat : p.At { rest := p.chars } { rest := p.extended } := by
      refine ⟨?_, ?_, rfl, rfl, hreads.place.toWhole, ⟨rfl, rfl, rfl⟩⟩
      . show p.before ++ p.behind = p.behind
        rw [hnil, List.nil_append]
      . show p.before ++ (p.added ++ p.behind) = p.added ++ p.behind
        rw [hnil, List.nil_append]
    obtain ⟨d, hd⟩ := exists_settled hreads.place
    obtain ⟨d', hd', htwin⟩ := hat.exists_twin hd
    exact ⟨_, .below 0, hkeys _, ⟨d, hd, d', hd', htwin, .inl rfl⟩, hat.whole', hat.tame'⟩
  . refine exists_meets_of_twin .above { hkeys _ with cursor := ?_ } hreads
    exact ⟨⟨p.before, rfl, rfl, .inr ⟨rfl, w, hw⟩⟩, rfl, Nat.zero_le _, Nat.zero_le _,
      fun _ => Iff.rfl, hreads.place.toWhole, ⟨rfl, rfl, rfl⟩⟩

theorem head?_extended (h : p.chars.head?.any isByteOrderMark = false)
    : p.extended.head?.any isByteOrderMark = false := by
  obtain hnil | ⟨w, hw⟩ := p.opens
  . unfold extended added
    rw [hnil]
    cases p.spaces with
    | zero => rfl
    | succ n => rfl
  . rw [chars, hw, List.append_assoc] at h
    rw [extended, hw, List.append_assoc]
    cases w with
    | nil => rfl
    | cons ch w => exact h

/-- The tokens of a stream come first among those of the stream with the line. -/
theorem ofSource_leads {q : Prop} (p : Note) (front front' : Nat)
    (hfree : undirected true p.chars = true) (hfirst : p.chars.head?.any isByteOrderMark = false)
    (hspares : ∀ a ∈ Scanner.passages (12 * p.chars.length + 64) { cursor := { rest := p.chars } },
      a.Spares p.before.length p.spaces)
    : Leads q (TokenStream.ofSource { chars := p.chars, fault := none, front }).items
        (TokenStream.ofSource { chars := p.extended, fault := none, front := front' }).items := by
  have hlength : p.chars.length ≤ p.extended.length := by
    simp only [chars, extended, List.length_append]
    omega
  obtain ⟨g, hg, hmeets⟩ := p.start_meets hfree
  unfold TokenStream.ofSource
  dsimp only
  rw [hfirst, head?_extended hfirst]
  refine run_leads hmeets hg (.start hfree) hspares ?_
  simp only [List.length_nil]
  omega

end Note

end Yaml
end YamlOrder
