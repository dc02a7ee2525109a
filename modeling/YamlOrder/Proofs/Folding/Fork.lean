import YamlOrder.Proofs.Folding.Line
import YamlOrder.Proofs.Sorter.Pipeline

/-!
This module contains two streams that are the same up to a place at which they fork, and the plain
and quoted scalars before it: both readers read the same scalar.
-/

namespace YamlOrder
namespace Yaml

namespace Cursor

variable {c : Cursor}

theorem suffix_skip (c : Cursor) : c.skip.rest <:+ c.rest := List.tail_suffix _

theorem suffix_skipLine (c : Cursor) : c.skipLine.rest <:+ c.rest := by
  rw [skipLine_rest]
  exact List.drop_suffix _ _

theorem suffix_skipWhile (f : Char → Bool) (c : Cursor) : (c.skipWhile f).rest <:+ c.rest := by
  rw [skipWhile, rest_need, rest_skipN]
  exact List.drop_suffix _ _

theorem suffix_need (n : Nat) (c : Cursor) : (c.need n).rest <:+ c.rest := by
  simp only [rest_need, List.suffix_refl]

end Cursor

/--
Two streams that are the same but for what they end with, after a certain line break. Up to there,
the second one is some characters and lines ahead. The readers are on certain lines of them, or
below these.
-/
structure Fork where
  rest : List Char
  rest' : List Char
  last : Char := '\n'
  index : Nat
  line : Nat
  floor : Nat := 0
  floor' : Nat := 0
  length_le : rest.length ≤ rest'.length

namespace Fork

/-- Where a position moves to. -/
def shift (f : Fork) (m : Mark) : Mark :=
    { index := m.index + f.index, line := m.line + f.line, column := m.column }

/-- Two streams that do not fork. -/
def Joined (f : Fork) : Prop := f.rest = [] ∧ f.rest' = []

/-- Two readers in step, on a line before the place at which the streams fork. -/
structure Twin (f : Fork) (c c' : Cursor) : Prop where
  rest : ∃ u, c.rest = u ++ f.rest ∧ c'.rest = u ++ f.rest' ∧
    (f.Joined ∨ isBreak f.last = true ∧ ∃ w, u = w ++ [f.last])
  mark : c'.mark = f.shift c.mark
  floor : f.floor ≤ c.mark.line
  floor' : f.floor' ≤ c'.mark.line
  newlines : (c.peek == '#' || isBlank c.peek) = true → (c'.newlines = 0 ↔ c.newlines = 0)
  whole : c.Whole
  whole' : c'.Whole

/-- A place before the one at which the streams fork. -/
def Before (f : Fork) (c : Cursor) : Prop := f.Joined ∨ f.rest.length < c.rest.length

/-- A place with a `>` between it and the place at which the streams fork. -/
def Guarded (f : Fork) (c : Cursor) : Prop := f.Joined ∨ ∃ x y, c.rest = x ++ '>' :: (y ++ f.rest)

variable {f : Fork} {c c' d d' : Cursor} {n fuel fuel' least : Nat}

theorem Before.mono (h : f.Before d) (hd : d.rest <:+ c.rest) : f.Before c :=
  h.imp_right (Nat.lt_of_lt_of_le · hd.length_le)

theorem Guarded.mono (h : f.Guarded d) (hd : d.rest <:+ c.rest) : f.Guarded c := by
  obtain hjoined | ⟨x, y, hrest⟩ := h
  . exact .inl hjoined
  . obtain ⟨w, hw⟩ := hd
    exact .inr ⟨w ++ x, y, by rw [← hw, hrest, List.append_assoc]⟩

theorem Guarded.before (h : f.Guarded c) : f.Before c := by
  obtain hjoined | ⟨x, y, hrest⟩ := h
  . exact .inl hjoined
  . right
    simp only [hrest, List.length_append, List.length_cons]
    omega

namespace Twin

theorem sameLine (h : f.Twin c c') : SameLine c c' := by
  refine ⟨?_, by rw [h.mark, shift], h.newlines, h.whole, h.whole'⟩
  obtain ⟨u, hrest, hrest', hends⟩ := h.rest
  obtain ⟨w, r, rfl, hw, hr⟩ := exists_line_split u
  rw [List.append_assoc] at hrest hrest'
  refine ⟨w, _, _, hrest, hrest', hw, ?_⟩
  obtain rfl | ⟨d, x, hd, rfl⟩ := hr
  . obtain ⟨hnil, hnil'⟩ | ⟨hbreak, v, hd⟩ := hends
    . exact .inl ⟨by rw [hnil]; rfl, by rw [hnil']; rfl⟩
    . rw [List.append_nil] at hd
      have := hw f.last (by rw [hd]; simp)
      rw [hbreak] at this
      cases this
  . exact .inr ⟨d, _, _, hd, rfl, rfl⟩

theorem column (h : f.Twin c c') : c'.mark.column = c.mark.column := h.sameLine.column

theorem peek (h : f.Twin c c') : c'.peek = c.peek := h.sameLine.peek

theorem skip (h : f.Twin c c') (hc : isBreak c.peek = false) : f.Twin c.skip c'.skip := by
  refine ⟨?_, ?_, h.floor, h.floor', ?_, h.whole.skip, h.whole'.skip⟩
  . obtain ⟨u, hrest, hrest', hends⟩ := h.rest
    cases u with
    | nil =>
      obtain hjoined | ⟨-, w, hd⟩ := hends
      . rw [hjoined.1] at hrest
        rw [hjoined.2] at hrest'
        refine ⟨[], ?_, ?_, .inl hjoined⟩
        . rw [Cursor.rest_skip, hrest, hjoined.1]
          rfl
        . rw [Cursor.rest_skip, hrest', hjoined.2]
          rfl
      . simp at hd
    | cons ch u =>
      refine ⟨u, by rw [Cursor.rest_skip, hrest]; rfl, by rw [Cursor.rest_skip, hrest']; rfl, ?_⟩
      refine hends.imp_right ?_
      rintro ⟨hbreak, w, hd⟩
      cases w with
      | nil =>
        rw [List.nil_append, List.cons.injEq] at hd
        rw [Cursor.peek_of_rest hrest, hd.1, hbreak] at hc
        cases hc
      | cons a w => exact ⟨hbreak, w, (List.cons.inj hd).2⟩
  . simp only [Cursor.skip, h.mark, shift, Mark.mk.injEq, and_true]
    omega
  . exact (h.sameLine.skip hc).newlines

theorem along (h : f.Twin c c') (hd : Along c c' d d') : f.Twin d d' := by
  obtain ⟨n, hn, rfl, rfl⟩ := hd
  induction n generalizing c c' with
  | zero => exact h
  | succ n ih =>
    refine ih (h.skip (hn 0 (Nat.zero_lt_succ n))) fun k hk => ?_
    rw [← Cursor.peek_succ]
    exact hn (k + 1) (Nat.succ_lt_succ hk)

theorem skipLine (h : f.Twin c c') (hbreak : isBreak c.peek = true) (hnext : f.Before c.skipLine)
    : f.Twin c.skipLine c'.skipLine := by
  have hbreak' : isBreak c'.peek = true := by rwa [h.peek]
  have hmark := h.mark
  rw [shift, Mark.mk.injEq] at hmark
  have heq := h.whole.skipLine_eq hbreak
  obtain ⟨u, hrest, hrest', hends⟩ := h.rest
  have hlong : f.Joined ∨ (if c.atPair then 2 else 1) < u.length := by
    refine hnext.imp_right fun hlength => ?_
    rw [heq] at hlength
    dsimp only at hlength
    rw [hrest, List.length_drop, List.length_append] at hlength
    omega
  have hone : c'.peek 1 = c.peek 1 := by
    rw [Cursor.peek_eq, Cursor.peek_eq, hrest, hrest', List.getD_eq_getElem?_getD,
      List.getD_eq_getElem?_getD]
    obtain hjoined | hlong := hlong
    . rw [hjoined.1, hjoined.2]
    . have htwo : 1 < u.length := by
        split at hlong
        all_goals omega
      rw [List.getElem?_append_left htwo, List.getElem?_append_left htwo]
  have hpair : c'.atPair = c.atPair := by
    unfold Cursor.atPair
    rw [h.peek, hone]
  rw [heq, h.whole'.skipLine_eq hbreak', hpair]
  refine ⟨?_, ?_, Nat.le_succ_of_le h.floor, Nat.le_succ_of_le h.floor', by simp,
    ⟨h.whole.fault, h.whole.front, h.whole.short⟩,
    ⟨h.whole'.fault, h.whole'.front, h.whole'.short⟩⟩
  . generalize (if c.atPair then 2 else 1) = width at hlong
    dsimp only
    rw [hrest, hrest']
    obtain hjoined | hlong := hlong
    . exact ⟨u.drop width, by simp [hjoined.1], by simp [hjoined.2], .inl hjoined⟩
    . refine ⟨u.drop width, List.drop_append_of_le_length hlong.le,
        List.drop_append_of_le_length hlong.le, ?_⟩
      refine hends.imp_right ?_
      rintro ⟨hd, w, rfl⟩
      rw [List.length_append, List.length_singleton] at hlong
      exact ⟨hd, w.drop width, List.drop_append_of_le_length (by omega)⟩
  . simp only [shift, hmark, Mark.mk.injEq, and_true]
    omega

end Twin

end Fork

theorem Gap.suffix_scan {start : Mark} {least fuel : Nat} {g g' : Gap} {c c' : Cursor}
    (h : scan start least fuel g c = .ok (g', c')) : c'.rest <:+ c.rest := by
  induction fuel generalizing g c with
  | zero =>
    cases h
    exact List.suffix_refl _
  | succ fuel ih =>
    unfold scan at h
    split at h
    . split at h
      . cases h
      . exact (ih h).trans ((Cursor.suffix_need 1 _).trans c.suffix_skip)
    . split at h
      . exact (ih h).trans ((Cursor.suffix_need 1 _).trans c.suffix_skipLine)
      . cases h
        exact List.suffix_refl _

open Sorter (bind_eq_ok)

namespace Fork

section Tracks

variable {α β γ δ : Type} {f : Fork} {place : α → Cursor} {place' : γ → Cursor} {R : α → β → Prop}
  {S : γ → δ → Prop}
variable {r : Except Fault α} {r' : Except Fault β} {k : α → Except Fault γ}
  {k' : β → Except Fault δ} {a : α} {b : β}

/--
If the first reading ends before the place at which the streams fork, then the second one is no
fault either, and what they read is related.
-/
def Tracks (f : Fork) (place : α → Cursor) (R : α → β → Prop) (r : Except Fault α)
    (r' : Except Fault β) : Prop :=
  ∀ a, r = .ok a → f.Before (place a) → ∃ b, r' = .ok b ∧ R a b

theorem Tracks.ok (h : f.Before (place a) → R a b) : f.Tracks place R (.ok a) (.ok b) := by
  intro _ ha hbefore
  cases ha
  exact ⟨b, rfl, h hbefore⟩

theorem Tracks.error (e : Fault) (r' : Except Fault β) : f.Tracks place R (.error e) r' := by
  intro _ ha
  cases ha

theorem Tracks.bind_of_simulates (h : Simulates R r r')
    (hnext : ∀ a b, R a b → f.Tracks place' S (k a) (k' b))
    : f.Tracks place' S (r >>= k) (r' >>= k') := by
  intro t ht hbefore
  obtain ⟨a, ha, hka⟩ := bind_eq_ok.mp ht
  obtain ⟨b, hb, hR⟩ := h a ha
  obtain ⟨u, hu, hS⟩ := hnext a b hR t hka hbefore
  exact ⟨u, bind_eq_ok.mpr ⟨b, hb, hu⟩, hS⟩

theorem Tracks.bind (h : f.Tracks place R r r')
    (hback : ∀ a t, r = .ok a → k a = .ok t → (place' t).rest <:+ (place a).rest)
    (hnext : ∀ a b, r = .ok a → R a b → f.Tracks place' S (k a) (k' b))
    : f.Tracks place' S (r >>= k) (r' >>= k') := by
  intro t ht hbefore
  obtain ⟨a, ha, hka⟩ := bind_eq_ok.mp ht
  obtain ⟨b, hb, hR⟩ := h a ha (hbefore.mono (hback a t ha hka))
  obtain ⟨u, hu, hS⟩ := hnext a b ha hR t hka hbefore
  exact ⟨u, bind_eq_ok.mpr ⟨b, hb, hu⟩, hS⟩

end Tracks

variable {f : Fork} {c c' d : Cursor} {n fuel fuel' least : Nat} {g g' : Gap}

/-- Two readers that have just passed the line break after which the streams fork. -/
def Leaves (f : Fork) (a a' : Cursor) : Prop :=
  ∃ c c', f.Twin c c' ∧ isBreak c.peek = true ∧ ¬ f.Before c.skipLine ∧ a = c.skipLine ∧
    a' = c'.skipLine

theorem Leaves.not_before {a a' : Cursor} (h : f.Leaves a a') (hd : d.rest <:+ a.rest)
    : ¬ f.Before d := by
  obtain ⟨c, c', -, -, hnext, rfl, rfl⟩ := h
  exact fun hbefore => hnext (hbefore.mono hd)

theorem Twin.skipLine_or (h : f.Twin c c') (hbreak : isBreak c.peek = true)
    : f.Twin c.skipLine c'.skipLine ∨ f.Leaves c.skipLine c'.skipLine := by
  by_cases hnext : f.Before c.skipLine
  . exact .inl (h.skipLine hbreak hnext)
  . exact .inr ⟨c, c', h, hbreak, hnext, rfl, rfl⟩

theorem Twin.scan_or (start' : Mark) {start : Mark} (h : f.Twin c c') (hfuel : c.rest.length < fuel)
    (hfuel' : c'.rest.length < fuel') (hr : Gap.scan start least fuel g c = .ok (g', d))
    : (∃ d', Gap.scan start' least fuel' g c' = .ok (g', d') ∧ f.Twin d d') ∨
        ∃ a a' i n n', f.Leaves a a' ∧ c.mark.line < a.mark.line ∧ i.leading = true ∧
          a'.rest.length < n' ∧ Gap.scan start least n i a = .ok (g', d) ∧
            Gap.scan start' least fuel' g c' = Gap.scan start' least n' i a' := by
  induction fuel generalizing fuel' g c c' with
  | zero => exact absurd hfuel (Nat.not_lt_zero _)
  | succ fuel ih =>
    obtain ⟨fuel', rfl⟩ : ∃ k, fuel' = k + 1 := ⟨fuel' - 1, by omega⟩
    cases hblank : isBlank c.peek with
    | true =>
      have hbreak : isBreak c.peek = false := not_isBreak_of (fun _ => isBlank_of_isBreak) hblank
      have hblank' : isBlank c'.peek = true := by rwa [h.peek]
      have hnext := h.skip hbreak
      have hshorter := Cursor.length_skip_lt (ne_endChar_of_isBlank hblank)
      have hshorter' := Cursor.length_skip_lt (ne_endChar_of_isBlank hblank')
      rw [Gap.scan_blank hblank, hnext.whole.need] at hr
      rw [Gap.scan_blank hblank', h.peek, h.column, hnext.whole'.need]
      split at hr
      . cases hr
      . next htab =>
        rw [if_neg htab]
        exact ih (c := c.skip) hnext (by omega) (by omega) hr
    | false =>
      have hblank' : isBlank c'.peek = false := by rwa [h.peek]
      cases hbreak : isBreak c.peek with
      | true =>
        have hbreak' : isBreak c'.peek = true := by rwa [h.peek]
        have hshorter := Cursor.length_skipLine_lt hbreak
        have hshorter' := Cursor.length_skipLine_lt hbreak'
        have hline : c.mark.line < c.skipLine.mark.line := by
          rw [h.whole.skipLine_eq hbreak]
          exact Nat.lt_succ_self _
        rw [Gap.scan_break hblank hbreak, h.whole.skipLine.need] at hr
        rw [Gap.scan_break hblank' hbreak', h.sameLine.lineBreak, h.whole'.skipLine.need]
        have hfuel' : c'.skipLine.rest.length < fuel' := by omega
        obtain hnext | hleaves := h.skipLine_or hbreak
        . obtain hstep | ⟨a, a', i, n, n', hleaves, hlt, hrest⟩ := ih hnext (by omega) hfuel' hr
          . exact .inl hstep
          . exact .inr ⟨a, a', i, n, n', hleaves, hline.trans hlt, hrest⟩
        . exact .inr ⟨_, _, _, _, _, hleaves, hline, Gap.leading_addBreak g _, hfuel', hr, rfl⟩
      | false =>
        rw [Gap.scan_stop hblank hbreak] at hr
        rw [Gap.scan_stop hblank' (by rwa [h.peek])]
        cases hr
        exact .inl ⟨c', rfl, h⟩

theorem Twin.scan (start start' : Mark) (least : Nat) (g : Gap) (h : f.Twin c c')
    (hfuel : c.rest.length < fuel) (hfuel' : c'.rest.length < fuel')
    : f.Tracks Prod.snd (fun r r' => r'.1 = r.1 ∧ f.Twin r.2 r'.2) (Gap.scan start least fuel g c)
        (Gap.scan start' least fuel' g c') := by
  rintro ⟨g', d⟩ hr hbefore
  obtain ⟨d', hr', hd⟩ | ⟨a, a', i, n, n', hleaves, -, -, -, hscan, -⟩ :=
    h.scan_or start' hfuel hfuel' hr
  . exact ⟨_, hr', rfl, hd⟩
  . exact absurd hbefore (hleaves.not_before (Gap.suffix_scan hscan))

theorem Twin.length_le (h : f.Twin c c') : c.rest.length ≤ c'.rest.length := by
  obtain ⟨u, hrest, hrest', -⟩ := h.rest
  have := f.length_le
  simp only [hrest, hrest', List.length_append]
  omega

end Fork

namespace scanPlain

variable {inFlow : Bool} {least fuel : Nat} {c now : Cursor} {value : List Char} {g : Gap}
  {last : Mark}
variable {s : ScannedScalar}

theorem suffix_go (h : go inFlow least c fuel now value g last = .ok s)
    : s.cursor.rest <:+ now.rest := by
  induction fuel generalizing now value g last with
  | zero =>
    cases h
    exact List.suffix_refl _
  | succ fuel ih =>
    rw [go] at h
    dsimp only at h
    split at h
    . cases h
      exact Cursor.suffix_need 4 now
    . generalize hword : (if plainRun inFlow (now.need 4).rest == 0 then now.need 4
        else ((now.need 4).skipN (plainRun inFlow (now.need 4).rest)).need 2) = d at h
      have hd : d.rest <:+ now.rest := by
        rw [← hword]
        split
        . exact Cursor.suffix_need 4 now
        . rw [Cursor.rest_need, Cursor.rest_skipN, Cursor.rest_need]
          exact List.drop_suffix _ _
      split at h
      . obtain ⟨⟨g', e⟩, hscan, h⟩ := bind_eq_ok.mp h
        have he := (Gap.suffix_scan hscan).trans hd
        dsimp only at h
        split at h
        . cases h
          exact he
        . exact (ih h).trans he
      . cases h
        exact hd

end scanPlain

theorem suffix_scanPlain {inFlow : Bool} {least : Nat} {c : Cursor} {s : ScannedScalar}
    (h : scanPlain inFlow least c = .ok s) : s.cursor.rest <:+ c.rest := scanPlain.suffix_go h

theorem suffix_scanEscape {start : Mark} {c : Cursor} {r : Char × Cursor}
    (h : scanEscape start c = .ok r)
    : r.2.rest <:+ c.rest := by
  have hskip : c.skip.skip.rest <:+ c.rest := c.skip.suffix_skip.trans c.suffix_skip
  unfold scanEscape at h
  split at h
  . cases h
  . cases h
    exact hskip
  . dsimp only at h
    split at h
    . split at h
      . cases h
      . cases h
        rw [Cursor.rest_skipN, Cursor.rest_need]
        exact (List.drop_suffix _ _).trans hskip
    . cases h

theorem suffix_scanQuotedRun {start : Mark} {single : Bool} {fuel : Nat} {acc : List Char}
    {c : Cursor} {r : List Char × Bool × Cursor} (h : scanQuotedRun start single fuel acc c = .ok r)
    : r.2.2.rest <:+ c.rest := by
  induction fuel generalizing acc c with
  | zero =>
    cases h
    exact List.suffix_refl _
  | succ fuel ih =>
    have hneed {n : Nat} {d : Cursor} {acc : List Char}
        (h : scanQuotedRun start single fuel acc (d.need n) = .ok r)
        (hd : d.rest <:+ c.rest) : r.2.2.rest <:+ c.rest :=
      (ih h).trans ((Cursor.suffix_need n d).trans hd)
    unfold scanQuotedRun at h
    split at h
    . cases h
      exact List.suffix_refl _
    split at h
    . split at h
      . split at h
        . exact hneed h (c.skip.suffix_skip.trans c.suffix_skip)
        . cases h
          exact List.suffix_refl _
      . exact hneed h c.suffix_skip
    split at h
    . cases h
      exact List.suffix_refl _
    split at h
    . split at h
      . cases h
        exact (Cursor.suffix_skipLine _).trans
          ((Cursor.suffix_skip _).trans (Cursor.suffix_need 3 c))
      . obtain ⟨⟨ch, d⟩, hescape, h⟩ := bind_eq_ok.mp h
        exact hneed h (suffix_scanEscape hescape)
    . exact hneed h c.suffix_skip

theorem scanQuoted.suffix_behind_of {single escaped : Bool} {fuel : Nat} {c now : Cursor}
    {acc : List Char} {s : ScannedScalar}
    (hgo : ∀ {acc now}, go single c fuel acc now = .ok s → s.cursor.rest <:+ now.rest)
    (h : behind single c fuel acc escaped now = .ok s) : s.cursor.rest <:+ now.rest := by
  unfold behind at h
  split at h
  . cases h
    exact Cursor.suffix_skip _
  . unfold more at h
    obtain ⟨⟨g, e⟩, hscan, h⟩ := bind_eq_ok.mp h
    exact (hgo h).trans (Gap.suffix_scan hscan)

theorem scanQuoted.suffix_go {single : Bool} {fuel : Nat} {c now : Cursor} {acc : List Char}
    {s : ScannedScalar} (h : go single c fuel acc now = .ok s) : s.cursor.rest <:+ now.rest := by
  induction fuel generalizing now acc with
  | zero => cases h
  | succ fuel ih =>
    unfold go at h
    dsimp only at h
    split at h
    . cases h
    split at h
    . cases h
    obtain ⟨⟨acc', leading, d⟩, hrun, h⟩ := bind_eq_ok.mp h
    have hd : d.rest <:+ now.rest := (suffix_scanQuotedRun hrun).trans (Cursor.suffix_need 4 now)
    exact ((suffix_behind_of ih h).trans (Cursor.suffix_need 1 d)).trans hd

theorem scanQuoted.suffix_behind {single escaped : Bool} {fuel : Nat} {c now : Cursor}
    {acc : List Char} {s : ScannedScalar} (h : behind single c fuel acc escaped now = .ok s)
    : s.cursor.rest <:+ now.rest :=
  suffix_behind_of suffix_go h

theorem suffix_scanQuoted {single : Bool} {c : Cursor} {s : ScannedScalar}
    (h : scanQuoted single c = .ok s)
    : s.cursor.rest <:+ c.rest := (scanQuoted.suffix_go h).trans c.suffix_skip

namespace Fork

/-- The same scalar, after which the readers are in step. -/
structure ScalarTwin (f : Fork) (s s' : ScannedScalar) : Prop where
  kind : s'.token.kind = s.token.kind
  cursor : f.Twin s.cursor s'.cursor
  brokeLine : s'.brokeLine = s.brokeLine

variable {f : Fork} {c c' now now' d d' : Cursor} {fuel fuel' : Nat} {s : ScannedScalar}

section Plain

variable {inFlow : Bool} {least : Nat} {value : List Char} {g : Gap} {last last' : Mark}

theorem plain_behind (h : f.Twin d d')
    (hgo : ∀ g e e', f.Twin e e' → e.rest.length < d.rest.length →
      f.Tracks ScannedScalar.cursor f.ScalarTwin (scanPlain.go inFlow least c fuel e value g last)
        (scanPlain.go inFlow least c' fuel' e' value g last'))
    : f.Tracks ScannedScalar.cursor f.ScalarTwin
      (scanPlain.behind inFlow least c fuel d value g last)
        (scanPlain.behind inFlow least c' fuel' d' value g last') := by
  unfold scanPlain.behind
  rw [h.peek]
  split
  . next hgap =>
    have hscan := h.scan c.mark c'.mark least g (Nat.lt_succ_self _) (Nat.lt_succ_self _)
    refine hscan.bind ?_ ?_
    . rintro ⟨g', e⟩ s - hs
      dsimp only at hs
      split at hs
      . cases hs
        exact List.suffix_refl _
      . exact scanPlain.suffix_go hs
    . rintro ⟨g', e⟩ ⟨_, e'⟩ heq ⟨rfl, he⟩
      have hlength := Gap.length_scan_lt (by simpa using hgap) heq
      dsimp only at he ⊢
      rw [he.column]
      split
      . exact .ok fun _ => ⟨rfl, he, rfl⟩
      . exact hgo _ e e' he hlength
  . exact .ok fun _ => ⟨rfl, h, rfl⟩

theorem plain_go (h : f.Twin now now') (hfuel : now.rest.length < fuel) (hle : fuel ≤ fuel')
    : f.Tracks ScannedScalar.cursor f.ScalarTwin (scanPlain.go inFlow least c fuel now value g last)
        (scanPlain.go inFlow least c' fuel' now' value g last') := by
  induction fuel generalizing fuel' now now' value g last last' with
  | zero => exact absurd hfuel (Nat.not_lt_zero _)
  | succ fuel ih =>
    obtain ⟨fuel', rfl⟩ : ∃ k, fuel' = k + 1 := ⟨fuel' - 1, by omega⟩
    have hline := h.sameLine
    rw [scanPlain.go_succ h.whole, scanPlain.go_succ h.whole', hline.atDocumentMarker, h.peek,
      hline.plainRun]
    split
    . exact .ok fun _ => ⟨rfl, h, rfl⟩
    split
    . exact plain_behind h fun g e e' he hlength => ih he (by omega) (by omega)
    . have hword (k : Nat) (hk : k < plainRun inFlow now.rest) : isBreak (now.peek k) = false :=
        not_isBreak_of_lt_plainRun hk
      have hnext := h.along (.skipN hword)
      rw [hline.take hword, hnext.whole.need, hnext.whole'.need]
      refine plain_behind hnext fun g e e' he hlength => ih he ?_ (by omega)
      rw [Cursor.rest_skipN, List.length_drop] at hlength
      omega

end Plain

theorem Twin.scanPlain {inFlow : Bool} {least : Nat} (h : f.Twin c c')
    : f.Tracks ScannedScalar.cursor f.ScalarTwin (scanPlain inFlow least c)
      (Yaml.scanPlain inFlow least c') :=
  plain_go h (Nat.lt_succ_self _) (Nat.succ_le_succ h.length_le)

theorem Twin.quotedRun (start start' : Mark) (single : Bool) (acc : List Char) (h : f.Twin c c')
    (hfuel : c.rest.length < fuel) (hfuel' : c'.rest.length < fuel')
    : f.Tracks (·.2.2) (fun r r' => r'.1 = r.1 ∧ r'.2.1 = r.2.1 ∧ f.Twin r.2.2 r'.2.2)
        (scanQuotedRun start single fuel acc c) (scanQuotedRun start' single fuel' acc c') := by
  induction fuel generalizing fuel' acc c c' with
  | zero => exact absurd hfuel (Nat.not_lt_zero _)
  | succ fuel ih =>
    obtain ⟨fuel', rfl⟩ : ∃ k, fuel' = k + 1 := ⟨fuel' - 1, by omega⟩
    unfold scanQuotedRun
    rw [h.peek]
    split
    . exact .ok fun _ => ⟨rfl, rfl, h⟩
    next hblank =>
    rw [Bool.not_eq_true] at hblank
    have hend : c.peek ≠ endChar := Spacing.ne_endChar_of_not_isBlankOrEnd hblank
    have hbreak : isBreak c.peek = false := by
      rw [isBlankOrEnd, isBreakOrEnd, Bool.or_eq_false_iff, Bool.or_eq_false_iff] at hblank
      exact hblank.2.1
    have hone : Along c c' c.skip c'.skip := .skip hbreak
    have hround {d d' : Cursor} (n : Nat) (acc : List Char) (hd : Along c c' d d')
        (hlt : c.mark.index < d.mark.index)
        : f.Tracks (·.2.2) (fun r r' => r'.1 = r.1 ∧ r'.2.1 = r.2.1 ∧ f.Twin r.2.2 r'.2.2)
            (scanQuotedRun start single fuel acc (d.need n))
              (scanQuotedRun start' single fuel' acc (d'.need n)) := by
      have hlength := hd.length_lt hlt hend (by rwa [h.peek])
      have hplace := h.along hd
      rw [hplace.whole.need, hplace.whole'.need]
      exact ih acc hplace (by omega) (by omega)
    rw [h.sameLine.peek_one hbreak]
    split
    . split
      . split
        . next htwice =>
          rw [beq_iff_eq, Cursor.peek_succ] at htwice
          refine hround 2 _ (hone.trans (.skip ?_)) ?_
          . rw [htwice]
            rfl
          . simp only [Cursor.index_skip]
            omega
        . exact .ok fun _ => ⟨rfl, rfl, h⟩
      . exact hround 2 _ hone (Nat.lt_succ_self _)
    split
    . exact .ok fun _ => ⟨rfl, rfl, h⟩
    split
    . next hsign =>
      split
      . next hescaped =>
        rw [Cursor.peek_succ] at hescaped
        rw [h.whole.need, h.whole'.need]
        exact .ok fun hd => ⟨rfl, rfl, (h.along hone).skipLine hescaped hd⟩
      . have hescape := scanEscape_line start start' h.sameLine (beq_iff_eq.mp hsign)
        refine .bind_of_simulates hescape ?_
        rintro ⟨ch, d⟩ ⟨_, d'⟩ ⟨⟨rfl, halong⟩, hlt⟩
        exact hround 2 _ halong hlt
    . exact hround 2 _ hone (Nat.lt_succ_self _)

theorem quoted_behind {single escaped : Bool} {acc : List Char} (h : f.Twin d d')
    (hgo : ∀ acc e e', f.Twin e e' →
      f.Tracks ScannedScalar.cursor f.ScalarTwin (scanQuoted.go single c fuel acc e)
        (scanQuoted.go single c' fuel' acc e'))
    : f.Tracks ScannedScalar.cursor f.ScalarTwin (scanQuoted.behind single c fuel acc escaped d)
        (scanQuoted.behind single c' fuel' acc escaped d') := by
  unfold scanQuoted.behind scanQuoted.more
  rw [h.peek]
  split
  . next hquote =>
    refine .ok fun _ => ⟨rfl, h.skip ?_, rfl⟩
    rw [beq_iff_eq.mp hquote]
    cases single
    all_goals rfl
  . have hscan := h.scan c.mark c'.mark 0 { leading := escaped } (Nat.lt_succ_self _)
      (Nat.lt_succ_self _)
    refine hscan.bind ?_ ?_
    . rintro ⟨g, e⟩ s - hs
      exact scanQuoted.suffix_go hs
    . rintro ⟨g, e⟩ ⟨_, e'⟩ - ⟨rfl, he⟩
      exact hgo _ e e' he

theorem quoted_go {single : Bool} {acc : List Char} (h : f.Twin now now') (hle : fuel ≤ fuel')
    : f.Tracks ScannedScalar.cursor f.ScalarTwin (scanQuoted.go single c fuel acc now)
        (scanQuoted.go single c' fuel' acc now') := by
  induction fuel generalizing fuel' now now' acc with
  | zero => exact .error _ _
  | succ fuel ih =>
    obtain ⟨fuel', rfl⟩ : ∃ k, fuel' = k + 1 := ⟨fuel' - 1, by omega⟩
    rw [scanQuoted.go_succ h.whole, scanQuoted.go_succ h.whole',
      h.sameLine.atDocumentMarker, h.peek]
    split
    . exact .error _ _
    split
    . exact .error _ _
    have hrun := h.quotedRun c.mark c'.mark single acc (Nat.lt_succ_self _) (Nat.lt_succ_self _)
    refine hrun.bind ?_ ?_
    . rintro ⟨acc', escaped, d⟩ s - hs
      exact (scanQuoted.suffix_behind hs).trans (Cursor.suffix_need 1 d)
    . rintro ⟨acc', escaped, d⟩ ⟨_, _, d'⟩ - ⟨rfl, rfl, hd⟩
      dsimp only at hd ⊢
      rw [hd.whole.need, hd.whole'.need]
      exact quoted_behind hd fun acc e e' he => ih he (by omega)

/-- A quoted scalar. -/
theorem Twin.scanQuoted {single : Bool} (h : f.Twin c c') (hc : isBreak c.peek = false)
    : f.Tracks ScannedScalar.cursor f.ScalarTwin (scanQuoted single c)
      (Yaml.scanQuoted single c') :=
  quoted_go (h.skip hc) (Nat.succ_le_succ h.length_le)

end Fork
end Yaml
end YamlOrder
