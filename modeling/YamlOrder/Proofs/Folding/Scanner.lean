import YamlOrder.Proofs.Folding.Fork
import YamlOrder.Proofs.Spacing.Fetch

/-!
This module contains the scanner before the place at which two streams fork: the search for comments
stops at the same place in both, and the scanner goes through the same states, with its possible
keys moved.
-/

namespace YamlOrder
namespace Yaml

theorem Cursor.rest_skipWhile (f : Char → Bool) (c : Cursor)
    : (c.skipWhile f).rest = c.rest.dropWhile f := by
  rw [skipWhile, rest_need, rest_skipN]
  calc c.rest.drop (c.rest.takeWhile f).length
    _ = (c.rest.takeWhile f ++ c.rest.dropWhile f).drop (c.rest.takeWhile f).length := by
      rw [List.takeWhile_append_dropWhile]
    _ = c.rest.dropWhile f := List.drop_left' rfl

theorem Cursor.peek_skipWhile {f : Char → Bool} (hf : f endChar = false) (c : Cursor)
    : f (c.skipWhile f).peek = false := by
  rw [peek_eq, rest_skipWhile]
  cases hrest : c.rest.dropWhile f with
  | nil => exact hf
  | cons ch cs =>
    have hstop := List.head?_dropWhile_not f c.rest
    rw [hrest] at hstop
    simpa using hstop

theorem Cursor.isBreakOrEnd_skipToBreak (c : Cursor) : isBreakOrEnd c.skipToBreak.peek = true := by
  have hstop := c.peek_skipWhile (f := (!isBreakOrEnd ·)) rfl
  simpa [skipToBreak] using hstop

namespace CommentSearch

variable {fuel ahead t : Nat} {inFlow : Bool} {c : Cursor}

theorem suffix_stepTo (t fuel : Nat) (c : Cursor) : (stepTo t fuel c).rest <:+ c.rest := by
  induction fuel generalizing c with
  | zero => exact List.suffix_refl _
  | succ fuel ih =>
    unfold stepTo
    split
    . exact List.suffix_refl _
    split
    . exact (ih _).trans c.suffix_skipLine
    . exact (ih _).trans c.suffix_skip

theorem length_stepTo (fuel : Nat) (h : c.Whole) (ht : t ≤ c.mark.index + c.rest.length)
    (hfuel : t ≤ c.mark.index + fuel)
    : (stepTo t fuel c).rest.length + t ≤ c.rest.length + c.mark.index := by
  induction fuel generalizing c with
  | zero =>
    rw [stepTo]
    omega
  | succ fuel ih =>
    unfold stepTo
    split
    . omega
    . next hlt =>
      obtain ⟨ch, cs, hrest⟩ : ∃ ch cs, c.rest = ch :: cs :=
        List.exists_cons_of_length_pos (by omega)
      split
      . next hbreak =>
        obtain ⟨w, d, ds, hsplit, -, -, hwidth⟩ := Cursor.exists_break hbreak
        have hindex := h.skipLine_eq hbreak
        have hlength : c.rest.length = w.length + 1 + ds.length := by
          rw [hsplit, List.length_append, List.length_cons]
          omega
        have hskip : c.skipLine.rest.length = ds.length ∧
          c.skipLine.mark.index = c.mark.index + (w.length + 1) := by
          rw [hindex, hwidth]
          dsimp only
          rw [List.length_drop]
          omega
        have := ih h.skipLine (by omega) (by omega)
        omega
      . have hskip : c.skip.rest.length + 1 = c.rest.length := by
          rw [Cursor.rest_skip, hrest]
          rfl
        have := ih h.skip (by rw [Cursor.index_skip]; omega) (by rw [Cursor.index_skip]; omega)
        rw [Cursor.index_skip] at this
        omega

theorem length_commentLine (h : c.Whole) (hnumber : c.peek ahead = '#')
    : (stepTo (c.mark.index + ahead) (ahead + 1) c).skipToBreak.rest.length + ahead ≤
      c.rest.length := by
  have hinside : ahead ≤ c.rest.length := by
    by_contra hlt
    rw [Cursor.peek_eq, List.getD_eq_getElem?_getD, List.getElem?_eq_none (by omega)] at hnumber
    cases hnumber
  have hstep := length_stepTo (t := c.mark.index + ahead) (ahead + 1) h (by omega) (by omega)
  have hend :=
    (Cursor.suffix_skipWhile (!isBreakOrEnd ·)
    (stepTo (c.mark.index + ahead) (ahead + 1) c)).length_le
  rw [Cursor.skipToBreak]
  omega

theorem suffix_walk (inFlow : Bool) (fuel ahead : Nat) (c : Cursor)
    : (walk inFlow fuel ahead c).rest <:+ c.rest := by
  induction fuel generalizing ahead c with
  | zero => exact List.suffix_refl _
  | succ fuel ih =>
    have hline : (stepTo (c.mark.index + ahead) (ahead + 1) c).skipToBreak.rest <:+ c.rest :=
      (Cursor.suffix_skipWhile _ _).trans (suffix_stepTo _ _ c)
    unfold walk
    split
    . exact List.suffix_refl _
    split
    . exact ih _ _
    split
    . split
      . exact ih _ _
      . exact List.suffix_refl _
    split
    . exact List.suffix_refl _
    . dsimp only
      split
      . exact hline
      . exact (ih _ _).trans hline

theorem walk_whole (h : c.Whole) : (walk inFlow fuel ahead c).Whole := by
  induction fuel generalizing ahead c with
  | zero => exact h
  | succ fuel ih =>
    have hstep : (stepTo (c.mark.index + ahead) (ahead + 1) c).Whole := stepTo_whole h _
    have hline := hstep.skipWhile (!isBreakOrEnd ·)
    unfold walk
    split
    . exact h
    split
    . exact ih h
    split
    . split
      . exact ih h
      . exact h
    split
    . exact h
    . dsimp only
      split
      . exact hline
      . exact ih hline

end CommentSearch

theorem scanComments_cursor {c : Cursor} (h : c.Whole) (scan : Mark) (before : Token)
    (inFlow : Bool) (indent : Int)
    : (scanComments scan before inFlow indent c).2 =
        CommentSearch.walk inFlow (2 * c.rest.length + commentReach) 0 c := by
  unfold scanComments
  dsimp only
  rw [CommentSearch.cursor_run h]

namespace Fork

open CommentSearch (walk stepTo suffix_stepTo suffix_walk)

variable {f : Fork} {c c' : Cursor} {fuel fuel' ahead t : Nat}

theorem Twin.stepTo (h : f.Twin c c') (hd : f.Before (stepTo t fuel c))
    : f.Twin (stepTo t fuel c) (stepTo (t + f.index) fuel c') := by
  induction fuel generalizing c c' with
  | zero => exact h
  | succ fuel ih =>
    have hindex : c'.mark.index = c.mark.index + f.index := by rw [h.mark, shift]
    unfold CommentSearch.stepTo at hd ⊢
    rw [h.peek, hindex]
    simp only [Nat.add_le_add_iff_right]
    split
    . exact h
    . next hlt =>
      rw [if_neg hlt] at hd
      split
      . next hbreak =>
        rw [if_pos hbreak] at hd
        exact ih (h.skipLine hbreak (hd.mono (suffix_stepTo _ _ _))) hd
      . next hbreak =>
        rw [if_neg hbreak] at hd
        exact ih (h.skip (Bool.not_eq_true _ ▸ hbreak)) hd

theorem Twin.peek_ahead (h : f.Twin c c') (hc : f.Guarded c)
    (hblank : ∀ k < ahead, isBlankOrEnd (c.peek k) = true)
    : c'.peek ahead = c.peek ahead := by
  obtain ⟨u, hrest, hrest', -⟩ := h.rest
  rw [Cursor.peek_eq, Cursor.peek_eq, hrest, hrest']
  obtain hjoined | ⟨x, y, hx⟩ := hc
  . rw [hjoined.1, hjoined.2]
  . have hu : u = x ++ '>' :: y := by
      rw [hrest, ← List.cons_append, ← List.append_assoc] at hx
      exact List.append_cancel_right hx
    have hlt : ahead < u.length := by
      by_contra hle
      have hpeek :=
        hblank x.length (by simp only [hu, List.length_append, List.length_cons] at hle; omega)
      rw [Cursor.peek_eq, hrest, hu, List.getD_eq_getElem?_getD] at hpeek
      simp [isBlankOrEnd, isBlank, isBreakOrEnd, isBreak, isEnd, endChar] at hpeek
    simp only [List.getD_eq_getElem?_getD, List.getElem?_append_left hlt]

theorem Twin.commentLine (h : f.Twin c c')
    (hd : f.Before (CommentSearch.stepTo (c.mark.index + ahead) (ahead + 1) c).skipToBreak)
    : f.Twin (CommentSearch.stepTo (c.mark.index + ahead) (ahead + 1) c).skipToBreak
        (CommentSearch.stepTo (c'.mark.index + ahead) (ahead + 1) c').skipToBreak := by
  have hindex : c'.mark.index + ahead = c.mark.index + ahead + f.index := by
    rw [h.mark, shift, Nat.add_right_comm]
  have hstep := h.stepTo (hd.mono (Cursor.suffix_skipWhile _ _))
  rw [hindex]
  exact hstep.along hstep.sameLine.skipToBreak

theorem Twin.walk (inFlow : Bool) (h : f.Twin c c')
    (hblank : ∀ k < ahead, isBlankOrEnd (c.peek k) = true)
    (hfuel : 2 * c.rest.length + commentReach ≤ fuel + ahead)
    (hfuel' : 2 * c'.rest.length + commentReach ≤ fuel' + ahead)
    : f.Guarded (walk inFlow fuel ahead c) →
      f.Twin (walk inFlow fuel ahead c) (walk inFlow fuel' ahead c') := by
  induction fuel generalizing fuel' ahead c c' with
  | zero =>
    rw [CommentSearch.walk_of_reach inFlow (by omega),
      CommentSearch.walk_of_reach inFlow (by omega)]
    exact fun _ => h
  | succ fuel ih =>
    by_cases hreach : commentReach ≤ ahead
    . rw [CommentSearch.walk_of_reach inFlow hreach, CommentSearch.walk_of_reach inFlow hreach]
      exact fun _ => h
    obtain ⟨fuel', rfl⟩ : ∃ k, fuel' = k + 1 := ⟨fuel' - 1, by omega⟩
    intro hd
    have hpeek := h.peek_ahead (hd.mono (suffix_walk _ _ _ _)) hblank
    have hon (hnext : isBlankOrEnd (c.peek ahead) = true)
        : f.Guarded (CommentSearch.walk inFlow fuel (ahead + 1) c) →
            f.Twin (CommentSearch.walk inFlow fuel (ahead + 1) c)
            (CommentSearch.walk inFlow fuel' (ahead + 1) c') := by
      refine ih h (fun k hk => ?_) (by omega) (by omega)
      obtain hlt | rfl := Nat.lt_succ_iff_lt_or_eq.mp hk
      . exact hblank k hlt
      . exact hnext
    revert hd
    unfold CommentSearch.walk
    rw [if_neg hreach, if_neg hreach, hpeek]
    split
    . next hspace => exact hon (by simp [isBlankOrEnd, hspace])
    split
    . split
      . next hnarrow =>
        rw [Bool.and_eq_true] at hnarrow
        exact hon (by simp [isBlankOrEnd, isBreakOrEnd, hnarrow.1])
      . exact fun _ => h
    split
    . exact fun _ => h
    next hnumber =>
    simp only [bne_iff_ne, ne_eq, Decidable.not_not] at hnumber
    have hlength := CommentSearch.length_commentLine h.whole hnumber
    have hlength' := CommentSearch.length_commentLine h.whole' (hpeek.trans hnumber)
    intro hd
    dsimp only at hd ⊢
    have hguarded : f.Guarded (CommentSearch.stepTo (c.mark.index + ahead) (ahead + 1)
      c).skipToBreak := by
      split at hd
      . exact hd
      . exact hd.mono (suffix_walk _ _ _ _)
    have hline := h.commentLine hguarded.before
    revert hd
    rw [hline.peek]
    split
    . exact fun _ => hline
    . refine ih hline (fun k hk => ?_) (by omega) (by omega)
      obtain rfl : k = 0 := by omega
      rw [isBlankOrEnd, Cursor.isBreakOrEnd_skipToBreak, Bool.or_true]

theorem Twin.scanComments (scan scan' : Mark) (before before' : Token) (inFlow : Bool)
    (indent : Int) (h : f.Twin c c') (hd : f.Guarded (scanComments scan before inFlow indent c).2)
    : f.Twin (scanComments scan before inFlow indent c).2
      (Yaml.scanComments scan' before' inFlow indent c').2 := by
  rw [scanComments_cursor h.whole] at hd ⊢
  rw [scanComments_cursor h.whole']
  exact h.walk inFlow (fun k hk => absurd hk (Nat.not_lt_zero k)) (Nat.le_refl _) (Nat.le_refl _) hd

end Fork

/-- Two keys that are possible at related places, or both of which are not. -/
structure SimpleKey.Twin (R : Mark → Mark → Prop) (k k' : SimpleKey) : Prop where
  possible : k'.possible = k.possible
  required : k'.required = k.required
  number : k'.number = k.number
  awaited : k'.awaited = k.awaited
  mark : k.possible = true → R k.mark k'.mark

/-- Two scanners in the same state apart from their places. -/
structure Scanner.StateTwin (R : Mark → Mark → Prop) (s s' : Scanner) : Prop where
  started : s'.started = s.started
  flowLevel : s'.flowLevel = s.flowLevel
  indent : s'.indent = s.indent
  indents : s'.indents = s.indents
  keyAllowed : s'.keyAllowed = s.keyAllowed
  given : s'.given = s.given
  keys : List.Forall₂ (SimpleKey.Twin R) s.keys s'.keys
  tokens : List.Forall₂ (fun t t' => t'.kind = t.kind) s.tokens s'.tokens

/-- Whether a key may still reach from one position to another one. -/
def Mark.Reaches (k m : Mark) : Prop :=
  m.line ≤ k.line ∧ m.index ≤ k.index + Scanner.maxKeyLength

instance (k m : Mark) : Decidable (k.Reaches m) := inferInstanceAs (Decidable (_ ∧ _))

/-- Whether keys at related positions reach from or to two positions alike. -/
def Mark.Agree (R : Mark → Mark → Prop) (m m' : Mark) : Prop :=
  ∀ k k', R k k' → (k'.Reaches m' ↔ k.Reaches m)

variable {R S : Mark → Mark → Prop} {s s' : Scanner} {k k' : SimpleKey}

namespace SimpleKey.Twin

theorem mono (h : SimpleKey.Twin R k k') (hRS : ∀ m m', R m m' → S m m')
    : SimpleKey.Twin S k k' :=
  { h with mark := fun hpossible => hRS _ _ (h.mark hpossible) }

theorem close (h : SimpleKey.Twin R k k')
    : SimpleKey.Twin S { k with possible := false } { k' with possible := false } :=
  ⟨rfl, h.required, h.number, h.awaited, fun h => by cases h⟩

theorem keyIsValid (h : SimpleKey.Twin R k k') (hR : Mark.Agree R s.mark s'.mark)
    : Simulates (fun b b' => b' = b ∧ (b = true → R k.mark k'.mark ∧ k.mark.Reaches s.mark))
        (s.keyIsValid k) (s'.keyIsValid k') := by
  unfold Scanner.keyIsValid
  rw [h.possible, h.required]
  split
  . exact .ok ⟨rfl, fun h => by cases h⟩
  . next hpossible =>
    have hmark := h.mark (by simpa using hpossible)
    have hreach := hR _ _ hmark
    have hlate (m n : Mark)
        : (decide (m.line < n.line) || decide (m.index + Scanner.maxKeyLength < n.index)) =
          !decide (m.Reaches n) := by
      rw [Bool.eq_iff_iff, Bool.or_eq_true, Bool.not_eq_true', decide_eq_true_eq,
        decide_eq_true_eq, decide_eq_false_iff_not, Mark.Reaches]
      omega
    rw [hlate, hlate, decide_eq_decide.mpr hreach]
    cases hdecide : decide (k.mark.Reaches s.mark) with
    | false =>
      rw [Bool.not_false, if_pos rfl, if_pos rfl]
      split
      . exact .error _ _
      . exact .ok ⟨rfl, fun h => by cases h⟩
    | true =>
      rw [Bool.not_true, if_neg Bool.false_ne_true, if_neg Bool.false_ne_true]
      exact .ok ⟨rfl, fun _ => ⟨hmark, of_decide_eq_true hdecide⟩⟩

end SimpleKey.Twin

namespace Scanner.StateTwin

theorem mono (h : StateTwin R s s') (hRS : ∀ m m', R m m' → S m m') : StateTwin S s s' :=
  { h with keys := h.keys.imp fun _ _ hk => hk.mono hRS }

theorem inFlow (h : StateTwin R s s') : s'.inFlow = s.inFlow := by
  rw [Scanner.inFlow, h.flowLevel]
  rfl

theorem length_tokens (h : StateTwin R s s') : s'.tokens.length = s.tokens.length :=
    h.tokens.length_eq.symm

theorem topKey (h : StateTwin R s s') : SimpleKey.Twin R s.topKey s'.topKey := by
  have hkeys := h.keys
  unfold Scanner.topKey
  generalize s.keys = l at hkeys
  generalize s'.keys = l' at hkeys
  cases hkeys with
  | nil => exact ⟨rfl, rfl, rfl, rfl, fun h => by cases h⟩
  | cons h _ => exact h

theorem lowerKeys (h : StateTwin R s s')
    : List.Forall₂ (SimpleKey.Twin R) s.keys.tail s'.keys.tail := by
  have hkeys := h.keys
  generalize s.keys = l at hkeys
  generalize s'.keys = l' at hkeys
  cases hkeys with
  | nil => exact .nil
  | cons _ h => exact h

theorem afterEntry (h : StateTwin R s s')
    : (s'.tokens.getLast?.any (·.kind == .blockEntry)) =
      s.tokens.getLast?.any (·.kind == .blockEntry) := by
  have hlast := List.forall₂_reverse_iff.mpr h.tokens
  rw [← List.head?_reverse, ← List.head?_reverse]
  generalize s.tokens.reverse = l at hlast
  generalize s'.tokens.reverse = l' at hlast
  cases hlast with
  | nil => rfl
  | cons hhead _ =>
    simp only [List.head?_cons, Option.any_some]
    rw [hhead]

theorem ready (h : StateTwin R s s') (hR : Mark.Agree R s.mark s'.mark)
    : Simulates (fun b b' => b' = b) s.ready s'.ready := by
  unfold Scanner.ready
  rw [h.length_tokens, h.given]
  split
  . exact .ok rfl
  . have hkeys := h.keys
    generalize s.keys = l at hkeys
    generalize s'.keys = l' at hkeys
    induction hkeys with
    | nil => exact .ok rfl
    | @cons k k' l l' hk _ ih =>
      rw [List.find?_cons, List.find?_cons, hk.possible, hk.awaited, hk.number]
      cases k.possible && k.awaited && k.number == s.given with
      | true =>
        refine (hk.keyIsValid hR).bind ?_
        rintro valid _ ⟨rfl, -⟩
        exact .ok rfl
      | false => exact ih

end Scanner.StateTwin

namespace Fork

/-- A key that is as far behind as the readers are, or out of reach of both. -/
def Moved (f : Fork) (m m' : Mark) : Prop :=
  m' = f.shift m ∨ m.line < f.floor ∧ m'.line < f.floor'

/-- Two scanners in the same state and in step. -/
structure ScannerTwin (f : Fork) (s s' : Scanner) : Prop
    extends Scanner.StateTwin f.Moved s s' where
  cursor : f.Twin s.cursor s'.cursor

/-- Two streams that are the same. -/
protected def none : Fork :=
  { rest := [], rest' := [], index := 0, line := 0, length_le := Nat.le_refl _ }

theorem before_none (c : Cursor) : Fork.none.Before c := .inl ⟨rfl, rfl⟩

theorem ScannerTwin.self {s : Scanner} (h : s.cursor.Whole) : Fork.none.ScannerTwin s s where
  started := rfl
  flowLevel := rfl
  indent := rfl
  indents := rfl
  keyAllowed := rfl
  given := rfl
  keys := List.forall₂_same.mpr fun _ _ => ⟨rfl, rfl, rfl, rfl, fun _ => .inl rfl⟩
  tokens := List.forall₂_same.mpr fun _ _ => rfl
  cursor :=
    { rest := ⟨s.cursor.rest, (List.append_nil _).symm, (List.append_nil _).symm, .inl ⟨rfl, rfl⟩⟩
      mark := rfl
      floor := Nat.zero_le _
      floor' := Nat.zero_le _
      newlines _ := Iff.rfl
      whole := h
      whole' := h }

/-- Two scanners in step, at or after a place. -/
def After (f : Fork) (c : Cursor) (t t' : Scanner) : Prop :=
    f.ScannerTwin t t' ∧ t.cursor.rest <:+ c.rest

variable {f : Fork} {s s' t t' : Scanner} {k k' : SimpleKey} {c c' : Cursor} {fuel fuel' : Nat}

theorem agree {m m' : Mark} (h : m' = f.shift m) (hfloor : f.floor ≤ m.line)
    (hfloor' : f.floor' ≤ m'.line) : Mark.Agree f.Moved m m' := by
  subst h
  dsimp only [shift] at hfloor'
  rintro k k' (rfl | ⟨hk, hk'⟩)
  . simp only [Mark.Reaches, shift]
    omega
  . simp only [Mark.Reaches, shift]
    omega

theorem Twin.agree (h : f.Twin c c') : Mark.Agree f.Moved c.mark c'.mark :=
  Fork.agree h.mark h.floor h.floor'

namespace ScannerTwin

theorem column (h : f.ScannerTwin s s') : s'.mark.column = s.mark.column := h.cursor.column

theorem allow (h : f.ScannerTwin s s') (b : Bool)
    : f.ScannerTwin { s with keyAllowed := b } { s' with keyAllowed := b } :=
  { h with keyAllowed := rfl }

theorem move (h : f.ScannerTwin s s') (hc : f.Twin c c')
    : f.ScannerTwin { s with cursor := c } { s' with cursor := c' } := { h with cursor := hc }

theorem pass (h : f.ScannerTwin s s') (hc : f.Twin c c') (l l' : List Comment)
    : f.ScannerTwin { s with cursor := c, comments := l }
      { s' with cursor := c', comments := l' } :=
  { h with cursor := hc }

theorem resume (h : f.ScannerTwin s s') (hc : f.Twin c c') (b : Bool) (l l' : List Comment)
    : f.ScannerTwin (s.resume c b l) (s'.resume c' b l') :=
  { h with cursor := hc, keyAllowed := rfl }

theorem setTopKey (h : f.ScannerTwin s s') (hk : SimpleKey.Twin f.Moved k k')
    : f.ScannerTwin (s.setTopKey k) (s'.setTopKey k') := { h with keys := .cons hk h.lowerKeys }

theorem insertAt {a a' : Token} {number number' : Nat} (h : f.ScannerTwin s s')
    (hnumber : number' = number) (ha : a'.kind = a.kind)
    : f.ScannerTwin (s.insertAt number a) (s'.insertAt number' a') := by
  refine { h with tokens := ?_ }
  unfold Scanner.insertAt
  rw [hnumber, h.given, h.length_tokens]
  exact forall₂_insertIdx h.tokens ha _

theorem push {a a' : Token} (h : f.ScannerTwin s s') (ha : a'.kind = a.kind)
    : f.ScannerTwin (s.push a) (s'.push a') :=
  { h with tokens := List.rel_append h.tokens (.cons ha .nil) }

theorem indicator (h : f.ScannerTwin s s') (kind : TokenKind) {width : Nat}
    (hwidth : ∀ k < width, isBreak (s.cursor.peek k) = false)
    : f.After s.cursor (s.indicator kind width) (s'.indicator kind width) := by
  have halong : Along s.cursor s'.cursor (s.cursor.skipN width) (s'.cursor.skipN width) :=
    .skipN hwidth
  exact ⟨(h.move (h.cursor.along halong)).push rfl, halong.suffix⟩

theorem indicator_one (h : f.ScannerTwin s s') (kind : TokenKind)
    (hc : isBreak s.cursor.peek = false)
    : f.After s.cursor (s.indicator kind 1) (s'.indicator kind 1) := by
  apply h.indicator
  intro k hk
  obtain rfl : k = 0 := by omega
  exact hc

end ScannerTwin

theorem removeKey_fork (h : f.ScannerTwin s s')
    : Simulates (fun t t' => f.ScannerTwin t t' ∧ t.cursor = s.cursor) s.removeKey
      s'.removeKey := by
  have hk := h.topKey
  have hset : f.ScannerTwin (s.setTopKey { s.topKey with possible := false })
      (s'.setTopKey { s'.topKey with possible := false }) := h.setTopKey hk.close
  unfold Scanner.removeKey
  dsimp only
  generalize s'.setTopKey { s'.topKey with possible := false } = t' at hset ⊢
  rw [hk.possible, hk.required]
  split
  . exact .error _ _
  . exact .ok ⟨hset, rfl⟩

theorem saveKey_fork (h : f.ScannerTwin s s')
    : Simulates (fun t t' => f.ScannerTwin t t' ∧ t.cursor = s.cursor) s.saveKey s'.saveKey := by
  unfold Scanner.saveKey
  rw [h.keyAllowed]
  split
  . refine (removeKey_fork h).bind ?_
    rintro t t' ⟨ht, hcursor⟩
    have hkey : SimpleKey.Twin f.Moved
        { possible := true
          required := !t.inFlow && t.indent == t.mark.column
          number := t.given + t.tokens.length
          mark := t.mark }
        { possible := true
          required := !t'.inFlow && t'.indent == t'.mark.column
          number := t'.given + t'.tokens.length
          mark := t'.mark } := by
      refine ⟨rfl, ?_, ?_, rfl, fun _ => .inl ht.cursor.mark⟩
      . rw [ht.inFlow, ht.indent, ht.column]
      . rw [ht.given, ht.length_tokens]
    exact .ok ⟨ht.setTopKey hkey, hcursor⟩
  . exact .ok ⟨h, rfl⟩

theorem rollIndent_fork {column column' : Nat} {number number' : Option Nat}
    (h : f.ScannerTwin s s') (hcolumn : column' = column) (hnumber : number' = number)
    (kind : TokenKind) (mark mark' : Mark)
    : Simulates (fun t t' => f.ScannerTwin t t' ∧ t.cursor = s.cursor)
      (s.rollIndent column number kind mark)
        (s'.rollIndent column' number' kind mark') := by
  subst hcolumn hnumber
  unfold Scanner.rollIndent
  dsimp only
  rw [h.inFlow, h.indent, h.indents, h.given, h.length_tokens]
  split
  . split
    . exact .error _ _
    . have hdeeper : f.ScannerTwin { s with indents := s.indent :: s.indents, indent := column' }
          { s' with indents := s.indent :: s.indents, indent := column', given := s.given } :=
        { h with indent := rfl, indents := rfl, given := rfl }
      exact .ok ⟨hdeeper.insertAt rfl rfl, rfl⟩
  . exact .ok ⟨h, rfl⟩

theorem unroll_go_fork {n : Nat} (h : f.ScannerTwin s s') (column : Int) (mark mark' : Mark)
    : f.ScannerTwin (Scanner.unrollIndent.go column n mark s)
      (Scanner.unrollIndent.go column n mark' s') ∧
        (Scanner.unrollIndent.go column n mark s).cursor = s.cursor := by
  induction n generalizing s s' mark mark' with
  | zero => exact ⟨h, rfl⟩
  | succ n ih =>
    unfold Scanner.unrollIndent.go
    rw [h.indent]
    split
    . refine ih ?_ _ _
      refine { h with indent := ?_, indents := ?_, tokens := ?_ }
      . rw [h.indents]
      . rw [h.indents]
      . exact List.rel_append h.tokens (.cons rfl .nil)
    . exact ⟨h, rfl⟩

theorem ScannerTwin.unrollIndent (h : f.ScannerTwin s s') (column : Int) (scan scan' : Mark)
    : f.ScannerTwin (s.unrollIndent column scan) (s'.unrollIndent column scan') ∧
        (s.unrollIndent column scan).cursor = s.cursor := by
  unfold Scanner.unrollIndent
  rw [h.inFlow, h.indents]
  split
  . exact ⟨h, rfl⟩
  . exact unroll_go_fork h column _ _

theorem suffix_passed (h : s.cursor.Whole) (scan : Mark)
    : (s.passed scan).rest <:+ s.cursor.rest := by
  unfold Scanner.passed
  dsimp only
  split
  . rw [scanComments_cursor (h.skipWhile _)]
    exact (CommentSearch.suffix_walk _ _ _ _).trans (Cursor.suffix_skipWhile _ _)
  . exact Cursor.suffix_skipWhile _ _

theorem passed_whole (h : s.cursor.Whole) (scan : Mark) : (s.passed scan).Whole := by
  unfold Scanner.passed
  dsimp only
  split
  . rw [scanComments_cursor (h.skipWhile _)]
    exact CommentSearch.walk_whole (h.skipWhile _)
  . exact h.skipWhile _

theorem suffix_scanToNext (h : s.cursor.Whole) (scan : Mark) (fuel : Nat)
    : (Scanner.scanToNext scan fuel s).cursor.rest <:+ s.cursor.rest := by
  induction fuel generalizing s with
  | zero => exact List.suffix_refl _
  | succ fuel ih =>
    obtain ⟨l, hl⟩ := Scanner.scanToNext_succ fuel scan h
    have hwhole := passed_whole h scan
    have hpassed := suffix_passed h scan
    rw [hl]
    generalize s.passed scan = c at hwhole hpassed ⊢
    generalize (s.keyAllowed || !s.inFlow) = b
    split
    . have hnext := ih (s := s.resume c.skipLine b l) hwhole.skipLine
      exact (hnext.trans c.suffix_skipLine).trans hpassed
    . exact hpassed

theorem ScannerTwin.passed (h : f.ScannerTwin s s') (scan scan' : Mark)
    (hd : f.Guarded (s.passed scan))
    : f.Twin (s.passed scan) (s'.passed scan') := by
  have hline : ∀ ch, isBreak ch = true →
    (ch == ' ' || ((s.inFlow || !s.keyAllowed) && ch == '\t')) = false := by
    intro ch hch
    have hblank := isBlank_of_isBreak hch
    rw [isBlank, Bool.or_eq_false_iff] at hblank
    rw [hblank.1, hblank.2, Bool.and_false, Bool.or_false]
  have hblanks := h.cursor.along (.skipWhile h.cursor.sameLine hline)
  unfold Scanner.passed at hd ⊢
  rw [h.inFlow, h.keyAllowed, h.indent]
  dsimp only at hd ⊢
  rw [hblanks.peek]
  split
  . next hnumber =>
    rw [if_pos hnumber] at hd
    exact hblanks.scanComments _ _ _ _ _ _ hd
  . exact hblanks

/-- White space and comments are passed. -/
theorem ScannerTwin.scanToNext (h : f.ScannerTwin s s') (scan scan' : Mark)
    (hd : f.Guarded (Scanner.scanToNext scan fuel s).cursor) (hfuel : s.cursor.rest.length < fuel)
    (hle : fuel ≤ fuel')
    : f.ScannerTwin (Scanner.scanToNext scan fuel s) (Scanner.scanToNext scan' fuel' s') := by
  induction fuel generalizing fuel' s s' with
  | zero => exact absurd hfuel (Nat.not_lt_zero _)
  | succ fuel ih =>
    obtain ⟨fuel', rfl⟩ : ∃ k, fuel' = k + 1 := ⟨fuel' - 1, by omega⟩
    obtain ⟨l, hl⟩ := Scanner.scanToNext_succ fuel scan h.cursor.whole
    obtain ⟨l', hl'⟩ := Scanner.scanToNext_succ fuel' scan' h.cursor.whole'
    have hwhole := (passed_whole h.cursor.whole scan).skipLine
    rw [hl] at hd ⊢
    rw [hl']
    cases hbreak : isBreak (s.passed scan).peek with
    | false =>
      rw [hbreak, if_neg (by simp)] at hd
      have hpassed := h.passed scan scan' hd
      rw [hpassed.peek, hbreak, if_neg (by simp), if_neg (by simp), h.keyAllowed]
      exact h.resume hpassed _ l l'
    | true =>
      rw [hbreak, if_pos rfl] at hd
      have hline : f.Guarded (s.passed scan).skipLine := by
        refine hd.mono ?_
        generalize (s.passed scan).skipLine = c at hwhole
        generalize (s.keyAllowed || !s.inFlow) = b
        exact suffix_scanToNext (s := s.resume c b l) hwhole scan _
      have hpassed := h.passed scan scan' (hline.mono (Cursor.suffix_skipLine _))
      have hshort := (suffix_passed h.cursor.whole scan).length_le
      have hshorter := Cursor.length_skipLine_lt hbreak
      rw [hpassed.peek, hbreak, if_pos rfl, if_pos rfl, h.keyAllowed, h.inFlow]
      refine ih (h.resume (hpassed.skipLine hbreak hline.before) _ l l') hd ?_ (by omega)
      rw [Scanner.cursor_resume]
      omega

end Fork
end Yaml
end YamlOrder
