import Mathlib.Data.List.Forall2
import YamlOrder.Proofs.Spacing.BlockScalar
import YamlOrder.Proofs.Spacing.Comment
import YamlOrder.Proofs.Spacing.Name
import YamlOrder.Yaml.Token.Scanner

/-!
This module contains what added lines do to the scanner: it goes through the same states, with the
positions of its possible keys moved, and it queues tokens of the same kinds.
-/

namespace YamlOrder
namespace Yaml

/-- Whether a possible key has a position. -/
def Scanner.keyMark (s : Scanner) (m : Mark) : Prop := ∃ k ∈ s.keys, k.mark = m

theorem forall₂_insertIdx {α β : Type} {R : α → β → Prop} {l : List α} {l' : List β} {a : α} {b : β}
    (h : List.Forall₂ R l l') (hab : R a b) (n : Nat)
    : List.Forall₂ R (l.insertIdx n a) (l'.insertIdx n b) := by
  induction n generalizing l l' with
  | zero => exact .cons hab h
  | succ n ih =>
    cases h with
    | nil => exact .nil
    | cons hhead htail => exact .cons hhead (ih htail)

namespace Spacing

/-- A possible key with its position moved. -/
def key (p : Spacing) (k : SimpleKey) : SimpleKey := { k with mark := p.shift k.mark }

/-- Two scanners in the same state apart from their places. -/
structure StateTwin (p : Spacing) (s s' : Scanner) : Prop where
  started : s'.started = s.started
  flowLevel : s'.flowLevel = s.flowLevel
  indent : s'.indent = s.indent
  indents : s'.indents = s.indents
  keyAllowed : s'.keyAllowed = s.keyAllowed
  given : s'.given = s.given
  keys : s'.keys = s.keys.map p.key
  depth : s.keys.length = s.flowLevel + 1
  tokens : List.Forall₂ p.TokenTwin s.tokens s'.tokens

/-- Two scanners in the same state and in step. -/
structure ScannerTwin (p : Spacing) (s s' : Scanner) : Prop extends p.StateTwin s s' where
  cursor : p.Twin s.keyMark s.cursor s'.cursor

variable {p : Spacing} {s s' : Scanner} {k : SimpleKey} {t t' : Token} {c c' : Cursor}
  {fuel fuel' : Nat}

theorem TokenTwin.of_kind (h : t'.kind = t.kind) : p.TokenTwin t t' := by
  rw [TokenTwin, h]
  exact .same _

theorem KindTwin.beq {q : Prop} {k k' : TokenKind} (h : KindTwin q k k') {l : TokenKind}
    (hl : ∀ v style, l ≠ .scalar v style) : (k' == l) = (k == l) := by
  cases h with
  | same k => rfl
  | scalar h style =>
    rw [beq_eq_false_iff_ne.mpr (hl _ _).symm, beq_eq_false_iff_ne.mpr (hl _ _).symm]

theorem KindTwin.bne {q : Prop} {k k' : TokenKind} (h : KindTwin q k k') {l : TokenKind}
    (hl : ∀ v style, l ≠ .scalar v style) : (k' != l) = (k != l) := by
  simp only [(· != ·), h.beq hl]

namespace StateTwin

theorem inFlow (h : p.StateTwin s s') : s'.inFlow = s.inFlow := by
  rw [Scanner.inFlow, h.flowLevel]
  rfl

theorem length_tokens (h : p.StateTwin s s') : s'.tokens.length = s.tokens.length :=
    h.tokens.length_eq.symm

theorem topKey (h : p.StateTwin s s') : s'.topKey = p.key s.topKey := by
  unfold Scanner.topKey
  rw [h.keys]
  cases s.keys with
  | nil => rfl
  | cons k ks => rfl

theorem topKey_mem (h : p.StateTwin s s') : s.topKey ∈ s.keys := by
  have hdepth := h.depth
  unfold Scanner.topKey
  cases hkeys : s.keys with
  | nil => simp [hkeys] at hdepth
  | cons k ks => exact List.mem_cons_self

theorem push (h : p.StateTwin s s') (ht : p.TokenTwin t t') : p.StateTwin (s.push t) (s'.push t') :=
  { h with tokens := List.rel_append h.tokens (.cons ht .nil) }

end StateTwin

namespace ScannerTwin

theorem column (h : p.ScannerTwin s s') : s'.mark.column = s.mark.column := h.cursor.column

theorem mark (h : p.ScannerTwin s s') : s'.mark = p.shift s.mark := h.cursor.mark

theorem push (h : p.ScannerTwin s s') (ht : p.TokenTwin t t')
    : p.ScannerTwin (s.push t) (s'.push t') :=
  { h.toStateTwin.push ht with cursor := h.cursor }

theorem allow (h : p.ScannerTwin s s') (b : Bool)
    : p.ScannerTwin { s with keyAllowed := b } { s' with keyAllowed := b } :=
  { h with keyAllowed := rfl }

theorem move (h : p.ScannerTwin s s') (hc : p.Twin s.keyMark c c')
    : p.ScannerTwin { s with cursor := c } { s' with cursor := c' } := { h with cursor := hc }

theorem pass (h : p.ScannerTwin s s') (hc : p.Twin s.keyMark c c') (l l' : List Comment)
    : p.ScannerTwin { s with cursor := c, comments := l }
      { s' with cursor := c', comments := l' } :=
  { h with cursor := hc }

theorem indicator (h : p.ScannerTwin s s') (kind : TokenKind) {width : Nat}
    (hwidth : ∀ k < width, s.cursor.peek k ≠ '\n')
    : p.ScannerTwin (s.indicator kind width) (s'.indicator kind width) :=
  (h.move (h.cursor.skipN hwidth)).push (.of_kind rfl)

theorem setTopKey (h : p.ScannerTwin s s') (hk : p.Seen k.mark s.mark)
    : p.ScannerTwin (s.setTopKey k) (s'.setTopKey (p.key k)) := by
  refine { h with keys := ?_, depth := ?_, cursor := { h.cursor with seen := ?_ } }
  . rw [Scanner.setTopKey, Scanner.setTopKey, h.keys, List.map_cons, List.map_tail]
  . have := h.depth
    simp only [Scanner.setTopKey, List.length_cons, List.length_tail]
    omega
  . rintro m ⟨l, hl, rfl⟩
    rw [Scanner.setTopKey, List.mem_cons] at hl
    obtain rfl | hl := hl
    . exact hk
    . exact h.cursor.seen _ ⟨l, List.mem_of_mem_tail hl, rfl⟩

theorem seen_topKey (h : p.ScannerTwin s s') : p.Seen s.topKey.mark s.mark :=
  h.cursor.seen _ ⟨_, h.topKey_mem, rfl⟩

theorem insertAt (h : p.ScannerTwin s s') (number : Nat) (ht : p.TokenTwin t t')
    : p.ScannerTwin (s.insertAt number t) (s'.insertAt number t') := by
  refine { h with tokens := ?_ }
  unfold Scanner.insertAt
  rw [h.given, h.length_tokens]
  exact forall₂_insertIdx h.tokens ht _

end ScannerTwin

theorem keyIsValid_twin (h : p.ScannerTwin s s') (hk : k ∈ s.keys)
    : Simulates (fun b b' => b' = b) (s.keyIsValid k) (s'.keyIsValid (p.key k)) := by
  have hseen := h.cursor.seen k.mark ⟨k, hk, rfl⟩
  have hline : (p.shift k.mark).line < (p.shift s.mark).line ↔ k.mark.line < s.mark.line :=
    hseen.line_lt_iff
  have hreach : (decide ((p.key k).mark.line < s'.mark.line) ||
        decide ((p.key k).mark.index + Scanner.maxKeyLength < s'.mark.index)) =
      (decide (k.mark.line < s.mark.line) ||
      decide (k.mark.index + Scanner.maxKeyLength < s.mark.index)) := by
    rw [h.mark, key, Bool.eq_iff_iff]
    simp only [Bool.or_eq_true, decide_eq_true_eq, hline]
    obtain ⟨hindex, hearlier | ⟨hsame, hcount⟩⟩ := hseen
    . exact iff_of_true (.inl hearlier) (.inl hearlier)
    . simp only [Scanner.mark, shift] at *
      omega
  unfold Scanner.keyIsValid
  rw [hreach]
  show Simulates _ _ (if !k.possible then _ else if _ then if k.required then _ else _ else _)
  split
  . exact .ok rfl
  split
  . split
    . exact .error _ _
    . exact .ok rfl
  . exact .ok rfl

theorem removeKey_twin (h : p.ScannerTwin s s')
    : Simulates (fun t t' => p.ScannerTwin t t' ∧ t.cursor = s.cursor) s.removeKey
      s'.removeKey := by
  unfold Scanner.removeKey
  dsimp only
  rw [h.topKey]
  show Simulates _ (if s.topKey.possible && s.topKey.required then _ else _)
    (if s.topKey.possible && s.topKey.required then _ else _)
  split
  . exact .error _ _
  . exact .ok ⟨h.setTopKey h.seen_topKey, rfl⟩

theorem saveKey_twin (h : p.ScannerTwin s s')
    : Simulates (fun t t' => p.ScannerTwin t t' ∧ t.cursor = s.cursor) s.saveKey s'.saveKey := by
  unfold Scanner.saveKey
  rw [h.keyAllowed]
  split
  . refine (removeKey_twin h).bind ?_
    rintro t t' ⟨ht, hcursor⟩
    refine .ok ⟨?_, hcursor⟩
    have hkey : ({
        possible := true
        required := !t'.inFlow && t'.indent == t'.mark.column
        number := t'.given + t'.tokens.length
        mark := t'.mark } : SimpleKey) = p.key {
        possible := true
        required := !t.inFlow && t.indent == t.mark.column
        number := t.given + t.tokens.length
        mark := t.mark } := by
      rw [key, ht.inFlow, ht.indent, ht.column, ht.given, ht.length_tokens, ht.mark]
    rw [hkey]
    exact ht.setTopKey (.refl p _)
  . exact .ok ⟨h, rfl⟩

theorem rollIndent_twin (h : p.ScannerTwin s s') (column : Nat) (number : Option Nat)
    (kind : TokenKind) (mark mark' : Mark)
    : Simulates (fun t t' => p.ScannerTwin t t' ∧ t.cursor = s.cursor ∧ t.keys = s.keys)
        (s.rollIndent column number kind mark) (s'.rollIndent column number kind mark') := by
  unfold Scanner.rollIndent
  dsimp only
  rw [h.inFlow, h.indent, h.indents, h.given, h.length_tokens]
  split
  . split
    . exact .error _ _
    . refine .ok ⟨?_, rfl, rfl⟩
      refine ScannerTwin.insertAt ?_ _ (.of_kind rfl)
      exact { h with indent := rfl, indents := rfl, given := rfl }
  . exact .ok ⟨h, rfl, rfl⟩

theorem unroll_go {n : Nat} (h : p.StateTwin s s') (column : Int) (mark mark' : Mark)
    : p.StateTwin (Scanner.unrollIndent.go column n mark s)
      (Scanner.unrollIndent.go column n mark' s') ∧
        (Scanner.unrollIndent.go column n mark s).cursor = s.cursor ∧
        (Scanner.unrollIndent.go column n mark' s').cursor = s'.cursor ∧
        (Scanner.unrollIndent.go column n mark s).keys = s.keys := by
  induction n generalizing s s' mark mark' with
  | zero => exact ⟨h, rfl, rfl, rfl⟩
  | succ n ih =>
    unfold Scanner.unrollIndent.go
    rw [h.indent]
    split
    . refine ih ?_ _ _
      refine { h with indent := ?_, indents := ?_, tokens := ?_ }
      . rw [h.indents]
      . rw [h.indents]
      . exact List.rel_append h.tokens (.cons (.of_kind rfl) .nil)
    . exact ⟨h, rfl, rfl, rfl⟩

theorem ScannerTwin.unrollIndent (h : p.ScannerTwin s s') (column : Int) (scan scan' : Mark)
    : p.ScannerTwin (s.unrollIndent column scan) (s'.unrollIndent column scan') ∧
        (s.unrollIndent column scan).cursor = s.cursor := by
  unfold Scanner.unrollIndent
  rw [h.inFlow, h.indents]
  split
  . exact ⟨h, rfl⟩
  . obtain ⟨hstate, hcursor, hcursor', hkeys⟩ :=
      unroll_go h.toStateTwin column { scan with index := scan.index - 1 }
      { scan' with index := scan'.index - 1 } (n := s.indents.length)
    refine ⟨{ hstate with cursor := ?_ }, hcursor⟩
    rw [hcursor, hcursor']
    refine h.cursor.mono ?_
    rintro m ⟨k, hk, rfl⟩
    exact ⟨k, hkeys ▸ hk, rfl⟩

end Spacing
end Yaml
end YamlOrder
