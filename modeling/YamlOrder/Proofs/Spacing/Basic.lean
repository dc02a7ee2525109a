import Mathlib.Data.List.TakeWhile
import YamlOrder.Yaml.CharClass
import YamlOrder.Yaml.Fault

/-!
This module contains the blank lines that are added to a stream before some of its lines, and where
the positions in it move to.
-/

namespace YamlOrder
namespace Yaml

section Simulates

variable {α β γ δ : Type} {R S : α → β → Prop} {T : γ → δ → Prop} {r : Except Fault α}
  {r' : Except Fault β}
variable {f : α → Except Fault γ} {f' : β → Except Fault δ} {a : α} {b : β}

/-- Whenever the first result is no fault, neither is the second one, and the two are related. -/
def Simulates (R : α → β → Prop) (r : Except Fault α) (r' : Except Fault β) : Prop :=
  ∀ a, r = .ok a → ∃ b, r' = .ok b ∧ R a b

theorem Simulates.ok (h : R a b) : Simulates R (.ok a) (.ok b) := by
  intro a' ha
  cases ha
  exact ⟨b, rfl, h⟩

theorem Simulates.pure (h : R a b) : Simulates R (Pure.pure a) (Pure.pure b) := .ok h

theorem Simulates.error (e : Fault) (r' : Except Fault β) : Simulates R (.error e) r' := by
  intro a ha
  cases ha

theorem Simulates.mono (h : Simulates R r r') (hRS : ∀ a b, R a b → S a b) : Simulates S r r' := by
  intro a ha
  obtain ⟨b, hb, hR⟩ := h a ha
  exact ⟨b, hb, hRS a b hR⟩

theorem Simulates.bind_of_eq (h : Simulates R r r')
    (hf : ∀ a b, r = .ok a → R a b → Simulates T (f a) (f' b))
    : Simulates T (r >>= f) (r' >>= f') := by
  intro x hx
  cases hr : r with
  | error e =>
    rw [hr] at hx
    cases hx
  | ok a =>
    obtain ⟨b, hb, hR⟩ := h a hr
    rw [hr] at hx
    obtain ⟨y, hy, hT⟩ := hf a b hr hR x hx
    exact ⟨y, by rw [hb]; exact hy, hT⟩

theorem Simulates.bind (h : Simulates R r r') (hf : ∀ a b, R a b → Simulates T (f a) (f' b))
    : Simulates T (r >>= f) (r' >>= f') := h.bind_of_eq fun a b _ => hf a b

end Simulates

theorem drop_succ {α : Type} {xs ys : List α} {x : α} {i : Nat} (h : xs.drop i = x :: ys)
    : xs.drop (i + 1) = ys := by
  rw [← List.drop_drop, h, List.drop_succ_cons, List.drop_zero]

/--
The characters of a stream from an index on, with a second line break after those that are doubled.
-/
def spread (doubled : Nat → Bool) : Nat → List Char → List Char
  | _, [] => []
  | i, c :: cs => if doubled i then c :: '\n' :: spread doubled
      (i + 1) cs else c :: spread doubled (i + 1) cs

/--
A stream and the line breaks in it that are doubled. On the line after each of them there is
something other than a comment, after any spaces.
-/
structure Spacing where
  chars : List Char
  doubled : Nat → Bool
  newline : ∀ i, doubled i = true → chars[i]? = some '\n'
  opens : ∀ i, doubled i = true →
    ∃ n c rest, chars.drop (i + 1) = List.replicate n ' ' ++ c :: rest ∧
    c ∉ [' ', '\t', '\n', '\r', '#']

namespace Spacing

variable {p : Spacing} {i j : Nat} {c : Char} {cs : List Char}

/-- The stream with the added lines from an index on. -/
def after (p : Spacing) (i : Nat) : List Char := spread p.doubled i (p.chars.drop i)

/-- How many lines are added before an index. -/
def count (p : Spacing) : Nat → Nat
  | 0 => 0
  | i + 1 => p.count i + (p.doubled i).toNat

/-- Where a position moves to. -/
def shift (p : Spacing) (m : Mark) : Mark :=
  { index := m.index + p.count m.index, line := m.line + p.count m.index, column := m.column }

/-- Whether a position comes before another one. On the same line, no added line is between them. -/
def Seen (p : Spacing) (m n : Mark) : Prop :=
  m.index ≤ n.index ∧ (m.line < n.line ∨ m.line = n.line ∧ p.count m.index = p.count n.index)

/-- Whether a loop with some fuel at an index has enough fuel with the added lines. -/
def Ample (p : Spacing) (fuel fuel' i : Nat) : Prop :=
    fuel + p.count p.chars.length ≤ fuel' + p.count i

theorem count_mono (h : i ≤ j) : p.count i ≤ p.count j := by
  induction j with
  | zero =>
    obtain rfl := Nat.le_zero.mp h
    exact Nat.le_refl _
  | succ j ih =>
    obtain rfl | h := Nat.eq_or_lt_of_le h
    . exact Nat.le_refl _
    . exact Nat.le_trans (ih (Nat.lt_succ_iff.mp h)) (Nat.le_add_right _ _)

theorem getElem?_eq_head?_drop (i : Nat) : p.chars[i]? = (p.chars.drop i).head? := by
  rw [List.head?_drop]

theorem count_succ_of_head? (h : (p.chars.drop i).head? ≠ some '\n')
    : p.count (i + 1) = p.count i := by
  have : p.doubled i = false := by
    by_contra hd
    rw [Bool.not_eq_false] at hd
    exact h (by rw [← getElem?_eq_head?_drop, p.newline i hd])
  simp [count, this]

theorem count_succ_of_doubled (h : p.doubled i = true) : p.count (i + 1) = p.count i + 1 := by
  simp [count, h]

theorem count_succ_of_not_doubled (h : p.doubled i = false) : p.count (i + 1) = p.count i := by
  simp [count, h]

theorem after_of_nil (h : p.chars.drop i = []) : p.after i = [] := by
  rw [after, h, spread]

theorem after_of_doubled (h : p.chars.drop i = c :: cs) (hd : p.doubled i = true)
    : p.after i = c :: '\n' :: p.after (i + 1) := by
  rw [after, h, spread, if_pos hd, after, drop_succ h]

theorem after_of_not_doubled (h : p.chars.drop i = c :: cs) (hd : p.doubled i = false)
    : p.after i = c :: p.after (i + 1) := by
  rw [after, h, spread, hd, after, drop_succ h]
  rfl

theorem after_of_ne (h : p.chars.drop i = c :: cs) (hc : c ≠ '\n')
    : p.after i = c :: p.after (i + 1) := by
  refine after_of_not_doubled h ?_
  by_contra hd
  rw [Bool.not_eq_false] at hd
  have := p.newline i hd
  rw [getElem?_eq_head?_drop, h, List.head?_cons, Option.some.injEq] at this
  exact hc this

theorem exists_step {w : List Char} (h : p.chars.drop i = w ++ c :: cs) (hw : '\n' ∉ w)
    : p.chars.drop (i + (w.length + 1)) = cs ∧
        (p.doubled (i + w.length) = true ∧ p.count (i + (w.length + 1)) = p.count i + 1 ∧
            p.after i = w ++ c :: '\n' :: p.after (i + (w.length + 1)) ∨
          p.count (i + (w.length + 1)) = p.count i ∧ p.after i = w ++ c :: p.after
            (i + (w.length + 1))) := by
  induction w generalizing i with
  | nil =>
    refine ⟨drop_succ h, ?_⟩
    by_cases hd : p.doubled i = true
    . exact .inl ⟨hd, count_succ_of_doubled hd, after_of_doubled h hd⟩
    . rw [Bool.not_eq_true] at hd
      exact .inr ⟨count_succ_of_not_doubled hd, after_of_not_doubled h hd⟩
  | cons d w ih =>
    rw [List.mem_cons, not_or] at hw
    have hd : d ≠ '\n' := Ne.symm hw.1
    rw [List.cons_append] at h
    have hcount : p.count (i + 1) = p.count i := count_succ_of_head? (by simpa [h] using hd)
    have hlength : i + ((d :: w).length + 1) = i + 1 + (w.length + 1) := by
      simp only [List.length_cons]; omega
    obtain ⟨hdrop, hstep⟩ := ih (drop_succ h) hw.2
    rw [hcount] at hstep
    rw [hlength, after_of_ne h hd]
    refine ⟨hdrop, ?_⟩
    obtain ⟨hd, hcount, hafter⟩ | ⟨hcount, hafter⟩ := hstep
    . have hindex : i + (d :: w).length = i + 1 + w.length := by simp only [List.length_cons]; omega
      exact .inl ⟨hindex ▸ hd, hcount, by rw [hafter, List.cons_append]⟩
    . exact .inr ⟨hcount, by rw [hafter, List.cons_append]⟩

theorem exists_line (p : Spacing) (i : Nat)
    : ∃ w r r', p.chars.drop i = w ++ r ∧ p.after i = w ++ r' ∧ '\n' ∉ w ∧
        (r = [] ∧ r' = [] ∨ ∃ x x', r = '\n' :: x ∧ r' = '\n' :: x') := by
  induction hn : p.chars.length - i generalizing i with
  | zero =>
    have hnil : p.chars.drop i = [] := List.drop_eq_nil_of_le (by omega)
    exact ⟨[], [], [], hnil, after_of_nil hnil, by simp, .inl ⟨rfl, rfl⟩⟩
  | succ n ih =>
    cases hdrop : p.chars.drop i with
    | nil =>
      rw [List.drop_eq_nil_iff] at hdrop
      omega
    | cons c cs =>
      by_cases hc : c = '\n'
      . subst hc
        refine ⟨[], '\n' :: cs, p.after i, rfl, rfl, by simp, .inr ?_⟩
        cases hd : p.doubled i with
        | true => exact ⟨_, _, rfl, after_of_doubled hdrop hd⟩
        | false => exact ⟨_, _, rfl, after_of_not_doubled hdrop hd⟩
      . obtain ⟨w, r, r', hw, hw', hmem, hends⟩ := ih (i + 1) (by omega)
        rw [drop_succ hdrop] at hw
        refine ⟨c :: w, r, r', by rw [hw, List.cons_append], ?_, by simp [hmem, Ne.symm hc], hends⟩
        rw [after_of_ne hdrop hc, hw', List.cons_append]

theorem count_of_le (h : p.chars.length ≤ i) : p.count i = p.count p.chars.length := by
  induction h with
  | refl => rfl
  | step h ih => rw [count_succ_of_head? (by simp [List.drop_eq_nil_of_le h]), ih]

theorem count_le (p : Spacing) (i : Nat) : p.count i ≤ p.count p.chars.length := by
  obtain h | h := Nat.le_total i p.chars.length
  . exact count_mono h
  . exact (count_of_le h).le

theorem exists_fuel {fuel fuel' : Nat} (h : p.Ample (fuel + 1) fuel' i) : ∃ k, fuel' = k + 1 := by
  have := p.count_le i
  unfold Ample at h
  exact ⟨fuel' - 1, by omega⟩

theorem length_after (p : Spacing) (i : Nat)
    : (p.after i).length + p.count i = (p.chars.drop i).length + p.count p.chars.length := by
  induction hn : p.chars.length - i generalizing i with
  | zero =>
    have hnil : p.chars.drop i = [] := List.drop_eq_nil_of_le (by omega)
    rw [after_of_nil hnil, hnil, count_of_le (by omega)]
  | succ n ih =>
    cases hdrop : p.chars.drop i with
    | nil =>
      rw [List.drop_eq_nil_iff] at hdrop
      omega
    | cons c cs =>
      have := ih (i + 1) (by omega)
      rw [drop_succ hdrop] at this
      cases hd : p.doubled i with
      | true =>
        rw [count_succ_of_doubled hd] at this
        simp only [after_of_doubled hdrop hd, List.length_cons]
        omega
      | false =>
        rw [count_succ_of_not_doubled hd] at this
        simp only [after_of_not_doubled hdrop hd, List.length_cons]
        omega

theorem Seen.refl (p : Spacing) (m : Mark) : p.Seen m m := ⟨Nat.le_refl _, .inr ⟨rfl, rfl⟩⟩

/-- Whether a position is on an earlier line does not change. -/
theorem Seen.line_lt_iff {m n : Mark} (h : p.Seen m n)
    : (p.shift m).line < (p.shift n).line ↔ m.line < n.line := by
  obtain ⟨hindex, hline⟩ := h
  have := p.count_mono hindex
  simp only [shift]
  omega

end Spacing
end Yaml
end YamlOrder
