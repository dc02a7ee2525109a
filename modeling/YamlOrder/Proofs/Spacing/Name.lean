import YamlOrder.Proofs.Spacing.Cursor
import YamlOrder.Yaml.Token.Name

/-!
This module contains what added lines do to anchors, aliases and tags: nothing, since they are on
one line.
-/

namespace YamlOrder
namespace Yaml

theorem Simulates.throw_bind {α β γ : Type} {R : α → β → Prop} (e : Fault) (f : γ → Except Fault α)
    (r' : Except Fault β) : Simulates R ((throw e : Except Fault γ) >>= f) r' := .error e r'

theorem isWordChar_newline : isWordChar '\n' = false := rfl

namespace Spacing

variable {p : Spacing} {K : Mark → Prop} {c c' now now' : Cursor} {fuel fuel' : Nat}

/-- Two names after which the readers are in step. -/
def NameTwin {α : Type} (p : Spacing) (K : Mark → Prop) (r r' : α × Cursor) : Prop :=
  r'.1 = r.1 ∧ p.Twin K r.2 r'.2

theorem scanAnchor_twin (h : p.Twin K c c') (hc : c.peek ≠ '\n')
    : Simulates (p.NameTwin K) (scanAnchor c) (scanAnchor c') := by
  have hname := (h.skip hc).takeWhile isWordChar_newline
  have hafter := (h.skip hc).skipWhile isWordChar_newline
  unfold scanAnchor Cursor.takeWhile
  dsimp only
  rw [hname, hafter.peek]
  split
  . exact .error _ _
  . exact .ok ⟨rfl, hafter⟩

theorem Twin.uriOctet? (h : p.Twin K c c') : Yaml.uriOctet? c' = Yaml.uriOctet? c := by
  unfold Yaml.uriOctet?
  rw [h.peek]
  by_cases h₀ : c.peek = '%'
  . have hne : c.peek ≠ '\n' := by
      rw [h₀]
      decide
    rw [h.peek_one hne]
    cases h₁ : isHexDigit (c.peek 1) with
    | false => simp only [Bool.and_false, Bool.false_and, Bool.false_eq_true, if_false]
    | true =>
      have h₂ := h.peek_of (n := 2) fun k hk => by
        obtain rfl | rfl : k = 0 ∨ k = 1 := by omega
        . exact hne
        . intro heq
          rw [heq] at h₁
          cases h₁
      rw [h₂]
  . rw [beq_eq_false_iff_ne.mpr h₀]
    simp only [Bool.false_and, Bool.false_eq_true, if_false]

theorem Twin.skipOctet (h : p.Twin K c c') {n : Nat} (hn : Yaml.uriOctet? c = some n)
    : p.Twin K (c.skipN 3) (c'.skipN 3) := by
  unfold Yaml.uriOctet? at hn
  split at hn
  . next hoctet =>
    simp only [Bool.and_eq_true, beq_iff_eq] at hoctet
    apply h.skipN
    intro k hk heq
    obtain rfl | rfl | rfl : k = 0 ∨ k = 1 ∨ k = 2 := by omega
    . rw [heq] at hoctet
      exact absurd hoctet.1.1 (by decide)
    . rw [heq] at hoctet
      exact absurd hoctet.1.2 (by decide)
    . rw [heq] at hoctet
      exact absurd hoctet.2 (by decide)
  . cases hn

theorem uriEscapes_go (start start' : Mark) {k : Nat} {acc : Text} (h : p.Twin K c c')
    : Simulates (p.NameTwin K) (scanUriEscapes.go start k acc c)
      (scanUriEscapes.go start' k acc c') := by
  induction k generalizing acc c c' with
  | zero => exact .ok ⟨rfl, h⟩
  | succ k ih =>
    unfold scanUriEscapes.go
    rw [h.whole.need, h.whole'.need]
    dsimp only
    rw [h.uriOctet?]
    split
    . exact .error _ _
    . next heq =>
      split
      . exact ih (h.skipOctet heq)
      . exact .error _ _

theorem scanUriEscapes_twin (start start' : Mark) (h : p.Twin K c c')
    : Simulates (fun r r' => p.NameTwin K r r' ∧ c.mark.index < r.2.mark.index)
      (scanUriEscapes start c)
        (scanUriEscapes start' c') := by
  unfold scanUriEscapes
  rw [h.whole.need, h.whole'.need]
  dsimp only
  rw [h.uriOctet?]
  split
  . exact .error _ _
  . next heq =>
    split
    . exact .error _ _
    . refine (uriEscapes_go start start' (h.skipOctet heq).here).mono ?_
      rintro r r' ⟨hacc, hnext⟩
      have := (hnext.seen _ (.inr rfl)).1
      rw [Cursor.index_skipN] at this
      exact ⟨⟨hacc, hnext.mono fun m => .inl⟩, by omega⟩

theorem Twin.index_eq_iff (h : p.Twin K c c') (hnow : p.Twin K now now') (hc : K c.mark)
    : (now'.mark.index == c'.mark.index) = (now.mark.index == c.mark.index) := by
  have hle := (hnow.seen _ hc).1
  have hmono := p.count_mono hle
  rw [hnow.mark, h.mark, Bool.eq_iff_iff, beq_iff_eq, beq_iff_eq]
  simp only [shift]
  constructor
  . intro heq
    omega
  . intro heq
    rw [heq]

theorem uri_go (start start' : Mark) {known acc : Text} (h : p.Twin K c c') (hc : K c.mark)
    (hnow : p.Twin K now now') (hfuel : now.rest.length < fuel)
    (hample : p.Ample fuel fuel' now.mark.index)
    : Simulates (p.NameTwin K) (scanUri.go start known c fuel acc now)
        (scanUri.go start' known c' fuel' acc now') := by
  induction fuel generalizing fuel' acc now now' with
  | zero => exact absurd hfuel (Nat.not_lt_zero _)
  | succ fuel ih =>
    obtain ⟨fuel', rfl⟩ := exists_fuel hample
    unfold scanUri.go
    rw [hnow.whole.need, hnow.whole'.need]
    dsimp only
    rw [hnow.peek, h.index_eq_iff hnow hc]
    split
    . next huri =>
      have hend : now.peek ≠ endChar := by
        intro heq
        rw [heq] at huri
        cases huri
      have hne : now.peek ≠ '\n' := by
        intro heq
        rw [heq] at huri
        cases huri
      have hround {d d' : Cursor} {acc : Text} (hd : p.Twin K d d')
          (hlt : now.mark.index < d.mark.index)
          : Simulates (p.NameTwin K) (scanUri.go start known c fuel acc d)
              (scanUri.go start' known c' fuel' acc d') := by
        have hlength := hnow.length_lt hd hend hlt
        have hmono := p.count_mono hlt.le
        exact ih hd (by omega) (by unfold Ample at *; omega)
      split
      . refine (scanUriEscapes_twin start start' hnow).bind ?_
        rintro ⟨octets, next⟩ ⟨_, next'⟩ ⟨⟨rfl, hnext⟩, hlt⟩
        exact hround hnext hlt
      . exact hround (hnow.skip hne) (Nat.lt_succ_self _)
    . split
      . exact .error _ _
      . exact .ok ⟨rfl, hnow⟩

theorem scanUri_twin (start start' : Mark) (known : Text) (h : p.Twin K c c')
    : Simulates (p.NameTwin K) (scanUri start known c) (scanUri start' known c') := by
  refine (uri_go start start' h.here (.inr rfl) h.here (Nat.lt_succ_self _) h.ample).mono ?_
  rintro r r' ⟨hacc, hnext⟩
  exact ⟨hacc, hnext.mono fun m => .inl⟩

theorem scanHandle_twin (start start' : Mark) (directive : Bool) (h : p.Twin K c c')
    : Simulates (p.NameTwin K) (scanHandle start directive c) (scanHandle start' directive c') := by
  unfold scanHandle
  rw [h.peek]
  split
  . exact .error _ _
  . next hbang =>
    have hne : c.peek ≠ '\n' := by
      intro heq
      rw [heq] at hbang
      exact hbang rfl
    have hword := (h.skip hne).takeWhile isWordChar_newline
    have hafter := (h.skip hne).skipWhile isWordChar_newline
    unfold Cursor.takeWhile
    dsimp only
    rw [hword, hafter.peek]
    split
    . next hfull =>
      refine .ok ⟨rfl, hafter.skip ?_⟩
      intro heq
      rw [heq] at hfull
      cases hfull
    . split
      . exact .error _ _
      . exact .ok ⟨rfl, hafter⟩

/-- Two tags after which the readers are in step. -/
def TagTwin (p : Spacing) (K : Mark → Prop) (r r' : Text × Text × Cursor) : Prop :=
  r'.1 = r.1 ∧ r'.2.1 = r.2.1 ∧ p.Twin K r.2.2 r'.2.2

/-- A tag. -/
theorem scanTag_twin (h : p.Twin K c c') (hc : c.peek ≠ '\n')
    : Simulates (p.TagTwin K) (scanTag c) (scanTag c') := by
  unfold scanTag
  rw [h.whole.need, h.whole'.need]
  dsimp only
  rw [h.peek_one hc]
  have hlast (r r' : Text × Text × Cursor) (hr : p.TagTwin K r r')
      : Simulates (p.TagTwin K)
          (if isBlankOrEnd (r.2.2.need 1).peek then pure (r.1, r.2.1, r.2.2.need 1)
            else throw ((r.2.2.need 1).problem c.mark .noBlankOrBreak))
          (if isBlankOrEnd (r'.2.2.need 1).peek then pure (r'.1, r'.2.1, r'.2.2.need 1)
            else throw ((r'.2.2.need 1).problem c'.mark .noBlankOrBreak)) := by
    obtain ⟨hhandle, hsuffix, hafter⟩ := hr
    rw [hafter.whole.need, hafter.whole'.need, hafter.peek]
    split
    . exact .ok ⟨hhandle, hsuffix, hafter⟩
    . exact .error _ _
  split
  . next hverbatim =>
    have hstart : p.Twin K c.skip.skip c'.skip.skip := by
      apply (h.skip hc).skip
      intro heq
      rw [← Cursor.peek_succ] at heq
      rw [heq] at hverbatim
      cases hverbatim
    refine (scanUri_twin _ _ _ hstart).bind ?_
    rintro ⟨suffix, after⟩ ⟨_, after'⟩ ⟨rfl, hafter⟩
    dsimp only at hafter ⊢
    rw [hafter.peek]
    split
    . next hclose =>
      have hne : after.peek ≠ '\n' := by
        intro heq
        rw [heq] at hclose
        cases hclose
      exact (Simulates.ok ⟨rfl, rfl, hafter.skip hne⟩).bind hlast
    . exact .throw_bind _ _ _
  . refine (scanHandle_twin _ _ _ h).bind ?_
    rintro ⟨handle, after⟩ ⟨_, after'⟩ ⟨rfl, hafter⟩
    dsimp only at hafter ⊢
    split
    . refine (scanUri_twin _ _ _ hafter).bind ?_
      rintro ⟨suffix, after⟩ ⟨_, after'⟩ ⟨rfl, hafter⟩
      exact (Simulates.ok ⟨rfl, rfl, hafter⟩).bind hlast
    . refine (scanUri_twin _ _ _ hafter).bind ?_
      rintro ⟨suffix, after⟩ ⟨_, after'⟩ ⟨rfl, hafter⟩
      dsimp only at hafter ⊢
      split
      . exact (Simulates.ok ⟨rfl, rfl, hafter⟩).bind hlast
      . exact (Simulates.ok ⟨rfl, rfl, hafter⟩).bind hlast

end Spacing
end Yaml
end YamlOrder
