import Mathlib.Data.Finset.Prod
import Mathlib.Order.Interval.Finset.Nat
import YamlOrder.Proofs.Text.Numeral
import YamlOrder.Proofs.Text.Search
import YamlOrder.Shield.Substitution

/-!
This module contains the theory of tokens: a number determines its token, a larger number does not
have a shorter one, and the number that is chosen for a text is free there.
-/

namespace YamlOrder
namespace Substitution

variable {kind text : Text}

theorem token_injective {m n : Nat} (h : token kind m = token kind n) : m = n := by
  apply Text.ofNat_injective
  simpa [token] using h

theorem length_token_mono (kind : Text) {m n : Nat} (h : m ≤ n)
    : (token kind m).length ≤ (token kind n).length := by
  have := Text.length_ofNat_mono h
  simpa [token] using this

theorem tokenStart_prefix_token (n : Nat) : tokenStart kind <+: token kind n :=
  List.prefix_append _ _

theorem two_le_length_tokenStart : 2 ≤ (tokenStart kind).length := by
  simp only [tokenStart, List.length_append, List.length_cons, List.length_nil]
  omega

theorem two_le_length_token (kind : Text) (n : Nat) : 2 ≤ (token kind n).length :=
  Nat.le_trans two_le_length_tokenStart (tokenStart_prefix_token n).length_le

theorem freeNumber.go_ge (fuel n : Nat) : n ≤ freeNumber.go kind text fuel n := by
  induction fuel generalizing n with
  | zero => exact Nat.le_refl n
  | succ fuel ih =>
    unfold freeNumber.go
    split
    . exact Nat.le_trans (Nat.le_succ n) (ih (n + 1))
    . exact Nat.le_refl n

theorem freeNumber_ge (n : Nat) : n ≤ freeNumber kind text n := freeNumber.go_ge _ n

theorem freeNumber_of_free {n : Nat} (h : ¬ token kind n <:+: text)
    : freeNumber kind text n = n := by
  unfold freeNumber
  cases text.length * text.length with
  | zero => rfl
  | succ fuel =>
    rw [freeNumber.go, if_neg]
    rwa [Text.occursIn_iff]

theorem freeNumber.go_free (fuel n : Nat)
    (h : ∃ k < fuel, ¬ token kind (n + k) <:+: text)
    : ¬ token kind (freeNumber.go kind text fuel n) <:+: text := by
  induction fuel generalizing n with
  | zero =>
    obtain ⟨k, hk, _⟩ := h
    omega
  | succ fuel ih =>
    unfold freeNumber.go
    split
    . next hocc =>
      obtain ⟨k, hk, hfree⟩ := h
      have hk0 : k ≠ 0 := by
        rintro rfl
        exact hfree (Text.occursIn_iff.mp hocc)
      apply ih
      refine ⟨k - 1, by omega, ?_⟩
      have : n + 1 + (k - 1) = n + k := by omega
      rw [this]
      exact hfree
    . next hocc =>
      rw [← Text.occursIn_iff]
      simpa using hocc

theorem exists_slice_of_infix {piece : Text} (h : piece <:+: text)
    : ∃ i, i + piece.length ≤ text.length ∧ piece = (text.drop i).take piece.length := by
  obtain ⟨u, v, rfl⟩ := h
  refine ⟨u.length, by simp, ?_⟩
  simp

theorem exists_free_token (n : Nat) (htext : text ≠ [])
    : ∃ k < text.length * text.length, ¬ token kind (n + k) <:+: text := by
  by_contra hall
  push Not at hall
  have hslice : ∀ k, ∃ i, k < text.length * text.length →
      i + (token kind (n + k)).length ≤ text.length ∧
        token kind (n + k) = (text.drop i).take (token kind (n + k)).length := by
    intro k
    by_cases hk : k < text.length * text.length
    . obtain ⟨i, hi⟩ := exists_slice_of_infix (hall k hk)
      exact ⟨i, fun _ => hi⟩
    . exact ⟨0, fun h => absurd h hk⟩
  choose place hplace using hslice
  let slice (k : Nat) : Nat × Nat := (place k, (token kind (n + k)).length)
  have hmaps : ∀ k ∈ Finset.range (text.length * text.length),
      slice k ∈ Finset.range text.length ×ˢ Finset.Icc 2 text.length := by
    intro k hk
    have := (hplace k (Finset.mem_range.mp hk)).1
    have := two_le_length_token kind (n + k)
    simp only [slice, Finset.mem_product, Finset.mem_range, Finset.mem_Icc]
    omega
  have hinj : Set.InjOn slice (Finset.range (text.length * text.length)) := by
    intro j hj k hk hjk
    simp only [slice, Prod.mk.injEq] at hjk
    have hj := (hplace j (Finset.mem_range.mp hj)).2
    have hk := (hplace k (Finset.mem_range.mp hk)).2
    rw [hjk.1, hjk.2, ← hk] at hj
    have := token_injective hj
    omega
  have hcard := Finset.card_le_card_of_injOn slice hmaps hinj
  simp only [Finset.card_range, Finset.card_product, Nat.card_Icc] at hcard
  have hpos : 0 < text.length := List.length_pos_iff.mpr htext
  have : text.length + 1 - 2 < text.length := by omega
  have := Nat.mul_lt_mul_of_pos_left this hpos
  omega

theorem freeNumber_free (n : Nat) : ¬ token kind (freeNumber kind text n) <:+: text := by
  cases text with
  | nil =>
    intro h
    have := two_le_length_token kind (freeNumber kind [] n)
    simp [List.infix_nil.mp h] at this
  | cons b t => exact freeNumber.go_free _ n (exists_free_token n (by simp))

end Substitution
end YamlOrder
