import Mathlib.Data.List.Infix
import YamlOrder.Text.Basic

/-!
This module contains the theory of searching a text: what the first and the last occurrence of a
piece are, and how occurrences relate to the parts a text is made of.
-/

namespace YamlOrder
namespace Text

variable {piece text : Text}

theorem prefix_drop_succ {b : UInt8} {i : Nat}
    : piece <+: (b :: text).drop (i + 1) ↔ piece <+: text.drop i := by
  simp

theorem exists_prefix_drop_of_infix (h : piece <:+: text) : ∃ j, piece <+: text.drop j := by
  obtain ⟨v, w, rfl⟩ := h
  refine ⟨v.length, ?_⟩
  rw [List.append_assoc, List.drop_left]
  exact List.prefix_append _ _

theorem find?_eq_some_iff {i : Nat}
    : find? piece text = some i ↔ piece <+: text.drop i ∧ ∀ j < i, ¬ piece <+: text.drop j := by
  induction text generalizing i with
  | nil =>
    simp only [find?, List.isEmpty_iff, List.drop_nil, List.prefix_nil]
    split
    . next hp =>
      subst hp
      cases i with
      | zero => simp
      | succ i =>
        simp only [Option.some.injEq, true_and, not_true_eq_false, imp_false]
        constructor
        . intro h
          omega
        . intro h
          exact absurd (Nat.succ_pos i) (h 0)
    . next hp => simp [hp]
  | cons b t ih =>
    unfold find?
    split
    . next hp =>
      have hp := List.isPrefixOf_iff_prefix.mp hp
      cases i with
      | zero => simpa using hp
      | succ i =>
        simp only [Option.some.injEq]
        constructor
        . intro h
          omega
        . intro h
          exact absurd (by simpa using hp) (h.2 0 (Nat.succ_pos i))
    . next hp =>
      have hp : ¬ piece <+: b :: t := by simpa using hp
      cases i with
      | zero => simp [hp]
      | succ i =>
        simp only [Option.map_eq_some_iff, Nat.add_right_cancel_iff, exists_eq_right, ih,
          prefix_drop_succ]
        refine and_congr_right fun _ => ⟨?_, ?_⟩
        . intro h j hj
          cases j with
          | zero => simpa using hp
          | succ j => simpa using h j (by omega)
        . intro h j hj
          simpa using h (j + 1) (by omega)

theorem find?_eq_none_iff : find? piece text = none ↔ ¬ piece <:+: text := by
  induction text with
  | nil => simp [find?]
  | cons b t ih =>
    unfold find?
    split
    . next hp =>
      have hp := List.isPrefixOf_iff_prefix.mp hp
      simp [hp.isInfix]
    . next hp =>
      have hp : ¬ piece <+: b :: t := by simpa using hp
      simp [ih, List.infix_cons_iff, hp]

theorem occursIn_iff : occursIn piece text = true ↔ piece <:+: text := by
  unfold occursIn
  cases h : find? piece text with
  | none =>
    have := find?_eq_none_iff.mp h
    simp [this]
  | some i =>
    have := (find?_eq_some_iff.mp h).1.isInfix.trans (List.drop_suffix i text).isInfix
    simp [this]

theorem findLast?_eq_none_iff : findLast? piece text = none ↔ ¬ piece <:+: text := by
  induction text with
  | nil => simp [findLast?]
  | cons b t ih =>
    unfold findLast?
    cases h : findLast? piece t with
    | none =>
      rw [h] at ih
      have := ih.mp rfl
      simp [List.infix_cons_iff, this]
    | some i =>
      have : piece <:+: t := by
        by_contra hn
        simp [ih.mpr hn] at h
      simp [List.infix_cons_iff, this]

theorem findLast?_eq_some_iff {i : Nat} (hp : piece ≠ [])
    : findLast? piece text = some i ↔ piece <+: text.drop i ∧ ∀ j > i, ¬ piece <+: text.drop j := by
  induction text generalizing i with
  | nil => simp [findLast?, hp]
  | cons b t ih =>
    unfold findLast?
    cases h : findLast? piece t with
    | none =>
      have hnone := findLast?_eq_none_iff.mp h
      have hdrop : ∀ j, ¬ piece <+: t.drop j :=
        fun j hj => hnone (hj.isInfix.trans (List.drop_suffix j t).isInfix)
      cases i with
      | zero =>
        simp only [Option.ite_none_right_eq_some, List.isPrefixOf_iff_prefix, List.drop_zero]
        constructor
        . rintro ⟨hpre, _⟩
          refine ⟨hpre, fun j hj => ?_⟩
          obtain ⟨j, rfl⟩ := Nat.exists_eq_succ_of_ne_zero (by omega : j ≠ 0)
          simpa using hdrop j
        . rintro ⟨hpre, _⟩
          exact ⟨hpre, trivial⟩
      | succ i => simp [hdrop]
    | some k =>
      simp only [Option.some.injEq]
      cases i with
      | zero =>
        constructor
        . intro h
          omega
        . rintro ⟨_, hlast⟩
          have := (ih.mp h).1
          exact absurd (by simpa using this) (hlast (k + 1) (by omega))
      | succ i =>
        rw [Nat.add_right_cancel_iff, prefix_drop_succ]
        have hiff := ih (i := i)
        rw [h, Option.some.injEq] at hiff
        rw [hiff]
        refine and_congr_right fun _ => ⟨?_, ?_⟩
        . intro hlast j hj
          obtain ⟨j, rfl⟩ := Nat.exists_eq_succ_of_ne_zero (by omega : j ≠ 0)
          simpa using hlast j (by omega)
        . intro hlast j hj
          simpa using hlast (j + 1) (by omega)

theorem replaceFirst_of_find? {value : Text} {i : Nat} (h : find? piece text = some i)
    : replaceFirst piece value text = text.take i ++ value ++ text.drop (i + piece.length) := by
  simp [replaceFirst, h]

theorem prefix_of_prefix_append_cons {u v : Text} {b : UInt8} (hb : b ∉ piece)
    (h : piece <+: u ++ b :: v)
    : piece <+: u := by
  by_cases hlen : piece.length ≤ u.length
  . exact List.prefix_of_prefix_length_le h (List.prefix_append _ _) hlen
  . exfalso
    have : u ++ [b] <+: piece := by
      refine List.prefix_of_prefix_length_le ?_ h (by simp; omega)
      exact ⟨v, by simp⟩
    exact hb (this.subset (by simp))

theorem infix_append_cons_of_not_mem {u v : Text} {b : UInt8} (hb : b ∉ piece)
    (h : piece <:+: u ++ b :: v)
    : piece <:+: u ∨ piece <:+: v := by
  obtain ⟨x, y, hxy⟩ := h
  rw [List.append_assoc] at hxy
  obtain ⟨w, rfl, hw⟩ | ⟨w, rfl, hw⟩ := List.append_eq_append_iff.mp hxy
  . obtain ⟨z, rfl, hz⟩ | ⟨z, rfl, hz⟩ := List.append_eq_append_iff.mp hw
    . exact .inl ⟨x, z, by simp⟩
    . cases z with
      | nil => exact .inl ⟨x, [], by simp⟩
      | cons c z =>
        simp only [List.cons_append, List.cons.injEq] at hz
        exact absurd (by simp [hz.1]) hb
  . cases w with
    | nil =>
      cases piece with
      | nil => exact .inl (List.nil_infix)
      | cons c p =>
        simp only [List.nil_append, List.cons_append, List.cons.injEq] at hw
        exact absurd (by simp [hw.1]) hb
    | cons c w =>
      simp only [List.cons_append, List.cons.injEq] at hw
      exact .inr ⟨w, y, by simp [hw.2]⟩

theorem cut?_append_cons {sep : UInt8} {t : Text} (h : sep ∉ t) (u : Text)
    : cut? sep (t ++ sep :: u) = some (t, u) := by
  induction t with
  | nil => simp [cut?]
  | cons b t ih =>
    simp only [List.mem_cons, not_or] at h
    rw [List.cons_append, cut?, if_neg (by simpa using Ne.symm h.1), ih h.2]
    rfl

end Text
end YamlOrder
