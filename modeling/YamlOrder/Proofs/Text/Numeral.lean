import Mathlib.Algebra.Group.Nat.Defs
import Mathlib.Data.List.Basic
import YamlOrder.Text.Integer

/-!
This module contains the theory of the decimal digits of a natural number: they are digits, they
determine the number, a larger number does not have fewer of them, and only zero begins with the
digit zero. Reading them gives the number back, with a sign too.
-/

namespace YamlOrder
namespace Text

theorem utf8EncodeChar_of_isDigit {c : Char} (h : c.isDigit)
    : String.utf8EncodeChar c = [c.val.toUInt8] := by
  apply String.utf8EncodeChar_eq_singleton
  rw [Char.utf8Size_eq_one_iff]
  simp only [Char.isDigit, ge_iff_le, Bool.and_eq_true, decide_eq_true_eq] at h
  exact UInt32.le_trans h.2 (by decide)

theorem ofNat_eq_map (n : Nat)
    : ofNat n = (Nat.toDigits 10 n).map fun c => c.val.toUInt8 := by
  have : ofNat n = (Nat.toDigits 10 n).flatMap String.utf8EncodeChar := by
    rw [ofNat, Nat.toString_eq_ofList_toDigits]
    simp [ofString, List.utf8Encode]
  rw [this, List.map_eq_flatMap]
  apply List.flatMap_congr
  intro c hc
  exact utf8EncodeChar_of_isDigit (Nat.isDigit_of_mem_toDigits (by decide) (by decide) hc)

theorem isDigit_toUInt8 {c : Char} (h : c.isDigit) : isDigit c.val.toUInt8 := by
  simp only [Char.isDigit, ge_iff_le, Bool.and_eq_true, decide_eq_true_eq, UInt32.le_iff_toNat_le]
    at h
  simp only [isDigit, Bool.and_eq_true, decide_eq_true_eq, UInt8.le_iff_toNat_le,
    UInt32.toNat_toUInt8]
  have h0 : '0'.val.toNat = 48 := rfl
  have h9 : '9'.val.toNat = 57 := rfl
  have : (48 : UInt8).toNat = 48 := rfl
  have : (57 : UInt8).toNat = 57 := rfl
  omega

theorem isDigit_of_mem_ofNat {n : Nat} {b : UInt8} (h : b ∈ ofNat n) : isDigit b := by
  rw [ofNat_eq_map, List.mem_map] at h
  obtain ⟨c, hc, rfl⟩ := h
  exact isDigit_toUInt8 (Nat.isDigit_of_mem_toDigits (by decide) (by decide) hc)

theorem map_ofNat (n : Nat) : (ofNat n).map Char.ofUInt8 = Nat.toDigits 10 n := by
  rw [ofNat_eq_map, List.map_map]
  conv => rhs; rw [← List.map_id (Nat.toDigits 10 n)]
  apply List.map_congr_left
  intro c hc
  have hc := Nat.isDigit_of_mem_toDigits (by decide) (by decide) hc
  simp only [Char.isDigit, ge_iff_le, Bool.and_eq_true, decide_eq_true_eq, UInt32.le_iff_toNat_le]
    at hc
  have h9 : '9'.val.toNat = 57 := rfl
  apply Char.ext
  apply UInt32.toNat_inj.mp
  have hval : (Char.ofUInt8 c.val.toUInt8).val = c.val.toUInt8.toUInt32 := rfl
  simp only [Function.comp_apply, hval, UInt8.toNat_toUInt32, UInt32.toNat_toUInt8, id_eq]
  omega

theorem ofNat_injective {m n : Nat} (h : ofNat m = ofNat n) : m = n := by
  have hdigits : Nat.toDigits 10 m = Nat.toDigits 10 n := by
    rw [← map_ofNat, ← map_ofNat, h]
  rw [← Nat.ofDigitChars_ten_toDigits (n := m), hdigits, Nat.ofDigitChars_ten_toDigits]

theorem length_ofNat_mono {m n : Nat} (h : m ≤ n) : (ofNat m).length ≤ (ofNat n).length := by
  simp only [ofNat_eq_map, List.length_map]
  rw [Nat.length_toDigits_le_iff (by decide) Nat.length_toDigits_pos]
  have := (Nat.length_toDigits_le_iff (n := n) (k := (Nat.toDigits 10 n).length) (by decide)
    Nat.length_toDigits_pos).mp (Nat.le_refl _)
  omega

theorem ofNat_ne_nil (n : Nat) : ofNat n ≠ [] := by
  rw [ofNat_eq_map, Ne, List.map_eq_nil_iff]
  exact Nat.toDigits_ne_nil

theorem length_ofNat_le_iff {n k : Nat} (hk : 0 < k) : (ofNat n).length ≤ k ↔ n < 10 ^ k := by
  rw [ofNat_eq_map, List.length_map]
  exact Nat.length_toDigits_le_iff (by decide) hk

theorem eq_zero_of_head?_ofNat {n : Nat} (h : (ofNat n).head? = some 48) : n = 0 := by
  induction n using Nat.strongRecOn with
  | ind n ih =>
    by_cases hn : n < 10
    . rw [ofNat_eq_map, Nat.toDigits_of_lt_base hn, List.map_singleton, List.head?_singleton,
        Option.some.injEq] at h
      have hdigit : ∀ n < 10, n.digitChar.val.toUInt8 = 48 → n = 0 := by decide
      exact hdigit n hn h
    . have hhead : (ofNat (n / 10)).head? = some 48 := by
        rw [ofNat_eq_map, Nat.toDigits_of_base_le (by decide) (by omega), List.map_append,
          ← ofNat_eq_map,
          List.head?_append_of_ne_nil _ (ofNat_ne_nil _)] at h
        exact h
      have := ih (n / 10) (by omega) hhead
      omega

theorem digits?_ofNat (n : Nat) : digits? (ofNat n) = some n := by
  have hvalue : (ofNat n).foldl (fun n b => n * 10 + (b.toNat - 48)) 0 = n := by
    have h := Nat.ofDigitChars_ten_toDigits (n := n)
    rw [← map_ofNat, Nat.ofDigitChars, List.foldl_map] at h
    simp only [Nat.mul_comm 10] at h
    exact h
  have hdigits : (!(ofNat n).isEmpty && (ofNat n).all isDigit) = true := by
    rw [Bool.and_eq_true, List.all_eq_true]
    exact ⟨by simpa using ofNat_ne_nil n, fun b hb => isDigit_of_mem_ofNat hb⟩
  rw [digits?, if_pos hdigits, hvalue]

variable {b : UInt8} {n : Int}

theorem isDigit_iff : isDigit b = true ↔ 48 ≤ b.toNat ∧ b.toNat ≤ 57 := by
  simp only [isDigit, Bool.and_eq_true, decide_eq_true_eq, UInt8.le_iff_toNat_le]
  exact Iff.rfl

theorem mem_ofInt (h : b ∈ ofInt n) : b = 45 ∨ isDigit b = true := by
  cases n with
  | ofNat n => exact .inr (isDigit_of_mem_ofNat h)
  | negSucc n => exact (List.mem_cons.mp h).imp_right isDigit_of_mem_ofNat

theorem toNat_of_mem_ofInt (h : b ∈ ofInt n) : 45 ≤ b.toNat ∧ b.toNat ≤ 57 := by
  obtain rfl | hdigit := mem_ofInt h
  . decide
  . rw [isDigit_iff] at hdigit
    omega

theorem splitSign_of_isDigit (hb : isDigit b = true) (t : Text)
    : splitSign (b :: t) = (false, b :: t) := by
  have hsign : ¬ (b == 45) = true ∧ ¬ (b == 43) = true := by
    simp only [beq_iff_eq]
    constructor
    all_goals
      rintro rfl
      exact absurd hb (by decide)
  rw [splitSign, if_neg hsign.1, if_neg hsign.2]

theorem splitSign_ofNat (n : Nat) : splitSign (ofNat n) = (false, ofNat n) := by
  cases h : ofNat n with
  | nil => rfl
  | cons b t =>
    have hmem : b ∈ ofNat n := h ▸ List.mem_cons_self
    exact splitSign_of_isDigit (isDigit_of_mem_ofNat hmem) t

/-- An integer of 64 bits is read back from its digits. -/
theorem toInt_ofInt (h : fitsInt64 n = true) : toInt (ofInt n) = .ok n := by
  cases n with
  | ofNat n =>
    simp only [toInt, ofInt, splitSign_ofNat, digits?_ofNat]
    exact if_pos h
  | negSucc n =>
    have hsign : splitSign (45 :: ofNat (n + 1)) = (true, ofNat (n + 1)) := rfl
    simp only [toInt, ofInt, hsign, digits?_ofNat]
    exact if_pos h

end Text
end YamlOrder
