import YamlOrder.Sorter

/-!
This module contains the laws of the orders of keys: each order that a sorter can use puts all keys
in a row, apart from ties, and keywords tie with themselves only.
-/

namespace YamlOrder
namespace Order

open Std (OrientedCmp TransCmp)
open YamlOrder.Tree (Comparator)
open Collation (Collator Key)

instance : TransCmp Key.compare :=
  inferInstanceAs (TransCmp (List.compareLex (List.compareLex Ord.compare)))

instance (c : Collator) : TransCmp (byCollator c) where
  eq_swap {a b} := @OrientedCmp.eq_swap _ Key.compare _ (c.key a) (c.key b)
  isLE_trans {x y z} := @TransCmp.isLE_trans _ Key.compare _ (c.key x) (c.key y) (c.key z)

theorem swap_eq (cmp : Comparator) [OrientedCmp cmp] (a b : Text) : (cmp a b).swap = cmp b a :=
  OrientedCmp.eq_swap.symm

theorem isLE_total (cmp : Comparator) [OrientedCmp cmp] (a b : Text)
    : ((cmp a b).isLE || (cmp b a).isLE) = true := by
  rw [← swap_eq cmp a b]
  cases cmp a b
  all_goals rfl

instance (reverse : Bool) (cmp : Comparator) [TransCmp cmp] : TransCmp (reverseIf reverse cmp) where
  eq_swap {a b} := by
    cases reverse with
    | false => exact (swap_eq cmp b a).symm
    | true => simp only [reverseIf, if_true, swap_eq cmp]
  isLE_trans {a b c} hab hbc := by
    cases reverse with
    | false => exact @TransCmp.isLE_trans _ cmp _ _ _ _ hab hbc
    | true =>
      simp only [reverseIf, if_true, swap_eq cmp] at hab hbc ⊢
      exact TransCmp.isLE_trans hbc hab

instance (keywords : List Text) (fallback : Comparator) [TransCmp fallback]
    : TransCmp (byKeywords keywords fallback) where
  eq_swap {a b} := by
    cases ha : position? keywords a
    all_goals cases hb : position? keywords b
    all_goals simp only [byKeywords, ha, hb]
    . exact OrientedCmp.eq_swap
    . rfl
    . rfl
    . exact OrientedCmp.eq_swap
  isLE_trans {a b c} hab hbc := by
    -- a keyword is never behind a key that is none
    cases ha : position? keywords a
    all_goals cases hb : position? keywords b
    all_goals cases hc : position? keywords c
    all_goals simp only [byKeywords, ha, hb, hc] at hab hbc ⊢
    . exact TransCmp.isLE_trans hab hbc
    . contradiction
    . contradiction
    . contradiction
    . rfl
    . contradiction
    . rfl
    . exact TransCmp.isLE_trans hab hbc

instance (c : Collator) (keywords : List Text) (slot : Int) (recursive reverse : Bool)
    : TransCmp (select c keywords slot recursive reverse) := by
  unfold select
  split
  all_goals infer_instance

variable {keywords : List Text} {fallback : Comparator} {keyword a b : Text} {i : Nat}

theorem position?_eq_none_iff : position? keywords a = none ↔ a ∉ keywords := by
  simp only [position?, List.findIdx?_eq_none_iff, beq_eq_false_iff_ne]
  exact ⟨fun h hmem => h a hmem rfl, fun h b hb heq => h (heq ▸ hb)⟩

theorem position?_isSome_iff : (position? keywords a).isSome = true ↔ a ∈ keywords := by
  simp [position?, List.findIdx?_isSome]

theorem eq_of_position? (ha : position? keywords a = some i) (hb : position? keywords b = some i)
    : a = b := by
  simp only [position?, List.findIdx?_eq_some_iff_getElem, beq_iff_eq] at ha hb
  obtain ⟨_, ha, -⟩ := ha
  obtain ⟨_, hb, -⟩ := hb
  exact ha.symm.trans hb

theorem position?_cons_self (keyword : Text) (keywords : List Text)
    : position? (keyword :: keywords) keyword = some 0 := by
  simp [position?, List.findIdx?_cons]

theorem position?_cons_of_ne (h : a ≠ keyword)
    : position? (keyword :: keywords) a = (position? keywords a).map (· + 1) := by
  simp [position?, List.findIdx?_cons, h.symm]

theorem byKeywords_eq_eq_iff (h : a ∈ keywords ∨ b ∈ keywords)
    : byKeywords keywords fallback a b = .eq ↔ a = b := by
  cases ha : position? keywords a with
  | none =>
    have hb : b ∈ keywords := h.resolve_left (position?_eq_none_iff.mp ha)
    obtain ⟨j, hj⟩ := Option.isSome_iff_exists.mp (position?_isSome_iff.mpr hb)
    simp only [byKeywords, ha, hj, reduceCtorEq, false_iff]
    rintro rfl
    exact position?_eq_none_iff.mp ha hb
  | some i =>
    cases hb : position? keywords b with
    | none =>
      simp only [byKeywords, ha, hb, reduceCtorEq, false_iff]
      rintro rfl
      simp [ha] at hb
    | some j =>
      simp only [byKeywords, ha, hb, Nat.compare_eq_eq]
      constructor
      . rintro rfl
        exact eq_of_position? ha hb
      . rintro rfl
        simpa [ha] using hb

theorem byKeywords_cons_self_left (h : a ≠ keyword)
    : byKeywords (keyword :: keywords) fallback keyword a = .lt := by
  rw [byKeywords, position?_cons_self, position?_cons_of_ne h]
  cases position? keywords a with
  | none => rfl
  | some i => exact Nat.compare_eq_lt.mpr (Nat.succ_pos i)

theorem byKeywords_cons_of_ne (ha : a ≠ keyword) (hb : b ≠ keyword)
    : byKeywords (keyword :: keywords) fallback a b = byKeywords keywords fallback a b := by
  simp only [byKeywords, position?_cons_of_ne ha, position?_cons_of_ne hb]
  cases position? keywords a
  all_goals cases position? keywords b
  all_goals simp [Nat.compare_eq_ite_lt]

/--
The number by which an order tells of two keys: negative if the first one comes first, and zero if
they tie.
-/
def sign : Ordering → Int
  | .lt => -1
  | .eq => 0
  | .gt => 1

theorem sign_swap (o : Ordering) : sign o.swap = -sign o := by
  cases o
  all_goals rfl

theorem sign_nonpos_iff (o : Ordering) : sign o ≤ 0 ↔ o.isLE = true := by
  cases o
  all_goals decide

theorem sign_eq_zero_iff (o : Ordering) : sign o = 0 ↔ o = .eq := by
  cases o
  all_goals decide

/--
Answers that fit together: each of them is one of three numbers, two keys the other way round have
the opposite one, and a key that is not behind a second one is not behind what the second one is not
behind. The first clause is built into the type: the program answers with a number, but keeps its
sign only, and `Ordering` is that sign.
-/
structure Consistent (cmp : Comparator) : Prop where
  range (a b : Text) : sign (cmp a b) = -1 ∨ sign (cmp a b) = 0 ∨ sign (cmp a b) = 1
  opposite (a b : Text) : sign (cmp b a) = -sign (cmp a b)
  trans (a b c : Text) : sign (cmp a b) ≤ 0 → sign (cmp b c) ≤ 0 → sign (cmp a c) ≤ 0

theorem consistent_of_transCmp (cmp : Comparator) [TransCmp cmp] : Consistent cmp where
  range a b := by
    cases cmp a b
    all_goals decide
  opposite a b := by rw [← swap_eq cmp a b, sign_swap]
  trans a b c := by
    simp only [sign_nonpos_iff]
    exact TransCmp.isLE_trans

theorem reverseIf_eq_eq_iff (reverse : Bool) (cmp : Comparator)
    : reverseIf reverse cmp a b = .eq ↔ cmp a b = .eq := by
  cases reverse
  all_goals simp [reverseIf]

/--
The order of a sort and the order by keywords are consistent in all languages, for all lists of
keywords and in both directions. A keyword ties with itself only.
-/
theorem select_consistent (c : Collator) (keywords : List Text) (slot : Int)
    (recursive reverse : Bool)
    : Consistent (select c keywords slot recursive reverse) ∧
      Consistent (reverseIf reverse (byKeywords keywords (byCollator c))) ∧
      ∀ a b, a ∈ keywords ∨ b ∈ keywords →
        (sign (reverseIf reverse (byKeywords keywords (byCollator c)) a b) = 0 ↔ a = b) := by
  refine ⟨consistent_of_transCmp _, consistent_of_transCmp _, fun a b h => ?_⟩
  rw [sign_eq_zero_iff, reverseIf_eq_eq_iff, byKeywords_eq_eq_iff h]

/-- The opposite order, with a keyword that is listed twice. -/
theorem select_consistent_twice
    : ("kind" : Text) ∈ (["kind", "data", "kind"] : List Text) ∧
      (sign (reverseIf true (byKeywords ["kind", "data", "kind"] (byCollator (.ofLocale "sv")))
        "kind" "data") = 0 ↔
        ("kind" : Text) = "data") ∧
      sign
      (reverseIf true (byKeywords ["kind", "data", "kind"] (byCollator (.ofLocale "sv"))) "kind"
        "data") = 1 := by
  have hmem : ("kind" : Text) ∈ (["kind", "data", "kind"] : List Text) := List.mem_cons_self
  obtain ⟨-, -, hties⟩ := select_consistent (.ofLocale "sv") ["kind", "data", "kind"] 1 true true
  exact ⟨hmem, hties _ _ (Or.inl hmem), by decide⟩

end Order

namespace Sorter

open Std (TransCmp)

/-- The order of the root mapping is a total preorder. -/
instance (s : Sorter) (slot : Int) : TransCmp (s.comparators slot).1 := by
  unfold comparators
  dsimp only
  split
  all_goals infer_instance

/-- The order of all other mappings is a total preorder. -/
instance (s : Sorter) (slot : Int) : TransCmp (s.comparators slot).2 := by
  unfold comparators
  dsimp only
  split
  all_goals infer_instance

end Sorter
end YamlOrder
