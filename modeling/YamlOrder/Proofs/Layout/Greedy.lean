import Mathlib.Data.List.Chain
import Mathlib.Data.Nat.Find
import YamlOrder.Proofs.Layout.Break

/-!
This module contains how a line is wrapped: no piece is too long that could be shorter, and none is
shorter than it has to be.
-/

namespace YamlOrder
namespace Layout

open Text (charCount space spaces)

variable {indent : Nat} {width : Int} {body : Text} {i j k : Nat} {pieces : List Text}

/-- The part of a body up to its first breakable space, or all of it if there is none. -/
def opening (body : Text) : Text :=
    body.take (((List.range body.length).find? (isBreakable body)).getD body.length)

/-- Whether the part of a body up to a position is no longer than the width. -/
def Reaches (indent : Nat) (width : Int) (body : Text) (i : Nat) : Prop :=
    indent + charCount (body.take i) ≤ width

theorem isBreakable_iff
    : isBreakable body i = true ↔ 1 ≤ i ∧ i + 1 < body.length ∧ body[i]? = some space ∧
        body[i - 1]? ≠ some space ∧ body[i + 1]? ≠ some space := by
  simp only [isBreakable, Bool.and_eq_true, decide_eq_true_eq, beq_iff_eq, bne_iff_ne]
  tauto

theorem isBreakable_of_take (h : isBreakable (body.take i) k = true)
    : isBreakable body k = true := by
  rw [isBreakable_iff, List.length_take] at h
  obtain ⟨hpos, hlength, hspace, hbefore, hafter⟩ := h
  rw [List.getElem?_take_of_lt (by omega)] at hspace hbefore hafter
  exact isBreakable_iff.mpr ⟨hpos, by omega, hspace, hbefore, hafter⟩

theorem isBreakable_take (hi : isBreakable body i = true) (hk : isBreakable body k = true)
    (hlt : k < i)
    : isBreakable (body.take i) k = true := by
  rw [isBreakable_iff] at hi hk ⊢
  obtain ⟨hpos, hlength, hspace, hbefore, hafter⟩ := hk
  have hne : k + 1 ≠ i := by
    rintro rfl
    exact hafter hi.2.2.1
  rw [List.length_take, List.getElem?_take_of_lt (by omega), List.getElem?_take_of_lt (by omega),
    List.getElem?_take_of_lt (by omega)]
  exact ⟨hpos, by omega, hspace, hbefore, hafter⟩

theorem isBreakable_of_drop (h : isBreakable (body.drop i) k = true)
    : isBreakable body (i + k) = true := by
  rw [isBreakable_iff, List.length_drop, List.getElem?_drop, List.getElem?_drop,
    List.getElem?_drop] at h
  obtain ⟨hpos, hlength, hspace, hbefore, hafter⟩ := h
  rw [← Nat.add_sub_assoc hpos] at hbefore
  exact isBreakable_iff.mpr ⟨by omega, by omega, hspace, hbefore, hafter⟩

theorem lt_length_of_isBreakable (h : isBreakable body i = true) : i < body.length := by
  have := (isBreakable_iff.mp h).2.1
  omega

theorem charCount_take_add (hi : isBreakable body i = true) (k : Nat)
    : charCount (body.take (i + 1 + k)) = charCount (body.take i) + 1 + charCount
      ((body.drop (i + 1)).take k) := by
  have hlength : (body.take i).length = i := List.length_take_of_le (lt_length_of_isBreakable hi).le
  have htake : body.take (i + 1 + k) = body.take i ++ space :: (body.drop (i + 1)).take k := by
    conv_lhs => rw [(exists_of_isBreakable hi).1]
    rw [List.take_append, hlength, List.take_of_length_le (by omega)]
    have : i + 1 + k - i = k + 1 := by omega
    rw [this, List.take_succ_cons]
  rw [htake, Text.charCount_append_cons (by decide)]

theorem charCount_eq_of_isBreakable (hi : isBreakable body i = true)
    : charCount body = charCount (body.take i) + 1 + charCount (body.drop (i + 1)) := by
  conv_lhs => rw [(exists_of_isBreakable hi).1]
  exact Text.charCount_append_cons (by decide) _ _

theorem Reaches.mono (hi : isBreakable body i = true) (hij : i ≤ j)
    (h : Reaches indent width body j)
    : Reaches indent width body i := by
  obtain rfl | hlt := Nat.eq_or_lt_of_le hij
  . exact h
  . obtain ⟨k, rfl⟩ : ∃ k, j = i + 1 + k := ⟨j - (i + 1), by omega⟩
    rw [Reaches, charCount_take_add hi] at h
    rw [Reaches]
    omega

theorem opening_of_solid (h : ∀ k, isBreakable body k = false) : opening body = body := by
  have hnone : (List.range body.length).find? (isBreakable body) = none := by
    rw [List.find?_eq_none]
    exact fun k _ => by simp [h k]
  rw [opening, hnone, Option.getD_none, List.take_length]

theorem opening_of_first (hi : isBreakable body i = true) (h : ∀ k < i, isBreakable body k = false)
    : opening body = body.take i := by
  have hsome : (List.range body.length).find? (isBreakable body) = some i := by
    rw [List.find?_range_eq_some]
    refine ⟨hi, List.mem_range.mpr (lt_length_of_isBreakable hi), fun k hk => ?_⟩
    rw [h k hk]
    rfl
  rw [opening, hsome, Option.getD_some]

theorem exists_first (h : isBreakable body i = true)
    : ∃ k ≤ i, isBreakable body k = true ∧ ∀ m < k, isBreakable body m = false := by
  have hex : ∃ k, isBreakable body k = true := ⟨i, h⟩
  exact ⟨Nat.find hex, Nat.find_min' hex h, Nat.find_spec hex,
    fun m hm => Bool.eq_false_iff.mpr (Nat.find_min hex hm)⟩

theorem isBreakable_take_eq_false (h : ∀ k < i, isBreakable body k = false) (k : Nat)
    : isBreakable (body.take i) k = false := by
  refine Bool.eq_false_iff.mpr fun hk => ?_
  have hlt := lt_length_of_isBreakable hk
  rw [List.length_take] at hlt
  exact Bool.eq_false_iff.mp (h k (by omega)) (isBreakable_of_take hk)

theorem opening_take (hi : isBreakable body i = true) : opening (body.take i) = opening body := by
  obtain ⟨k, hle, hk, hfirst⟩ := exists_first hi
  rw [opening_of_first hk hfirst]
  obtain rfl | hlt := Nat.eq_or_lt_of_le hle
  . exact opening_of_solid (isBreakable_take_eq_false hfirst)
  . rw [opening_of_first (isBreakable_take hi hk hlt), List.take_take, Nat.min_eq_left hle]
    exact fun m hm => Bool.eq_false_iff.mpr fun hm' =>
      Bool.eq_false_iff.mp (hfirst m hm) (isBreakable_of_take hm')

/--
Where a body is broken: at the last breakable space that the width reaches, or else at the first
one.
-/
inductive BreaksAt (indent : Nat) (width : Int) (body : Text) : Option Nat → Prop where
  | solid (h : ∀ k, isBreakable body k = false) : BreaksAt indent width body none
  | last (i : Nat) (hi : isBreakable body i = true) (hreach : Reaches indent width body i)
    (h : ∀ k > i, isBreakable body k = true → ¬ Reaches indent width body k) : BreaksAt indent width
      body (some i)
  | first (i : Nat) (hi : isBreakable body i = true) (hreach : ¬ Reaches indent width body i)
    (h : ∀ k < i, isBreakable body k = false) : BreaksAt indent width body (some i)

/--
What is known when the search for a break comes to a position: the last breakable space before it.
-/
structure Searched (indent : Nat) (width : Int) (body : Text) (k : Nat) (best : Option Nat)
    : Prop where
  found : ∀ m ∈ best, m < k ∧ isBreakable body m = true ∧ Reaches indent width body m
  last : ∀ j < k, isBreakable body j = true → ∃ m ∈ best, j ≤ m

namespace Searched

variable {best : Option Nat}

theorem start : Searched indent width body 0 none :=
    ⟨by simp, fun j hj => absurd hj (Nat.not_lt_zero j)⟩

theorem none_before (h : Searched indent width body k none) (j : Nat) (hj : j < k)
    : isBreakable body j = false := by
  refine Bool.eq_false_iff.mpr fun hbreak => ?_
  obtain ⟨m, hm, -⟩ := h.last j hj hbreak
  cases hm

theorem le_of_some (h : Searched indent width body k (some i)) (hj : j < k)
    (hbreak : isBreakable body j = true)
    : j ≤ i := by
  obtain ⟨m, hm, hle⟩ := h.last j hj hbreak
  cases hm
  exact hle

theorem skip (h : Searched indent width body k best) (hk : isBreakable body k = false)
    : Searched indent width body (k + 1) best := by
  constructor
  . intro m hm
    obtain ⟨hlt, hfound⟩ := h.found m hm
    exact ⟨by omega, hfound⟩
  . intro j hj hbreak
    have hne : j ≠ k := by
      rintro rfl
      rw [hk] at hbreak
      cases hbreak
    exact h.last j (by omega) hbreak

theorem take (hk : isBreakable body k = true) (hreach : Reaches indent width body k)
    : Searched indent width body (k + 1) (some k) := by
  constructor
  . intro m hm
    cases hm
    exact ⟨Nat.lt_succ_self _, hk, hreach⟩
  . exact fun j hj _ => ⟨k, rfl, by omega⟩

theorem finish (h : Searched indent width body body.length best)
    : BreaksAt indent width body best := by
  cases best with
  | none =>
    refine .solid fun j => Bool.eq_false_iff.mpr fun hj => ?_
    exact Bool.eq_false_iff.mp (h.none_before j (lt_length_of_isBreakable hj)) hj
  | some i =>
    obtain ⟨-, hi, hreach⟩ := h.found i rfl
    refine .last i hi hreach fun j hgt hj => ?_
    have hle := h.le_of_some (lt_length_of_isBreakable hj) hj
    omega

theorem stop (h : Searched indent width body k best) (hk : isBreakable body k = true)
    (hreach : ¬ Reaches indent width body k) : BreaksAt indent width body (best <|> some k) := by
  cases best with
  | none => exact .first k hk hreach h.none_before
  | some i =>
    obtain ⟨-, hi, hreach'⟩ := h.found i rfl
    refine .last i hi hreach' fun j hgt hj hreachj => ?_
    by_cases hjk : j < k
    . have hle := h.le_of_some hjk hj
      omega
    . exact hreach (hreachj.mono hk (by omega))

theorem breaksAt {n : Nat} (h : Searched indent width body k best) (hlength : k + n = body.length)
    : BreaksAt indent width body (breakAt?.go indent width body (List.range' k n) best) := by
  induction n generalizing k best with
  | zero =>
    obtain rfl : k = body.length := hlength
    exact h.finish
  | succ n ih =>
    rw [List.range'_succ, breakAt?.go]
    split
    . next hk =>
      split
      . next hlong => exact h.stop hk (by rw [Reaches]; omega)
      . next hfits => exact ih (take hk (by rw [Reaches]; omega)) (by omega)
    . next hk => exact ih (h.skip (Bool.eq_false_iff.mpr hk)) (by omega)

end Searched

theorem breaksAt_breakAt? (indent : Nat) (width : Int) (body : Text)
    : BreaksAt indent width body (breakAt? indent width body) := by
  rw [breakAt?, List.range_eq_range']
  exact Searched.start.breaksAt (Nat.zero_add _)

/--
The pieces of a body, round after round: it is broken for as long as it is too long and has a
breakable space. There is no bound on the number of rounds.
-/
inductive Rounds (indent : Nat) (width : Int) : Text → List Text → Prop where
  | fits {body : Text} (h : indent + charCount body ≤ width) : Rounds indent width body [body]
  | solid {body : Text} (hlong : width < indent + charCount body)
      (h : breakAt? indent width body = none)
    : Rounds indent width body [body]
  | cut {body : Text} {i : Nat} {pieces : List Text} (hlong : width < indent + charCount body)
    (h : breakAt? indent width body = some i)
      (hrest : Rounds indent width (body.drop (i + 1)) pieces)
    : Rounds indent width body (body.take i :: pieces)

theorem exists_rounds_of_go (indent : Nat) (width : Int) (line : Text) {fuel : Nat}
    (hfuel : body.length < fuel)
    : ∃ pieces, Rounds indent width body pieces ∧
        wrapLine.go line indent width body fuel = pieces.map (line.take indent ++ ·) := by
  induction fuel generalizing body with
  | zero => omega
  | succ fuel ih =>
    by_cases hlong : (indent : Int) + charCount body > width
    . cases hcut : breakAt? indent width body with
      | none => exact ⟨[body], .solid hlong hcut, by rw [wrapLine.go, if_pos hlong, hcut]; rfl⟩
      | some i =>
        have hlt := lt_length_of_isBreakable (isBreakable_of_breakAt? hcut)
        obtain ⟨pieces, hrounds, hgo⟩ := @ih (body.drop (i + 1)) (by rw [List.length_drop]; omega)
        refine ⟨body.take i :: pieces, .cut hlong hcut hrounds, ?_⟩
        rw [wrapLine.go, if_pos hlong, hcut]
        exact congrArg (_ :: ·) hgo
    . exact ⟨[body], .fits (by omega), by rw [wrapLine.go, if_neg hlong]; rfl⟩

theorem lt_opening_drop (hlong : width < indent + charCount body)
    (h : breakAt? indent width body = some i) (hreach : Reaches indent width body i)
    : width < indent + charCount (body.take i) + 1 + charCount (opening (body.drop (i + 1))) := by
  have hi := isBreakable_of_breakAt? h
  have hbreaks := breaksAt_breakAt? indent width body
  rw [h] at hbreaks
  cases hbreaks with
  | first _ _ hnot _ => exact absurd hreach hnot
  | last _ _ _ hlast =>
    by_cases hsolid : ∃ k, isBreakable (body.drop (i + 1)) k = true
    . obtain ⟨k, hk⟩ := hsolid
      obtain ⟨k, -, hk, hfirst⟩ := exists_first hk
      have hnot := hlast (i + 1 + k) (by omega) (isBreakable_of_drop hk)
      rw [Reaches, charCount_take_add hi] at hnot
      rw [opening_of_first hk hfirst]
      omega
    . have hcount := charCount_eq_of_isBreakable hi
      rw [opening_of_solid fun k => Bool.eq_false_iff.mpr fun hk => hsolid ⟨k, hk⟩]
      omega

theorem solid_take (h : breakAt? indent width body = some i)
    (hreach : ¬ Reaches indent width body i) (k : Nat)
    : isBreakable (body.take i) k = false := by
  have hbreaks := breaksAt_breakAt? indent width body
  rw [h] at hbreaks
  cases hbreaks with
  | last _ _ hreach' _ => exact absurd hreach' hreach
  | first _ _ _ hfirst => exact isBreakable_take_eq_false hfirst k

namespace Rounds

theorem ne_nil (h : Rounds indent width body pieces) : pieces ≠ [] := by
  cases h
  all_goals exact List.cons_ne_nil _ _

theorem intercalate (h : Rounds indent width body pieces)
    : body = List.intercalate [space] pieces := by
  induction h with
  | fits _ => exact List.intercalate_singleton.symm
  | solid _ _ => exact List.intercalate_singleton.symm
  | cut _ h hrest ih =>
    obtain ⟨p, ps, rfl⟩ := List.exists_cons_of_ne_nil hrest.ne_nil
    rw [List.intercalate_cons_cons, ← ih, List.append_assoc]
    exact (exists_of_isBreakable (isBreakable_of_breakAt? h)).1

theorem narrow (h : Rounds indent width body pieces)
    : ∀ p ∈ pieces, indent + charCount p ≤ width ∨ ∀ k, isBreakable p k = false := by
  induction h with
  | fits h => exact List.forall_mem_singleton.mpr (.inl h)
  | @solid body _ h =>
    have hbreaks := breaksAt_breakAt? indent width body
    rw [h] at hbreaks
    cases hbreaks with
    | solid hsolid => exact List.forall_mem_singleton.mpr (.inr hsolid)
  | @cut body i pieces _ h _ ih =>
    refine List.forall_mem_cons.mpr ⟨?_, ih⟩
    by_cases hreach : Reaches indent width body i
    . exact .inl hreach
    . exact .inr (solid_take h hreach)

theorem opening_head? (h : Rounds indent width body pieces)
    : ∀ p ∈ pieces.head?, opening p = opening body := by
  cases h with
  | fits _ => simp
  | solid _ _ => simp
  | cut _ h _ => simpa using opening_take (isBreakable_of_breakAt? h)

theorem greedy (h : Rounds indent width body pieces)
    : pieces.IsChain fun p q =>
        indent + charCount p ≤ width →
          width < indent + charCount p + 1 + charCount (opening q) := by
  induction h with
  | fits _ => exact .singleton _
  | solid _ _ => exact .singleton _
  | cut hlong h hrest ih =>
    refine List.isChain_cons.mpr ⟨fun q hq hfits => ?_, ih⟩
    rw [hrest.opening_head? q hq]
    exact lt_opening_drop hlong h hfits

end Rounds

/--
A line is wrapped in finitely many rounds, into pieces that make the line again with spaces between
them. Each line that is written is no longer than the width or has no breakable space, and if it
fits, then the next line starts with something that would not fit behind it.
-/
theorem wrapLine_greedy (indent : Nat) (body : Text) (width : Int)
    : ∃ pieces, Rounds indent width body pieces ∧ body = List.intercalate [space] pieces ∧
        wrapLine (spaces indent ++ body) indent width = pieces.map (spaces indent ++ ·) ∧
        (∀ l ∈ wrapLine (spaces indent ++ body) indent width,
          charCount l ≤ width ∨ ∀ k, isBreakable (l.drop indent) k = false) ∧
        (wrapLine (spaces indent ++ body) indent width).IsChain fun l m =>
          charCount l ≤ width → width < charCount (l ++ space :: opening (m.drop indent)) := by
  have hfuel : body.length < (spaces indent ++ body).length + 1 := by
    rw [List.length_append]
    omega
  obtain ⟨pieces, hrounds, hgo⟩ := exists_rounds_of_go indent width (spaces indent ++ body) hfuel
  have htake : (spaces indent ++ body).take indent = spaces indent :=
    List.take_left' List.length_replicate
  have hwrap : wrapLine (spaces indent ++ body) indent width = pieces.map (spaces indent ++ ·) := by
    rw [wrapLine, Text.drop_spaces_append, hgo, htake]
  refine ⟨pieces, hrounds, hrounds.intercalate, hwrap, ?_, ?_⟩
  . rw [hwrap, List.forall_mem_map]
    intro p hp
    rw [Text.charCount_spaces_append, Text.drop_spaces_append]
    exact_mod_cast hrounds.narrow p hp
  . rw [hwrap, List.isChain_map]
    refine hrounds.greedy.imp fun p q h => ?_
    rw [Text.drop_spaces_append, Text.charCount_append_cons (by decide),
      Text.charCount_spaces_append]
    exact_mod_cast h

end Layout
end YamlOrder
