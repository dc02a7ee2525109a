import YamlOrder.Proofs.Printer.Respelled
import YamlOrder.Proofs.Shield.RoundTrip
import YamlOrder.Proofs.Text.Lines
import YamlOrder.Shield.Substitution

/-!
This module contains the restoring of two texts that differ in words: the tokens are found at the
same places in both, if no token runs into a word, and what is restored differs in words again.
-/

namespace YamlOrder
namespace Substitution

open Yaml (Respelled)

variable {R : Text → Text → Prop} {s s' : Substitution} {tokens : List Text} {token w x u v : Text}

/-- No token begins in a text or runs into it, whatever stands around it. -/
structure Untouched (tokens : List Text) (w : Text) : Prop where
  nonempty : w ≠ []
  before : ∀ token ∈ tokens, ∀ x rest, token <+: x ++ (w ++ rest) → token <+: x
  within : ∀ token ∈ tokens, ∀ j < w.length, ∀ rest, ¬ token <+: (w ++ rest).drop j

theorem prefix_append_iff_of_respelled
    (hR : ∀ {w w'}, R w w' → Untouched tokens w ∧ Untouched tokens w') (htoken : token ∈ tokens)
    (h : Respelled R u v) (x : Text)
    : token <+: x ++ u ↔ token <+: x ++ v := by
  induction h generalizing x with
  | nil => rfl
  | @char b u v _ ih => simpa using ih (x ++ [b])
  | @word w w' u v hw _ _ =>
    obtain ⟨hw, hw'⟩ := hR hw
    exact ⟨fun hpre => (hw.before token htoken x u hpre).trans (List.prefix_append _ _),
      fun hpre => (hw'.before token htoken x v hpre).trans (List.prefix_append _ _)⟩

theorem exists_append_of_respelled
    (hR : ∀ {w w'}, R w w' → Untouched tokens w ∧ Untouched tokens w') (htoken : token ∈ tokens)
    (h : Respelled R u v) (hx : x.length ≤ token.length) (hpre : token <+: x ++ u)
    : ∃ u' v', x ++ u = token ++ u' ∧ x ++ v = token ++ v' ∧ Respelled R u' v' := by
  induction h generalizing x with
  | nil =>
    rw [List.append_nil] at hpre
    obtain rfl := hpre.eq_of_length_le hx
    exact ⟨[], [], rfl, rfl, .nil⟩
  | @char b u v h ih =>
    obtain hlt | heq := Nat.lt_or_eq_of_le hx
    . have hcut := ih (x := x ++ [b]) (by simp; omega) (by simpa using hpre)
      simpa using hcut
    . have hstart : token = x :=
        (List.prefix_of_prefix_length_le hpre (List.prefix_append _ _) heq.ge).eq_of_length heq.symm
      exact ⟨b :: u, b :: v, by rw [hstart], by rw [hstart], .char b h⟩
  | @word w w' u v hw h _ =>
    obtain rfl := ((hR hw).1.before token htoken x u hpre).eq_of_length_le hx
    exact ⟨w ++ u, w' ++ v, rfl, rfl, .word hw h⟩

theorem startsLonger_of_respelled (hR : ∀ {w w'}, R w w' → Untouched tokens w ∧ Untouched tokens w')
    (hs : s.store.map (·.token) = tokens) (hs' : s'.store.map (·.token) = tokens)
    (h : Respelled R u v) (token : Text)
    : s'.startsLonger token v = s.startsLonger token u := by
  have hlonger (s : Substitution) (hs : s.store.map (·.token) = tokens) (text : Text)
      : s.startsLonger token text = true ↔ ∃ t ∈ tokens, token.length < t.length ∧ t <+: text := by
    rw [startsLonger_iff, ← hs]
    simp
  rw [Bool.eq_iff_iff, hlonger s' hs', hlonger s hs]
  exact exists_congr fun t => and_congr_right fun ht => and_congr_right fun _ =>
    (prefix_append_iff_of_respelled hR ht h []).symm

theorem findToken?.go_skip (x u : Text)
    : findToken?.go s token (x ++ u) x.length = (findToken?.go s token u 0).map (· + x.length) := by
  induction x with
  | nil => simp
  | cons b x ih =>
    rw [List.cons_append, List.length_cons, findToken?.go, ih, Option.map_map]
    rfl

theorem findToken?.go_untouched (hw : ∀ j < w.length, ¬ token <+: (w ++ u).drop j)
    : findToken?.go s token (w ++ u) 0 = (findToken?.go s token u 0).map (· + w.length) := by
  induction w with
  | nil => simp
  | cons b w ih =>
    have hpre : token.isPrefixOf (b :: (w ++ u)) = false := by
      rw [Bool.eq_false_iff, ne_eq, List.isPrefixOf_iff_prefix]
      exact hw 0 (by simp)
    have hlater : ∀ j < w.length, ¬ token <+: (w ++ u).drop j :=
      fun j hj => hw (j + 1) (by simpa using hj)
    rw [List.cons_append, findToken?.go, hpre, ih hlater, Option.map_map]
    rfl

/-- Two searches that fail both, or end at places that cut the texts in the same way. -/
def Found (R : Text → Text → Prop) (token u v : Text) (i j : Option Nat) : Prop :=
  (i = none ∧ j = none) ∨
    ∃ u₁ u₂ v₁ v₂, u = u₁ ++ (token ++ u₂) ∧ v = v₁ ++ (token ++ v₂) ∧ i = some u₁.length ∧
    j = some v₁.length ∧
      Respelled R u₁ v₁ ∧ Respelled R u₂ v₂

theorem Found.append {i j : Option Nat} {x y : Text} (h : Found R token u v i j)
    (hxy : Respelled R x y)
    : Found R token (x ++ u) (y ++ v) (i.map (· + x.length)) (j.map (· + y.length)) := by
  obtain ⟨rfl, rfl⟩ | ⟨u₁, u₂, v₁, v₂, rfl, rfl, rfl, rfl, h₁, h₂⟩ := h
  . exact .inl ⟨rfl, rfl⟩
  . refine .inr ⟨x ++ u₁, u₂, y ++ v₁, v₂, by simp, by simp, ?_, ?_, hxy.append h₁, h₂⟩
    all_goals simp [Nat.add_comm]

theorem found_go (hR : ∀ {w w'}, R w w' → Untouched tokens w ∧ Untouched tokens w')
    (hs : s.store.map (·.token) = tokens) (hs' : s'.store.map (·.token) = tokens)
    (htoken : token ∈ tokens) (hne : token ≠ []) (h : Respelled R u v)
    : Found R token u v (findToken?.go s token u 0) (findToken?.go s' token v 0) := by
  -- A token that is passed is passed as a whole, so the induction is on the length and not on the
  -- text.
  induction hn : u.length using Nat.strong_induction_on generalizing u v with
  | _ n ih =>
    subst hn
    cases h with
    | nil => exact .inl ⟨by simp [findToken?.go, hne], by simp [findToken?.go, hne]⟩
    | @char b u v h =>
      have hpre := prefix_append_iff_of_respelled hR htoken (h.char b) []
      have hlonger := startsLonger_of_respelled hR hs hs' (h.char b) token
      by_cases hstart : token <+: b :: u
      . obtain ⟨u', v', hu, hv, h'⟩ :=
          exists_append_of_respelled hR htoken (h.char b) (x := []) (Nat.zero_le _) hstart
        rw [List.nil_append] at hu hv
        have hstart' : token <+: b :: v := hpre.mp hstart
        unfold findToken?.go
        rw [hlonger, if_pos (List.isPrefixOf_iff_prefix.mpr hstart),
          if_pos (List.isPrefixOf_iff_prefix.mpr hstart')]
        split
        . obtain ⟨c, y, rfl⟩ := List.exists_cons_of_ne_nil hne
          simp only [List.cons_append, List.cons.injEq] at hu hv
          obtain ⟨rfl, rfl⟩ := hu
          obtain ⟨-, rfl⟩ := hv
          have hlater :=
            (ih u'.length (by simp only [List.length_append, List.length_cons]; omega) h'
            rfl).append (.refl (b :: y))
          simp only [List.length_cons, Nat.add_sub_cancel, findToken?.go_skip, Option.map_map]
          exact hlater
        . exact .inr ⟨[], u', [], v', hu, hv, rfl, rfl, .nil, h'⟩
      . have hstart' : ¬ token <+: b :: v := fun hstart' => hstart (hpre.mpr hstart')
        have hlater := (ih u.length (by simp) h rfl).append (.refl [b])
        unfold findToken?.go
        rw [if_neg (by rwa [List.isPrefixOf_iff_prefix]),
          if_neg (by rwa [List.isPrefixOf_iff_prefix])]
        exact hlater
    | @word w w' u v hw h =>
      obtain ⟨huntouched, huntouched'⟩ := hR hw
      have hpos := List.length_pos_iff.mpr huntouched.nonempty
      rw [findToken?.go_untouched fun j hj => huntouched.within token htoken j hj u,
        findToken?.go_untouched fun j hj => huntouched'.within token htoken j hj v]
      have hword : Respelled R (w ++ []) (w' ++ []) := .word hw .nil
      rw [List.append_nil, List.append_nil] at hword
      exact (ih u.length (by simp; omega) h rfl).append hword

/-- Substitutes of the same token, for texts that differ in words. -/
def AlikeSubstitutes (R : Text → Text → Prop) (sub sub' : Substitute) : Prop :=
  sub'.token = sub.token ∧ sub.token ≠ [] ∧ Respelled R sub.value sub'.value

theorem respelled_restoreOne (hR : ∀ {w w'}, R w w' → Untouched tokens w ∧ Untouched tokens w')
    (hs : s.store.map (·.token) = tokens) (hs' : s'.store.map (·.token) = tokens)
    {sub sub' : Substitute} (hsub : AlikeSubstitutes R sub sub') (htoken : sub.token ∈ tokens)
    (h : Respelled R u v)
    : Respelled R (s.restoreOne u sub) (s'.restoreOne v sub') := by
  obtain ⟨hsame, hne, hvalue⟩ := hsub
  have hfound := found_go hR hs hs' htoken hne h
  unfold restoreOne findToken?
  rw [hsame]
  obtain ⟨hi, hj⟩ | ⟨u₁, u₂, v₁, v₂, rfl, rfl, hi, hj, h₁, h₂⟩ := hfound
  . rw [hi, hj]
    exact h
  . rw [hi, hj]
    have hdrop (x y : Text) : (x ++ (sub.token ++ y)).drop (x.length + sub.token.length) = y := by
      rw [← List.append_assoc, ← List.length_append, List.drop_left]
    dsimp only
    rw [List.take_left, List.take_left, hdrop, hdrop]
    exact (h₁.append hvalue).append h₂

/-- Texts that differ in words are restored to texts that differ in words. -/
theorem respelled_restore (hR : ∀ {w w'}, R w w' →
      Untouched (s.store.map (·.token)) w ∧ Untouched (s.store.map (·.token)) w')
    (hstores : List.Forall₂ (AlikeSubstitutes R) s.store s'.store) (h : Respelled R u v)
    : Respelled R (s.restore u) (s'.restore v) := by
  have hs' : s'.store.map (·.token) = s.store.map (·.token) := by
    generalize s.store = store at hstores
    generalize s'.store = store' at hstores
    induction hstores with
    | nil => rfl
    | cons hsub _ ih => rw [List.map_cons, List.map_cons, hsub.1, ih]
  have hmem : ∀ sub ∈ s.store, sub.token ∈ s.store.map (·.token) :=
    fun sub hsub => List.mem_map_of_mem hsub
  unfold restore
  generalize htokens : s.store.map (·.token) = tokens at hR hs' hmem
  generalize hstore : s.store = store at hstores hmem
  generalize hstore' : s'.store = store' at hstores
  clear hstore hstore'
  induction hstores generalizing u v with
  | nil => exact h
  | @cons sub sub' store store' hsub _ ih =>
    simp only [List.mem_cons, forall_eq_or_imp] at hmem
    exact ih (respelled_restoreOne hR htokens hs' hsub hmem.1 h) hmem.2

end Substitution

namespace Shield

open Yaml (Respelled)
open Substitution (AlikeSubstitutes Untouched)

variable {R : Text → Text → Prop} {s s' : Shield} {u v : Text}

theorem respelled_restore
    (hR : ∀ sub ∈ s.substitutions, ∀ {w w'}, R w w' →
      Untouched (sub.store.map (·.token)) w ∧ Untouched (sub.store.map (·.token)) w')
    (hstores : List.Forall₂ (fun sub sub' => List.Forall₂ (AlikeSubstitutes R) sub.store sub'.store)
      s.substitutions
      s'.substitutions)
    (h : Respelled R u v)
    : Respelled R (s.restore u) (s'.restore v) := by
  unfold restore
  generalize s.substitutions = subs at hR hstores
  generalize s'.substitutions = subs' at hstores
  induction hstores with
  | nil => exact h
  | @cons sub sub' subs subs' hsub _ ih =>
    simp only [List.mem_cons, forall_eq_or_imp] at hR
    exact Substitution.respelled_restore hR.1 hsub (ih hR.2)

end Shield
end YamlOrder
