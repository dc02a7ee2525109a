import YamlOrder.Proofs.Shield.Restore
import YamlOrder.Proofs.Shield.Turn
import YamlOrder.Proofs.Text.Lines

/-!
This module contains the number of tokens in a text while digits are hidden and put back: one more
with each number that is hidden, one less with each that is put back, so in the end those that could
not be found are left.
-/

namespace YamlOrder
namespace Text

variable {a u v m : Text}

theorem occurrences_append_of_disjoint (ha : a ≠ []) (hm : m ≠ []) (hdisjoint : ∀ b ∈ m, b ∉ a)
    : occurrences a (u ++ (m ++ v)) = occurrences a u + occurrences a v := by
  induction m generalizing u with
  | nil => exact absurd rfl hm
  | cons b m ih =>
    simp only [List.mem_cons, forall_eq_or_imp] at hdisjoint
    rw [List.cons_append, occurrences_append_cons hdisjoint.1 ha]
    cases m with
    | nil => rfl
    | cons c m =>
      have hrest := ih (u := []) (by simp) hdisjoint.2
      rw [List.nil_append, occurrences_nil ha, Nat.zero_add] at hrest
      rw [hrest]

theorem Apart.occurrences_drop (ha : Apart a a) {k : Nat} (hpos : 0 < k)
    (hk : k ≤ a.length) (v : Text)
    : occurrences a (a.drop k ++ v) = occurrences a v := by
  induction hn : a.length - k generalizing k with
  | zero => rw [List.drop_eq_nil_of_le (by omega), List.nil_append]
  | succ n ih =>
    have hstart : ¬ a <+: a.drop k ++ v := by
      intro h
      apply ha.2 k (by omega) hpos
      exact List.prefix_of_prefix_length_le (List.prefix_append _ v) h (by simp)
    rw [List.drop_eq_getElem_cons (by omega), List.cons_append] at hstart ⊢
    rw [occurrences_cons, if_neg hstart, ih (Nat.succ_pos k) (by omega) (by omega), Nat.zero_add]

theorem Apart.occurrences_append (ha : Apart a a) (hne : a ≠ [])
    : occurrences a (u ++ (a ++ v)) = occurrences a u + 1 + occurrences a v := by
  induction u with
  | nil =>
    obtain ⟨b, w, rfl⟩ := List.exists_cons_of_ne_nil hne
    have hdrop := ha.occurrences_drop Nat.one_pos (by simp) v
    have hstart : b :: w <+: b :: (w ++ v) := List.prefix_append (b :: w) v
    rw [List.drop_succ_cons, List.drop_zero] at hdrop
    rw [List.nil_append, List.cons_append, occurrences_cons, if_pos hstart,
      occurrences_nil hne, hdrop]
  | cons b u ih =>
    have hstart : a <+: b :: (u ++ (a ++ v)) ↔ a <+: b :: u := by
      constructor
      . exact ha.prefix_append (u := b :: u) (by simp) (.inr (List.prefix_append _ _))
      . exact fun h => h.trans (List.prefix_append _ _)
    rw [List.cons_append, occurrences_cons, ih, occurrences_cons, if_congr hstart rfl rfl]
    omega

end Text

namespace Substitution

open Text (occurrences isDigit)

variable {s s' : Substitution} {kind text text' u v m : Text} {ms : List Text}

/-- Digits, at least one. -/
def Numeral (m : Text) : Prop := m ≠ [] ∧ ∀ b ∈ m, isDigit b = true

instance (m : Text) : Decidable (Numeral m) :=
  inferInstanceAs (Decidable (_ ∧ _))

theorem numeral_ofNat (n : Nat) : Numeral (Text.ofNat n) :=
  ⟨Text.ofNat_ne_nil n, fun _ => Text.isDigit_of_mem_ofNat⟩

/-- The start of a token is told apart from itself and from digits. -/
structure Telling (kind : Text) : Prop where
  apart : Text.Apart (tokenStart kind) (tokenStart kind)
  digitless : ∀ b ∈ tokenStart kind, isDigit b = false

theorem tokenStart_ne_nil (kind : Text) : tokenStart kind ≠ [] := by
  intro h
  have := @two_le_length_tokenStart kind
  simp [h] at this

theorem Telling.occurrences_numeral (hkind : Telling kind) (hm : Numeral m)
    : occurrences (tokenStart kind) (u ++ (m ++ v)) =
        occurrences (tokenStart kind) u + occurrences (tokenStart kind) v := by
  apply Text.occurrences_append_of_disjoint (tokenStart_ne_nil kind) hm.1
  intro b hb hstart
  exact absurd (hm.2 b hb) (by simp [hkind.digitless b hstart])

theorem Telling.occurrences_token (hkind : Telling kind) (n : Nat)
    : occurrences (tokenStart kind) (u ++ (token kind n ++ v)) =
        occurrences (tokenStart kind) u + 1 + occurrences (tokenStart kind) v := by
  have hdigits := hkind.occurrences_numeral (u := []) (v := v) (numeral_ofNat n)
  rw [List.nil_append, Text.occurrences_nil (tokenStart_ne_nil kind), Nat.zero_add] at hdigits
  rw [token, List.append_assoc, hkind.apart.occurrences_append (tokenStart_ne_nil kind), hdigits]

theorem Hiding.occurrences (h : Hiding s text ms s' text') (hkind : Telling s.kind)
    (hms : ∀ m ∈ ms, Numeral m)
    : occurrences (tokenStart s.kind) text' + s.store.length =
        occurrences (tokenStart s.kind) text + s'.store.length := by
  induction h with
  | done => rfl
  | hide _ _ _ ih =>
    simp only [List.mem_cons, forall_eq_or_imp] at hms
    have ih := ih hkind hms.2
    rw [kind_issue, hkind.occurrences_token, store_issue, List.length_append,
      List.length_singleton] at ih
    rw [hkind.occurrences_numeral hms.1]
    omega

theorem findToken?.go_prefix {token text : Text} {skip i : Nat}
    (h : findToken?.go s token text skip = some i)
    : token <+: text.drop i := by
  induction text generalizing skip i with
  | nil =>
    unfold findToken?.go at h
    simp only [List.isEmpty_iff, Option.ite_none_right_eq_some] at h
    simp [h.1]
  | cons b t ih =>
    have hlater {skip : Nat} (h : (findToken?.go s token t skip).map (· + 1) = some i)
        : token <+: (b :: t).drop i := by
      obtain ⟨j, hj, rfl⟩ := Option.map_eq_some_iff.mp h
      exact ih hj
    cases skip with
    | succ skip => exact hlater h
    | zero =>
      unfold findToken?.go at h
      split at h
      . next hpre =>
        split at h
        . exact hlater h
        . obtain rfl := Option.some.inj h
          exact List.isPrefixOf_iff_prefix.mp hpre
      . exact hlater h

theorem occurrences_restoreOne {sub : Substitute} (hkind : Telling s.kind)
    (hvalue : Numeral sub.value) (htoken : ∃ n, sub.token = token s.kind n) (text : Text)
    : occurrences (tokenStart s.kind) (s.restoreOne text sub) +
        (if (s.findToken? sub.token text).isSome then 1 else 0) = occurrences
        (tokenStart s.kind) text := by
  unfold restoreOne
  cases hfind : s.findToken? sub.token text with
  | none => rfl
  | some i =>
    obtain ⟨n, htoken⟩ := htoken
    obtain ⟨v, hv⟩ := findToken?.go_prefix hfind
    have htext : text = text.take i ++ (token s.kind n ++ v) := by
      rw [← htoken, hv, List.take_append_drop]
    have hrest : text.drop (i + sub.token.length) = v := by
      rw [← List.drop_drop, ← hv, List.drop_left]
    have hcount := hkind.occurrences_token (u := text.take i) (v := v) n
    rw [← htext] at hcount
    simp only [Option.isSome_some, ↓reduceIte]
    rw [hrest, List.append_assoc, hkind.occurrences_numeral hvalue, hcount]
    omega

theorem occurrences_foldl_restoreOne (hkind : Telling s.kind) (store : List Substitute)
    (hvalues : ∀ sub ∈ store, Numeral sub.value)
    (htokens : ∀ sub ∈ store, ∃ n, sub.token = token s.kind n) (text : Text)
    : occurrences (tokenStart s.kind) (store.foldl s.restoreOne text) + store.length =
        occurrences (tokenStart s.kind) text + (lost.go s store text).length := by
  induction store generalizing text with
  | nil => rfl
  | cons sub store ih =>
    simp only [List.mem_cons, forall_eq_or_imp] at hvalues htokens
    have hone := occurrences_restoreOne hkind hvalues.1 htokens.1 text
    have hrest := ih hvalues.2 htokens.2 (s.restoreOne text sub)
    rw [List.foldl_cons, lost.go, List.length_cons]
    split at hone
    . next hfound =>
      rw [if_pos hfound]
      omega
    . next hfound =>
      rw [if_neg hfound, List.length_cons]
      omega

/-- What is left of a text of hidden numbers are the tokens that were lost. -/
theorem occurrences_restore_shield (s : Substitution) (hp : s.pattern.Bounded)
    (hkind : Telling s.kind) (hstore : s.store = []) (hms : ∀ m ∈ s.pattern.findAll text, Numeral m)
    (hfree : ¬ tokenStart s.kind <:+: text)
    : occurrences (tokenStart s.kind) ((s.shield text).1.restore (s.shield text).2) =
        ((s.shield text).1.lost (s.shield text).2).length := by
  have hrun := hiding_shield s hp text
  obtain ⟨added, hadded, hvalues, htokens⟩ := hrun.exists_store
  rw [hstore, List.nil_append] at hadded
  have hhidden := hrun.occurrences hkind hms
  rw [Text.occurrences_eq_zero hfree, hstore] at hhidden
  have hkind' : Telling (s.shield text).1.kind := hrun.kind_eq ▸ hkind
  have hrestored := occurrences_foldl_restoreOne hkind' (s.shield text).1.store ?_ ?_
    (s.shield text).2
  . rw [hrun.kind_eq] at hrestored
    simp only [List.length_nil] at hhidden
    unfold restore lost
    omega
  . intro sub hsub
    apply hms
    rw [← hvalues, ← hadded]
    exact List.mem_map_of_mem hsub
  . intro sub hsub
    obtain ⟨n, -, htoken⟩ := htokens sub (hadded ▸ hsub)
    exact ⟨n, hrun.kind_eq ▸ htoken⟩

end Substitution
end YamlOrder
