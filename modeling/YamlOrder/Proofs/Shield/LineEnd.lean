import YamlOrder.Proofs.Shield.Counter
import YamlOrder.Proofs.Shield.Lost
import YamlOrder.Shield.Substitution

/-!
This module contains that restoring a text leaves the newlines at its end alone, since no token
reaches beyond a line.
-/

namespace YamlOrder
namespace Substitution

open Text (newline)

variable {s : Substitution} {token text : Text} {sub : Substitute}

/-- The tokens of a store are not empty and stand in one line each. -/
def OneLine (s : Substitution) : Prop := ∀ t ∈ s.store, t.token ≠ [] ∧ newline ∉ t.token

theorem prefix_append_newline_iff (h : newline ∉ token)
    : token <+: text ++ [newline] ↔ token <+: text :=
  ⟨Text.prefix_of_prefix_append_cons h, fun hpre => hpre.trans (List.prefix_append _ _)⟩

theorem OneLine.startsLonger_append_newline (h : s.OneLine) (token text : Text)
    : s.startsLonger token (text ++ [newline]) = s.startsLonger token text := by
  rw [Bool.eq_iff_iff, startsLonger_iff, startsLonger_iff]
  exact exists_congr fun t => and_congr_right fun ht =>
    and_congr_right fun _ => prefix_append_newline_iff (h t ht).2

theorem OneLine.findToken?_go_append_newline (h : s.OneLine) (hne : token ≠ [])
    (hline : newline ∉ token) (text : Text) (skip : Nat)
    : findToken?.go s token (text ++ [newline]) skip = findToken?.go s token text skip := by
  induction text generalizing skip with
  | nil =>
    have hnil : findToken?.go s token [] 0 = none := by simp [findToken?.go, hne]
    have hpre : token.isPrefixOf [newline] = false := by
      rw [Bool.eq_false_iff, ne_eq, List.isPrefixOf_iff_prefix, ← List.nil_append [newline],
        prefix_append_newline_iff hline, List.prefix_nil]
      exact hne
    cases skip
    all_goals simp [findToken?.go, hne, hpre]
  | cons b text ih =>
    have hpre : token.isPrefixOf (b :: text ++ [newline]) = token.isPrefixOf (b :: text) := by
      rw [Bool.eq_iff_iff, List.isPrefixOf_iff_prefix, List.isPrefixOf_iff_prefix,
        prefix_append_newline_iff hline]
    have hlonger := h.startsLonger_append_newline token (b :: text)
    rw [List.cons_append] at hpre hlonger ⊢
    cases skip with
    | succ skip => rw [findToken?.go, findToken?.go, ih]
    | zero => rw [findToken?.go, findToken?.go, hpre, hlonger, ih, ih]

theorem OneLine.restoreOne_append_newline (h : s.OneLine) (hne : sub.token ≠ [])
    (hline : newline ∉ sub.token) (text : Text)
    : s.restoreOne (text ++ [newline]) sub = s.restoreOne text sub ++ [newline] := by
  have hfind : s.findToken? sub.token (text ++ [newline]) = s.findToken? sub.token text :=
    h.findToken?_go_append_newline hne hline text 0
  unfold restoreOne
  rw [hfind]
  cases hi : s.findToken? sub.token text with
  | none => rfl
  | some i =>
    have hlength := (findToken?.go_prefix hi).length_le
    rw [List.length_drop] at hlength
    have hpos := List.length_pos_iff.mpr hne
    dsimp only
    rw [List.take_append_of_le_length (by omega), List.drop_append_of_le_length (by omega),
      List.append_assoc _ _ [newline]]

theorem OneLine.restore_append_newline (h : s.OneLine) (text : Text)
    : s.restore (text ++ [newline]) = s.restore text ++ [newline] := by
  unfold restore
  have hstore : ∀ t ∈ s.store, t.token ≠ [] ∧ newline ∉ t.token := h
  generalize s.store = store at hstore
  induction store generalizing text with
  | nil => rfl
  | cons sub store ih =>
    simp only [List.mem_cons, forall_eq_or_imp] at hstore
    rw [List.foldl_cons, List.foldl_cons, h.restoreOne_append_newline hstore.1.1 hstore.1.2,
      ih _ hstore.2]

theorem newline_not_mem_token {kind : Text} (hkind : newline ∉ kind) (n : Nat)
    : newline ∉ Substitution.token kind n := by
  rw [Substitution.token, tokenStart, List.mem_append]
  rintro (hmem | hmem)
  . simp only [List.mem_append, List.mem_singleton] at hmem
    obtain ((hmem | hmem) | hmem) | hmem := hmem
    . exact absurd hmem (by decide)
    . exact absurd hmem (by decide)
    . exact hkind hmem
    . exact absurd hmem (by decide)
  . exact absurd (Text.isDigit_of_mem_ofNat hmem) (by decide)

theorem kind_shield (s : Substitution) (text : Text) : (s.shield text).1.kind = s.kind := by
  have hfold (founds : List Text) (s : Substitution) (text : Text)
      : (founds.foldl (fun hidden found => hidden.1.hide hidden.2 found) (s, text)).1.kind =
        s.kind := by
    induction founds generalizing s text with
    | nil => rfl
    | cons found founds ih =>
      rw [List.foldl_cons]
      exact ih _ _
  exact hfold _ _ _

theorem exists_of_mem_shield (hstore : s.store = []) (text : Text)
    : ∀ t ∈ (s.shield text).1.store, ∃ n, t.token = Substitution.token s.kind n := by
  have hcounted : s.Counted [] := ⟨by rw [hstore]; rfl, .nil, by simp⟩
  obtain ⟨ns, hns⟩ := hcounted.call (.shield text)
  intro t ht
  obtain ⟨n, hn⟩ := hns.numbered.numbered t ht
  rw [call, kind_shield] at hn
  exact ⟨n, hn⟩

theorem oneLine_shield (hkind : newline ∉ s.kind) (hstore : s.store = []) (text : Text)
    : (s.shield text).1.OneLine := by
  intro t ht
  obtain ⟨n, hn⟩ := exists_of_mem_shield hstore text t ht
  rw [hn]
  exact ⟨by simp [Substitution.token, tokenStart, namespaceWord], newline_not_mem_token hkind n⟩

end Substitution

namespace Shield

open Substitution (OneLine)
open Text (newline dropNewlines)

variable {subs : List Substitution} {s : Shield} {u v : Text}

theorem exists_of_mem_go {text : Text} {s' : Substitution} (h : s' ∈ (shield.go subs text).1)
    : ∃ s ∈ subs, ∃ text', s' = (s.shield text').1 := by
  induction subs generalizing text with
  | nil => simp [shield.go] at h
  | cons s subs ih =>
    simp only [shield.go, List.mem_cons] at h
    obtain rfl | h := h
    . exact ⟨s, List.mem_cons_self, text, rfl⟩
    . obtain ⟨s₀, hs₀, text', heq⟩ := ih h
      exact ⟨s₀, List.mem_cons_of_mem _ hs₀, text', heq⟩

theorem oneLine_shield_ofFlags (helm array octal : Bool) (text : Text)
    : ∀ s ∈ ((ofFlags helm array octal).shield text).1.substitutions, s.OneLine := by
  intro s' hs'
  obtain ⟨s, hs, text', rfl⟩ := exists_of_mem_go hs'
  simp only [ofFlags, List.mem_append, List.mem_ite_nil_right, List.mem_singleton] at hs
  obtain (⟨-, rfl⟩ | ⟨-, rfl⟩) | ⟨-, rfl⟩ := hs
  all_goals exact Substitution.oneLine_shield (by decide) rfl text'

theorem restore_append_newline (h : ∀ sub ∈ s.substitutions, sub.OneLine) (text : Text)
    : s.restore (text ++ [newline]) = s.restore text ++ [newline] := by
  unfold restore
  generalize s.substitutions = subs at h
  induction subs with
  | nil => rfl
  | cons s subs ih =>
    simp only [List.mem_cons, forall_eq_or_imp] at h
    rw [List.foldr_cons, List.foldr_cons, ih h.2, h.1.restore_append_newline]

/-- What differs in the newlines at its end does so too after it has been restored. -/
theorem dropNewlines_restore_congr (h : ∀ sub ∈ s.substitutions, sub.OneLine)
    (huv : dropNewlines u = dropNewlines v)
    : dropNewlines (s.restore u) = dropNewlines (s.restore v) := by
  have hdrop (text : Text) : dropNewlines (s.restore text) =
    dropNewlines (s.restore (dropNewlines text)) := by
    obtain ⟨n, hn⟩ := Text.exists_eq_dropNewlines_append text
    have hreplicate (n : Nat) : s.restore (dropNewlines text ++ List.replicate n newline) =
        s.restore (dropNewlines text) ++ List.replicate n newline := by
      induction n with
      | zero => simp
      | succ n ih =>
        rw [List.replicate_succ', ← List.append_assoc, restore_append_newline h, ih,
          List.append_assoc]
    rw [congrArg s.restore hn, hreplicate, Text.dropNewlines_append_replicate]
  rw [hdrop u, huv, ← hdrop v]

end Shield
end YamlOrder
