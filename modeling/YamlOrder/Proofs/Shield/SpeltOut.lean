import YamlOrder.Proofs.Shield.LineEnd
import YamlOrder.Proofs.Shield.Reworded
import YamlOrder.Proofs.Shield.Template

/-!
This module contains texts that differ in that one of them holds tokens where the other one holds
what they stand for: restoring makes the second text of the first one, and tokens of other kinds
stand at the same places in both.
-/

namespace YamlOrder
namespace Substitution

open Piece (shownText meantText subs run)
open Yaml (Respelled)

variable {s : Substitution} {kind other text u v w : Text} {n : Nat} {ps : List Piece}

/-- A token and what stands for it in a text that is spelled out. -/
def StandsFor (s : Substitution) (w w' : Text) : Prop :=
    ∃ sub ∈ s.store, w = sub.token ∧ w' = sub.value

/-- The tokens that stand in a text, each with all the digits that follow it. -/
def tokensIn (kind : Text) : Text → List Text
  | [] => []
  | b :: t =>
    if (tokenStart kind).isPrefixOf (b :: t) then
      (tokenStart kind ++ ((b :: t).drop (tokenStart kind).length).takeWhile Text.isDigit) ::
        tokensIn kind t
    else
      tokensIn kind t

/-- No digit stands behind what is hidden. -/
def Undigited (s : Substitution) (text : Text) : Prop :=
  ∀ sub ∈ s.store, ∀ digit ∈ ("0123456789" : Text), ¬ sub.value ++ [digit] <:+: text

instance (s : Substitution) (text : Text) : Decidable (s.Undigited text) :=
  inferInstanceAs (Decidable (∀ _ ∈ _, _))

theorem mem_digits {b : UInt8} (h : Text.isDigit b = true) : b ∈ ("0123456789" : Text) := by
  obtain ⟨hlow, hhigh⟩ := Text.isDigit_iff.mp h
  have heq : ("0123456789" : Text) = (List.range' 48 10).map UInt8.ofNat := by decide
  rw [heq]
  refine List.mem_map.mpr ⟨b.toNat, ?_, UInt8.ofNat_toNat⟩
  rw [List.mem_range'_1]
  omega

theorem tokensIn_sublist_append (u v : Text)
    : (tokensIn kind v).Sublist (tokensIn kind (u ++ v)) := by
  induction u with
  | nil => exact List.Sublist.refl _
  | cons b u ih =>
    rw [List.cons_append, tokensIn]
    split
    . exact ih.cons _
    . exact ih

theorem exists_tokensIn_token (hdigit : ∀ b ∈ v.head?, Text.isDigit b = false)
    : ∃ more, tokensIn kind (token kind n ++ v) = token kind n :: more ∧
      (tokensIn kind v).Sublist more := by
  have hdigits : (Text.ofNat n ++ v).takeWhile Text.isDigit = Text.ofNat n := by
    rw [List.takeWhile_append_of_pos fun b hb => Text.isDigit_of_mem_ofNat hb]
    cases v with
    | nil => simp
    | cons b v => simp [hdigit b rfl]
  obtain ⟨b, t, hcons⟩ := List.exists_cons_of_ne_nil (l := token kind n)
    (by simp [token, tokenStart, namespaceWord])
  refine ⟨tokensIn kind (t ++ v), ?_, tokensIn_sublist_append t v⟩
  have hpre : (tokenStart kind).isPrefixOf (b :: (t ++ v)) = true := by
    rw [List.isPrefixOf_iff_prefix, ← List.cons_append, ← hcons]
    exact (tokenStart_prefix_token n).trans (List.prefix_append _ _)
  rw [hcons, List.cons_append, tokensIn, if_pos hpre, ← List.cons_append, ← hcons, token,
    List.append_assoc,
    List.drop_left, hdigits]

theorem Undigited.append (h : s.Undigited (u ++ v)) : s.Undigited v :=
    fun sub hsub digit hdigit hin =>
  h sub hsub digit hdigit (hin.trans (List.suffix_append u v).isInfix)

theorem exists_pieces_of_respelled (h : Respelled s.StandsFor u v)
    : ∃ ps, u = shownText ps ∧ v = meantText ps ∧ ∀ sub ∈ subs ps, sub ∈ s.store := by
  induction h with
  | nil => exact ⟨[], rfl, rfl, by simp [subs]⟩
  | char b _ ih =>
    obtain ⟨ps, rfl, rfl, hstored⟩ := ih
    exact ⟨.plain [b] :: ps, rfl, rfl, hstored⟩
  | word hw _ ih =>
    obtain ⟨ps, rfl, rfl, hstored⟩ := ih
    obtain ⟨sub, hsub, rfl, rfl⟩ := hw
    refine ⟨.hidden sub :: ps, rfl, rfl, ?_⟩
    simp only [subs, List.mem_cons, forall_eq_or_imp]
    exact ⟨hsub, hstored⟩

theorem head?_shownText (hs : s.Numbered) (hstored : ∀ sub ∈ subs ps, sub ∈ s.store)
    : (shownText ps).head? = some 121 ∨ (shownText ps).head? = (meantText ps).head? := by
  induction ps with
  | nil => exact .inr rfl
  | cons p ps ih =>
    cases p with
    | plain text =>
      cases text with
      | nil => exact ih hstored
      | cons b text => exact .inr rfl
    | hidden sub =>
      simp only [subs, List.mem_cons, forall_eq_or_imp] at hstored
      obtain ⟨n, hn⟩ := hs.numbered sub hstored.1
      left
      rw [Piece.shownText_cons, Piece.shown, hn]
      rfl

theorem Undigited.head? {sub : Substitute} (h : s.Undigited (meantText (.hidden sub :: ps)))
    (hs : s.Numbered) (hstored : ∀ t ∈ subs (.hidden sub :: ps), t ∈ s.store)
    : ∀ b ∈ (shownText ps).head?, Text.isDigit b = false := by
  simp only [subs, List.mem_cons, forall_eq_or_imp] at hstored
  intro b hb
  rw [Bool.eq_false_iff]
  intro hdigit
  obtain hhead | hhead := head?_shownText hs hstored.2
  . rw [hhead, Option.mem_some_iff] at hb
    subst hb
    revert hdigit
    decide
  . rw [hhead] at hb
    obtain ⟨t, ht⟩ : ∃ t, meantText ps = b :: t := by
      cases hm : meantText ps with
      | nil => simp [hm] at hb
      | cons c t => exact ⟨t, by simpa [hm] using hb⟩
    refine h sub hstored.1 b (mem_digits hdigit) ⟨[], t, ?_⟩
    rw [Piece.meantText_cons, ht, Piece.meant]
    simp

theorem clear_of_undigited (hs : s.Numbered) (hstored : ∀ sub ∈ subs ps, sub ∈ s.store)
    (hfree : ¬ tokenStart s.kind <:+: meantText ps) (hdigit : s.Undigited (meantText ps))
    : Piece.Clear s.kind s.store ps ∧
      ((subs ps).map (·.token)).Sublist (tokensIn s.kind (shownText ps)) := by
  induction ps with
  | nil => exact ⟨trivial, List.nil_sublist _⟩
  | cons p ps ih =>
    have hrestFree : ¬ tokenStart s.kind <:+: meantText ps := fun hin =>
      hfree (hin.trans (List.suffix_append _ _).isInfix)
    have hrestStored : ∀ sub ∈ subs ps, sub ∈ s.store :=
      fun sub hsub => hstored sub (Piece.mem_subs_cons p hsub)
    obtain ⟨hclear, hsublist⟩ := ih hrestStored hrestFree hdigit.append
    cases p with
    | plain text => exact ⟨hclear, hsublist.trans (tokensIn_sublist_append _ _)⟩
    | hidden sub =>
      have hhead := hdigit.head? hs hstored
      obtain ⟨n, hn⟩ := hs.numbered sub (hstored sub (by simp [subs]))
      obtain ⟨more, htokens, hmore⟩ :
          ∃ more, tokensIn s.kind (token s.kind n ++ shownText ps) = token s.kind n :: more ∧
            (tokensIn s.kind (shownText ps)).Sublist more := exists_tokensIn_token hhead
      refine ⟨⟨⟨n, hn⟩, ?_, not_infix_run hrestFree, hclear⟩, ?_⟩
      . -- A longer token would go on with a digit.
        intro t ht hlen hpre
        obtain ⟨m, hm⟩ := hs.numbered t ht
        have hget : (sub.token ++ shownText ps)[sub.token.length]? =
          t.token[sub.token.length]? := by
          obtain ⟨rest, hrest⟩ := hpre
          rw [← hrest, List.getElem?_append_left hlen]
        rw [List.getElem?_append_right (Nat.le_refl _), Nat.sub_self, ← List.head?_eq_getElem?,
          List.getElem?_eq_getElem hlen] at hget
        have hnot := hhead _ hget
        have hstart : (tokenStart s.kind).length ≤ sub.token.length := by
          rw [hn]
          exact (tokenStart_prefix_token n).length_le
        rw [isDigit_of_getElem?_token (n := m) hstart
          (by rw [← hm, List.getElem?_eq_getElem hlen])] at hnot
        exact Bool.noConfusion hnot
      . rw [Piece.shownText_cons, Piece.shown, hn, htokens, subs, List.map_cons, hn]
        exact (hsublist.trans hmore).cons_cons _

theorem restore_of_respelled (hkind : Text.Apart (tokenStart s.kind) (tokenStart s.kind))
    (hs : s.Issued) (h : Respelled s.StandsFor u v) (honce : (tokensIn s.kind u).Nodup)
    (hfree : ¬ tokenStart s.kind <:+: v) (hdigit : s.Undigited v)
    : s.restore u = v := by
  obtain ⟨ps, rfl, rfl, hstored⟩ := exists_pieces_of_respelled h
  obtain ⟨hclear, hsublist⟩ := clear_of_undigited hs.toNumbered hstored hfree hdigit
  exact restore_shownText hkind hs {
    clear := hclear
    run := not_infix_run hfree
    nodup := (honce.sublist hsublist).of_map
    stored := hstored
  }

theorem untouched_token {tokens : List Text} (hother : Foreign (tokenStart other) kind)
    (htokens : ∀ t ∈ tokens, ∃ m, t = token other m) (n : Nat)
    : Untouched tokens (token kind n) where
  nonempty := by simp [token, tokenStart, namespaceWord]
  before := by
    intro t ht x rest hpre
    obtain ⟨m, rfl⟩ := htokens t ht
    by_cases hlen : (token other m).length ≤ x.length
    . exact List.prefix_of_prefix_length_le hpre (List.prefix_append _ _) hlen
    . exfalso
      have hstart := (tokenStart_prefix_token m).trans hpre
      by_cases hx : (tokenStart other).length ≤ x.length
      . refine not_prefix_of_head?_eq hx (by omega) ?_ hpre
        rw [token, List.append_assoc, List.head?_append, head?_tokenStart, Option.some_or]
      . by_cases hnil : x = []
        . subst hnil
          have hlength : 0 < (token kind n).length := by
            have := two_le_length_token kind n
            omega
          exact hother.not_prefix_drop_token hlength hstart
        . have hword : token kind n ++ rest = [] ∨ tokenStart kind <+: token kind n ++ rest :=
            .inr ((tokenStart_prefix_token n).trans (List.prefix_append _ _))
          exact hx (hother.2.1.prefix_append hnil hword hstart).length_le
  within := by
    intro t ht j hj rest hpre
    obtain ⟨m, rfl⟩ := htokens t ht
    exact hother.not_prefix_drop_token hj ((tokenStart_prefix_token m).trans hpre)

theorem untouched_of_fenced {tokens : List Text} (hw : Fenced other w)
    (htokens : ∀ t ∈ tokens, ∃ m, t = token other m) (hfree : ¬ tokenStart other <:+: w)
    : Untouched tokens w := by
  obtain ⟨w', c, rfl, hc⟩ := hw.last
  refine ⟨by simp, ?_, ?_⟩
  . intro t ht x rest hpre
    obtain ⟨m, rfl⟩ := htokens t ht
    exact hw.prefix_append (fun b hb => isTokenByte_of_mem_token hb) hpre
  . intro t ht j hj rest hpre
    obtain ⟨m, rfl⟩ := htokens t ht
    rw [List.length_append, List.length_singleton] at hj
    rw [List.append_assoc, List.drop_append_of_le_length (by omega)] at hpre
    have hin : token other m <+: w'.drop j :=
      Text.prefix_of_prefix_append_cons (fun hmem => hc (isTokenByte_of_mem_token hmem)) hpre
    apply hfree
    exact ((tokenStart_prefix_token m).trans hin).isInfix.trans
      ((List.drop_suffix j w').isInfix.trans (List.prefix_append _ _).isInfix)

theorem fenced_of_mem_shield_helm {sub : Substitute}
    (hbraces : ¬ IsTokenByte other 123 ∧ ¬ IsTokenByte other 125)
    (hsub : sub ∈ (helm.shield text).1.store)
    : Fenced other sub.value := by
  obtain ⟨u, hu, -⟩ := exists_eq_of_mem_shield_helm sub hsub
  rw [hu]
  exact ⟨⟨123, _, rfl, hbraces.1⟩, ⟨123 :: 123 :: (u ++ [125]), 125, by simp, hbraces.2⟩⟩

end Substitution

namespace Shield

open Substitution (StandsFor Untouched tokenStart Foreign IsTokenByte)

/-- Neither an expression nor its token is touched by tokens for sequences and numbers. -/
theorem untouched_standsFor {array octal : Bool} {expanded text w w' : Text} {s : Substitution}
    (hfree : Text.occursIn "yamlsort." expanded = false)
    (hw : (Substitution.helm.shield expanded).1.StandsFor w w')
    (hs : s ∈ ((ofFlags false array octal).shield text).1.substitutions)
    : Untouched (s.store.map (·.token)) w ∧ Untouched (s.store.map (·.token)) w' := by
  obtain ⟨sub, hsub, rfl, rfl⟩ := hw
  obtain ⟨s, hmem, text', rfl⟩ := exists_of_mem_go hs
  have hother : s.store = [] ∧ Foreign (tokenStart s.kind) "helm" ∧
      (¬ IsTokenByte s.kind 123 ∧ ¬ IsTokenByte s.kind 125) := by
    simp only [ofFlags, Bool.false_eq_true, if_false, List.nil_append, List.mem_append,
      List.mem_ite_nil_right,
      List.mem_singleton] at hmem
    obtain ⟨-, rfl⟩ | ⟨-, rfl⟩ := hmem
    all_goals exact ⟨rfl, by decide +kernel, by decide⟩
  obtain ⟨hstore, hforeign, hbraces⟩ := hother
  have htokens : ∀ t ∈ (s.shield text').1.store.map (·.token), ∃ m,
    t = Substitution.token s.kind m := by
    intro t ht
    obtain ⟨sub', hsub', rfl⟩ := List.mem_map.mp ht
    exact Substitution.exists_of_mem_shield hstore text' sub' hsub'
  obtain ⟨n, hn⟩ := Substitution.exists_of_mem_shield rfl expanded sub hsub
  obtain ⟨_, -, hinfix⟩ := Substitution.exists_eq_of_mem_shield_helm sub hsub
  rw [hn]
  exact ⟨Substitution.untouched_token hforeign htokens n,
    Substitution.untouched_of_fenced (Substitution.fenced_of_mem_shield_helm hbraces hsub) htokens
      (Substitution.not_tokenStart_infix hfree hinfix)⟩

end Shield
end YamlOrder
