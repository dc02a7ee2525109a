import YamlOrder.Proofs.Shield.Hide
import YamlOrder.Proofs.Shield.Restore
import YamlOrder.Shield.Substitution

/-!
This module contains the round trip of the shield: a text that holds no start of a token comes back
when what was hidden is restored.
-/

namespace YamlOrder
namespace Substitution

open Piece (shownText meantText subs run)

variable {kind : Text} {store : List Substitute} {ps : List Piece}

theorem Fresh.numbered {before : Text} {next : Nat} (h : Fresh kind before next ps)
    : ∀ t ∈ subs ps, ∃ n, next ≤ n ∧ t.token = token kind n := by
  induction ps generalizing before next with
  | nil => simp [subs]
  | cons p ps ih =>
    cases p with
    | plain text => exact ih h
    | hidden sub =>
      obtain ⟨n, hn, htoken, _, hrest⟩ := h
      simp only [subs, List.mem_cons, forall_eq_or_imp]
      refine ⟨⟨n, hn, htoken⟩, fun t ht => ?_⟩
      obtain ⟨k, hk, htoken⟩ := ih hrest t ht
      exact ⟨k, by omega, htoken⟩

theorem Fresh.distinct {before : Text} {next : Nat} (h : Fresh kind before next ps)
    : ((subs ps).map (·.token)).Nodup := by
  induction ps generalizing before next with
  | nil => exact List.nodup_nil
  | cons p ps ih =>
    cases p with
    | plain text => exact ih h
    | hidden sub =>
      obtain ⟨n, _, htoken, _, hrest⟩ := h
      simp only [subs, List.map_cons, List.nodup_cons, List.mem_map, not_exists, not_and]
      refine ⟨fun t ht heq => ?_, ih hrest⟩
      obtain ⟨k, hk, htoken'⟩ := hrest.numbered t ht
      have := token_injective (htoken'.symm.trans (heq.trans htoken))
      omega

theorem Fresh.not_prefix {before u : Text} {next : Nat} (h : Fresh kind before next ps)
    (hu : u <:+ before) (hlen : (tokenStart kind).length ≤ u.length)
    : ∀ t ∈ subs ps, ¬ t.token <+: u ++ shownText ps := by
  induction ps generalizing before next u with
  | nil => simp [subs]
  | cons p ps ih =>
    cases p with
    | plain text =>
      obtain ⟨v, rfl⟩ := hu
      have := ih h (u := u ++ text) ⟨v, by simp⟩ (by simp; omega)
      simpa [subs, Piece.shown] using this
    | hidden sub =>
      obtain ⟨n, _, htoken, hfresh, hrest⟩ := h
      have hsuffix : u ++ sub.token <:+ before ++ sub.token := by
        obtain ⟨v, rfl⟩ := hu
        exact ⟨v, by simp⟩
      have := ih hrest hsuffix (by simp; omega)
      simp only [List.append_assoc] at this
      simp only [subs, List.mem_cons, forall_eq_or_imp, Piece.shownText_cons, Piece.shown]
      refine ⟨fun hpre => ?_, this⟩
      by_cases hle : sub.token.length ≤ u.length
      . apply hfresh
        have hpre := List.prefix_of_prefix_length_le hpre (List.prefix_append _ _) hle
        exact (hpre.isInfix.trans hu.isInfix).trans (List.prefix_append _ _).isInfix
      . rw [htoken] at hpre hle
        refine not_prefix_of_tokenStart_prefix hlen (by omega) ?_ hpre
        exact (tokenStart_prefix_token n).trans (List.prefix_append _ _)

theorem run_prefix_meantText (ps : List Piece) : run ps <+: meantText ps := by
  induction ps with
  | nil => exact List.nil_prefix
  | cons p ps ih =>
    cases p with
    | plain text =>
      simp only [run, Piece.meantText_cons, Piece.meant]
      exact (List.prefix_append_right_inj _).mpr ih
    | hidden sub => exact List.nil_prefix

theorem not_infix_run (h : ¬ tokenStart kind <:+: meantText ps)
    : ¬ tokenStart kind <:+: run ps :=
  fun hrun => h (hrun.trans (run_prefix_meantText ps).isInfix)

theorem Fresh.clear {before : Text} {next : Nat} (h : Fresh kind before next ps)
    (hfree : ¬ tokenStart kind <:+: meantText ps)
    (hstore : ∀ t ∈ store, t ∈ subs ps ∨ ∃ k < next, t.token = token kind k)
    : Piece.Clear kind store ps := by
  induction ps generalizing before next with
  | nil => trivial
  | cons p ps ih =>
    have hrestFree : ¬ tokenStart kind <:+: meantText ps := by
      intro hi
      apply hfree
      rw [Piece.meantText_cons]
      exact hi.trans (List.suffix_append _ _).isInfix
    cases p with
    | plain text => exact ih h hrestFree hstore
    | hidden sub =>
      obtain ⟨n, hn, htoken, _, hrest⟩ := h
      refine ⟨⟨n, htoken⟩, ?_, not_infix_run hrestFree, ih hrest hrestFree ?_⟩
      . intro t ht hlong
        have hold : ∀ k ≤ n, t.token ≠ token kind k := by
          rintro k hk heq
          have := length_token_mono kind hk
          rw [heq, htoken] at hlong
          omega
        obtain hmem | ⟨k, hk, heq⟩ := hstore t ht
        . cases hmem with
          | head => exact absurd htoken (hold n (Nat.le_refl n))
          | tail _ hmem =>
            refine hrest.not_prefix (List.suffix_append _ _) ?_ t hmem
            rw [htoken]
            exact (tokenStart_prefix_token n).length_le
        . exact absurd heq (hold k (by omega))
      . intro t ht
        obtain hmem | ⟨k, hk, heq⟩ := hstore t ht
        . cases hmem with
          | head => exact .inr ⟨n, Nat.lt_succ_self n, htoken⟩
          | tail _ hmem => exact .inl hmem
        . exact .inr ⟨k, by omega, heq⟩

theorem value_infix_meantText {sub : Substitute} (h : sub ∈ subs ps)
    : sub.value <:+: meantText ps := by
  obtain ⟨pre, post, rfl⟩ := Piece.exists_eq_append_of_mem_subs h
  exact ⟨meantText pre, meantText post, by simp [meantText, Piece.meant]⟩

theorem Fresh.issued {s : Substitution} {before : Text} {next next' : Nat}
    (h : Fresh s.kind before next ps) (hfence : ∀ t ∈ subs ps, Fenced s.kind t.value)
    (hfree : ¬ tokenStart s.kind <:+: meantText ps)
    : Issued { s with store := subs ps, next := next' } where
  numbered := by
    intro t ht
    obtain ⟨n, _, htoken⟩ := h.numbered t ht
    exact ⟨n, htoken⟩
  distinct := h.distinct
  fenced := hfence
  free := fun t ht hi => hfree (hi.trans (value_infix_meantText ht))

theorem issued_shield (s : Substitution) (hp : s.pattern.Fences s.kind) (hstore : s.store = [])
    {text : Text} (hfree : ¬ tokenStart s.kind <:+: text)
    : (s.shield text).1.Issued := by
  obtain ⟨ps, next, rfl, _, hfence, hfresh, hshield⟩ := shield_eq s hp text
  rw [hshield, hstore, List.nil_append]
  exact hfresh.issued hfence hfree

theorem restore_shield_of_free (s : Substitution) (hp : s.pattern.Fences s.kind)
    (hkind : Text.Apart (tokenStart s.kind) (tokenStart s.kind)) (hstore : s.store = [])
    {text : Text} (hfree : ¬ tokenStart s.kind <:+: text)
    : (s.shield text).1.restore (s.shield text).2 = text := by
  obtain ⟨ps, next, rfl, _, hfence, hfresh, hshield⟩ := shield_eq s hp text
  rw [hshield, hstore, List.nil_append]
  have hhides : Hides { s with store := subs ps, next } ps := {
    clear := hfresh.clear hfree fun t ht => .inl ht
    run := not_infix_run hfree
    nodup := List.Nodup.of_map _ hfresh.distinct
    stored := fun t ht => ht
  }
  exact restore_shownText hkind (hfresh.issued hfence hfree) hhides

/--
A text that no token of a kind can be a part of: it neither is the start of a token, nor begins
inside of one, nor ends inside of one.
-/
def Foreign (other kind : Text) : Prop :=
  other ≠ [] ∧ Text.Apart other (tokenStart kind) ∧ (tokenStart kind).length ≤ other.length ∧
    ¬ tokenStart kind <+: other ∧ ∀ b ∈ other.head?, b ∉ (tokenStart kind).tail ∧ ¬ Text.isDigit b

instance (other kind : Text) : Decidable (Foreign other kind) :=
  inferInstanceAs (Decidable (_ ∧ _))

theorem Foreign.not_prefix_drop_token {other v : Text} {n j : Nat} (h : Foreign other kind)
    (hj : j < (token kind n).length)
    : ¬ other <+: (token kind n ++ v).drop j := by
  obtain ⟨hne, _, hlen, hstart, hhead⟩ := h
  intro hpre
  cases j with
  | zero =>
    have : tokenStart kind <+: token kind n ++ v :=
      (tokenStart_prefix_token n).trans (List.prefix_append _ _)
    exact hstart (List.prefix_of_prefix_length_le this hpre hlen)
  | succ j =>
    obtain ⟨b, w, rfl⟩ := List.exists_cons_of_ne_nil hne
    have hb := hhead b rfl
    obtain ⟨w', hw'⟩ := hpre
    have hget : (token kind n)[j + 1]? = some b := by
      rw [← List.getElem?_append_left hj, ← List.head?_drop, ← hw']
      rfl
    by_cases hlt : j + 1 < (tokenStart kind).length
    . apply hb.1
      rw [token, List.getElem?_append_left hlt, ← List.getElem?_tail] at hget
      exact List.mem_of_getElem? hget
    . exact hb.2 (isDigit_of_getElem?_token (Nat.le_of_not_lt hlt) hget)

theorem Foreign.not_infix_shownText {other : Text} (h : Foreign other kind)
    (hps : ∀ t ∈ subs ps, ∃ n, t.token = token kind n) (hfree : ¬ other <:+: meantText ps)
    : ¬ other <:+: shownText ps := by
  intro hinfix
  obtain ⟨j, hpre⟩ := Text.exists_prefix_drop_of_infix hinfix
  clear hinfix
  induction ps generalizing j with
  | nil => exact h.1 (by simpa using hpre)
  | cons p ps ih =>
    -- The text begins behind the first piece, in its plain text or in its token.
    by_cases hj : p.shown.length ≤ j
    . rw [Piece.shownText_cons, List.drop_append, List.drop_eq_nil_of_le hj,
        List.nil_append] at hpre
      refine ih ?_ ?_ _ hpre
      . exact fun t ht => hps t (Piece.mem_subs_cons p ht)
      . intro hi
        apply hfree
        rw [Piece.meantText_cons]
        exact hi.trans (List.suffix_append _ _).isInfix
    . cases p with
      | plain text =>
        obtain ⟨rest, hshown, hstart⟩ := Piece.shownText_eq_run_append hps
        rw [hshown] at hpre
        apply hfree
        refine (h.2.1.infix_of_prefix_drop ?_ hstart hpre).trans (run_prefix_meantText _).isInfix
        simp only [run, List.length_append]
        simp only [Piece.shown] at hj
        omega
      | hidden sub =>
        obtain ⟨n, hn⟩ := hps sub (by simp [subs])
        rw [Piece.shownText_cons, Piece.shown, hn] at hpre
        simp only [Piece.shown, hn] at hj
        exact h.not_prefix_drop_token (by omega) hpre

theorem not_infix_shield {other text : Text} (s : Substitution) (hp : s.pattern.Fences s.kind)
    (hother : Foreign other s.kind) (hfree : ¬ other <:+: text)
    : ¬ other <:+: (s.shield text).2 := by
  obtain ⟨ps, next, rfl, _, _, hfresh, hshield⟩ := shield_eq s hp text
  rw [hshield]
  apply hother.not_infix_shownText ?_ hfree
  intro t ht
  obtain ⟨n, _, htoken⟩ := hfresh.numbered t ht
  exact ⟨n, htoken⟩

theorem not_tokenStart_infix {text piece : Text} (hfree : Text.occursIn "yamlsort." text = false)
    (hpiece : piece <:+: text)
    : ¬ tokenStart kind <:+: piece := by
  intro hinfix
  have hstart : ("yamlsort." : Text) <+: tokenStart kind := by
    rw [tokenStart, List.append_assoc]
    exact List.prefix_append _ _
  rw [← Bool.not_eq_true, Text.occursIn_iff] at hfree
  exact hfree ((hstart.isInfix.trans hinfix).trans hpiece)

end Substitution

namespace Shield

open Substitution (tokenStart Foreign)

/-- A substitution that has not hidden anything, and whose matches are fenced. -/
structure Unused (s : Substitution) : Prop where
  fences : s.pattern.Fences s.kind
  apart : Text.Apart (tokenStart s.kind) (tokenStart s.kind)
  store : s.store = []

theorem foldr_restore_go {subs : List Substitution} {text : Text} (hunused : ∀ s ∈ subs, Unused s)
    (hforeign : subs.Pairwise fun s later => Foreign (tokenStart later.kind) s.kind)
    (hfree : ∀ s ∈ subs, ¬ tokenStart s.kind <:+: text)
    : (shield.go subs text).1.foldr (fun s text => s.restore text)
      (shield.go subs text).2 = text := by
  induction subs generalizing text with
  | nil => rfl
  | cons s subs ih =>
    simp only [List.mem_cons, forall_eq_or_imp] at hunused hfree
    rw [List.pairwise_cons] at hforeign
    have hrest := ih hunused.2 hforeign.2 fun later hlater =>
      s.not_infix_shield hunused.1.fences (hforeign.1 later hlater) (hfree.2 later hlater)
    simp only [shield.go, List.foldr_cons, hrest]
    exact s.restore_shield_of_free hunused.1.fences hunused.1.apart hunused.1.store hfree.1

theorem unused_helm : Unused .helm where
  fences := Pattern.fences_helm
  apart := by decide
  store := rfl

theorem unused_array : Unused .array where
  fences := Pattern.fences_array
  apart := by decide
  store := rfl

theorem tokenStart_helm : tokenStart "helm" = "yamlsort.helm." := by decide

theorem tokenStart_array : tokenStart "array" = "yamlsort.array." := by decide

theorem eq_of_mem_ofFlags {helm array : Bool} {s : Substitution}
    (h : s ∈ (ofFlags helm array false).substitutions)
    : s = .helm ∨ s = .array := by
  simp only [ofFlags, Bool.false_eq_true, if_false, List.append_nil, List.mem_append,
    List.mem_ite_nil_right,
    List.mem_singleton] at h
  exact h.imp And.right And.right

theorem unused_ofFlags {helm array : Bool} : ∀ s ∈ (ofFlags helm array false).substitutions,
    Unused s := by
  intro s hs
  obtain rfl | rfl := eq_of_mem_ofFlags hs
  . exact unused_helm
  . exact unused_array

theorem pairwise_foreign_ofFlags {helm array : Bool}
    : (ofFlags helm array false).substitutions.Pairwise fun s later =>
      Foreign (tokenStart later.kind) s.kind := by
  have : Foreign (tokenStart "array") "helm" := by decide +kernel
  cases helm
  all_goals
    cases array
    all_goals simp [ofFlags, Substitution.helm, Substitution.array, this]

/--
Shielding a document and restoring it gives the document back, if it holds no start of a token:
however often a text is hidden, whatever brackets are nested, and whatever digits stand behind a
token.
-/
theorem restore_shield (helm array : Bool) (text : Text)
    (hhelm : Text.occursIn "yamlsort.helm." text = false)
    (harray : Text.occursIn "yamlsort.array." text = false)
    : ((ofFlags helm array false).shield text).1.restore
      ((ofFlags helm array false).shield text).2 =
      text := by
  have hhelm : ¬ tokenStart "helm" <:+: text := by
    rw [tokenStart_helm, ← Text.occursIn_iff, hhelm]
    exact Bool.false_ne_true
  have harray : ¬ tokenStart "array" <:+: text := by
    rw [tokenStart_array, ← Text.occursIn_iff, harray]
    exact Bool.false_ne_true
  apply foldr_restore_go unused_ofFlags pairwise_foreign_ofFlags
  intro s hs
  obtain rfl | rfl := eq_of_mem_ofFlags hs
  . exact hhelm
  . exact harray

/-- A repeated expression with a digit behind it, in nested brackets. -/
theorem restore_shield_nested
    : Text.occursIn "yamlsort.helm." "a: [{{ x }}1, [{{ x }}, 2]3]" = false ∧
      Text.occursIn "yamlsort.array." "a: [{{ x }}1, [{{ x }}, 2]3]" = false ∧
      ((ofFlags true true false).shield "a: [{{ x }}1, [{{ x }}, 2]3]").1.restore
        ((ofFlags true true false).shield "a: [{{ x }}1, [{{ x }}, 2]3]").2 =
          "a: [{{ x }}1, [{{ x }}, 2]3]" := by
  refine ⟨?_, ?_, restore_shield true true _ ?_ ?_⟩
  . decide
  . decide
  . decide
  . decide

end Shield
end YamlOrder
