import YamlOrder.Proofs.Shield.Moved

/-!
This module contains what is hidden of a text that has been restored: its expressions are hidden
again, and since it holds no start of a token, they are numbered in the order in which they stand
now.
-/

namespace YamlOrder
namespace Substitution

open Pattern (Scanned laid)
open Piece (shownText meantText woven)

variable {s : Substitution} {kind u v w first : Text} {parts : List (Substitute × Text)} {m n : Nat}

/-- The gaps before the hidden pieces of a text, with what they hide. -/
def slots : Text → List (Substitute × Text) → List (Text × Text)
  | _, [] => []
  | first, (sub, text) :: rest => (first, sub.value) :: slots text rest

/-- The text behind the last hidden piece. -/
def last : Text → List (Substitute × Text) → Text
  | first, [] => first
  | _, (_, text) :: rest => last text rest

/-- The pieces of a text with the tokens that have the numbers from `n` on. -/
def renumber (kind : Text) : Nat → List (Substitute × Text) → List (Substitute × Text)
  | _, [] => []
  | n, (sub, text) :: rest => (⟨token kind n, sub.value⟩, text) :: renumber kind (n + 1) rest

/--
Whether the pattern of a substitution finds the hidden pieces of a text, once they are put back, and
no others.
-/
def Finds (s : Substitution) (first : Text) (parts : List (Substitute × Text)) : Prop :=
  s.pattern.Scanned (slots first parts) (last first parts)

instance (s : Substitution) (first : Text) (parts : List (Substitute × Text))
    : Decidable (s.Finds first parts) :=
  inferInstanceAs (Decidable (s.pattern.Scanned _ _))

theorem woven_cons (first : Text) (sub : Substitute) (text : Text)
    (parts : List (Substitute × Text))
    : woven first ((sub, text) :: parts) = .plain first :: .hidden sub :: woven text parts := rfl

theorem laid_slots (first : Text) (parts : List (Substitute × Text))
    : laid (slots first parts) (last first parts) = meantText (woven first parts) := by
  induction parts generalizing first with
  | nil => simp [slots, last, woven, Piece.meant]
  | cons part parts ih =>
    obtain ⟨sub, text⟩ := part
    rw [slots, last, Pattern.laid_cons, ih, woven_cons]
    rfl

theorem map_slots (first : Text) (parts : List (Substitute × Text))
    : (slots first parts).map (·.2) = parts.map (·.1.value) := by
  induction parts generalizing first with
  | nil => rfl
  | cons part parts ih => rw [slots, List.map_cons, List.map_cons, ih]

theorem head?_meantText_woven (hfence : ∀ part ∈ parts, Fenced kind part.1.value)
    (hdigit : ∀ b ∈ first.head?, Text.isDigit b = false)
    : ∀ b ∈ (meantText (woven first parts)).head?, Text.isDigit b = false := by
  intro b hb
  cases first with
  | cons c first =>
    cases parts
    all_goals exact hdigit b hb
  | nil =>
    cases parts with
    | nil => simp [woven, Piece.meant] at hb
    | cons part parts =>
      obtain ⟨sub, text⟩ := part
      obtain ⟨c, w, hvalue, hc⟩ := (hfence _ List.mem_cons_self).head
      simp only [woven_cons, Piece.meantText_cons, Piece.meant, List.nil_append] at hb
      have hcb : c = b := by
        rw [hvalue] at hb
        simpa using hb
      rw [← hcb, Bool.eq_false_iff]
      exact fun hdigit => hc (.inr hdigit)

theorem not_infix_hidden (hkind : Text.Apart (tokenStart kind) (tokenStart kind)) (hnm : n < m)
    (hdigit : ∀ b ∈ w.head?, Text.isDigit b = false) (h : ¬ token kind m <:+: u ++ (v ++ w))
    : ¬ token kind m <:+: u ++ (token kind n ++ w) := by
  intro hinfix
  obtain ⟨j, hpre⟩ := Text.exists_prefix_drop_of_infix hinfix
  have hstart : tokenStart kind <+: token kind n ++ w :=
    (tokenStart_prefix_token n).trans (List.prefix_append _ _)
  obtain hj | hj := Nat.lt_or_ge j u.length
  . -- It begins before the hidden match, and does not reach it.
    rw [List.drop_append_of_le_length (by omega)] at hpre
    have hne : u.drop j ≠ [] := by simpa using hj
    have hbefore := hkind.prefix_append hne (.inr hstart) ((tokenStart_prefix_token m).trans hpre)
    by_cases hlen : (token kind m).length ≤ (u.drop j).length
    . have hu := List.prefix_of_prefix_length_le hpre (List.prefix_append _ _) hlen
      exact h ((hu.isInfix.trans (List.drop_suffix j u).isInfix).trans
        (List.prefix_append _ _).isInfix)
    . exact not_prefix_of_tokenStart_prefix hbefore.length_le (by omega) hstart hpre
  . rw [List.drop_append, List.drop_eq_nil_of_le hj, List.nil_append] at hpre
    generalize j - u.length = k at hpre
    obtain hk | hk := Nat.lt_or_ge k (token kind n).length
    . cases k with
      | zero =>
        rw [List.drop_zero] at hpre
        obtain hlt | heq := Nat.lt_or_eq_of_le (length_token_mono kind (Nat.le_of_lt hnm))
        . exact not_prefix_of_head? hdigit hlt hpre
        . have :=
            (List.prefix_of_prefix_length_le hpre (List.prefix_append _ _)
            (Nat.le_of_eq heq.symm)).eq_of_length
            heq.symm
          have := token_injective this
          omega
      | succ k =>
        exact not_prefix_drop_token hkind (Nat.succ_pos k) hk
          ((tokenStart_prefix_token m).trans hpre)
    . rw [List.drop_append, List.drop_eq_nil_of_le hk, List.nil_append] at hpre
      have hw := hpre.isInfix.trans (List.drop_suffix _ w).isInfix
      exact h (hw.trans ((List.suffix_append v w).isInfix.trans (List.suffix_append u _).isInfix))

theorem Issues.eq_woven {before : Text} {next : Nat} {ps : List Piece}
    (hkind : Text.Apart (tokenStart kind) (tokenStart kind))
    (hfence : ∀ part ∈ parts, Fenced kind part.1.value)
    (hdigit : ∀ part ∈ parts, ∀ b ∈ part.2.head?, Text.isDigit b = false)
    (hfollows : Follows (slots first parts) (last first parts) ps) (h : Issues kind before next ps)
    (hfree : ∀ m, next ≤ m → ¬ token kind m <:+: before ++ meantText (woven first parts))
    : ps = woven first (renumber kind next parts) := by
  induction parts generalizing first before next ps with
  | nil => exact hfollows
  | cons part parts ih =>
    obtain ⟨sub, text⟩ := part
    simp only [List.mem_cons, forall_eq_or_imp] at hfence hdigit
    obtain ⟨token', rest, rfl, hrest⟩ := hfollows
    obtain ⟨htoken, hissues⟩ := h
    have hmeant : meantText rest = meantText (woven text parts) :=
      hrest.meantText.trans (laid_slots text parts)
    have htext : before ++ meantText (woven first ((sub, text) :: parts)) =
        before ++ first ++ (sub.value ++ meantText (woven text parts)) := by
      simp [woven_cons, Piece.meant]
    rw [htext] at hfree
    have hn : freeNumber kind (before ++ first ++ (sub.value ++ meantText rest)) next = next :=
      freeNumber_of_free (hmeant ▸ hfree next (Nat.le_refl next))
    dsimp only at htoken hissues
    rw [hn] at htoken hissues
    subst htoken
    rw [renumber, woven_cons]
    congr 2
    apply ih hfence.2 hdigit.2 hrest hissues
    intro m hm
    rw [List.append_assoc (before ++ first)]
    exact not_infix_hidden hkind (by omega) (head?_meantText_woven hfence.2 hdigit.1)
      (hfree m (by omega))

theorem shield_woven (hs : Shield.Unused s) (hnext : s.next = 0) (hfinds : s.Finds first parts)
    (hdigit : ∀ part ∈ parts, ∀ b ∈ part.2.head?, Text.isDigit b = false)
    (hfree : ¬ tokenStart s.kind <:+: meantText (woven first parts))
    : ∃ next, s.shield (meantText (woven first parts)) =
        ({ s with store := (renumber s.kind 0 parts).map (·.1), next },
          shownText (woven first (renumber s.kind 0 parts))) := by
  have hfence : ∀ part ∈ parts, Fenced s.kind part.1.value := by
    intro part hpart
    have hmem : part.1.value ∈ (slots first parts).map (·.2) := by
      rw [map_slots]
      exact List.mem_map_of_mem hpart
    exact (Scanned.stable hs.fences hfinds _ hmem).1
  obtain ⟨ps, next, hfollows, hissues, hshield⟩ :=
    s.shield_follows hs.fences hfinds (Scanned.findAll_eq hs.fences hfinds)
  have hps : ps = woven first (renumber s.kind 0 parts) := by
    rw [hnext] at hissues
    refine hissues.eq_woven hs.apart hfence hdigit hfollows fun m _ hinfix => hfree ?_
    rw [List.nil_append] at hinfix
    exact (tokenStart_prefix_token m).isInfix.trans hinfix
  rw [laid_slots] at hshield
  refine ⟨next, ?_⟩
  rw [hshield, hps, Piece.subs_woven, hs.store]
  rfl

/--
The tokens of a text with those that they are exchanged for when its expressions are hidden again.
-/
def reissued (kind : Text) (parts : List (Substitute × Text)) : List (Text × Text) :=
  (parts.zip (renumber kind 0 parts)).map fun (part, part') => (part.1.token, part'.1.token)

/-- Whether a token stands at the start of a text, and no digit behind it. -/
def standsFirst (token text : Text) : Bool :=
  token.isPrefixOf text && !(text.drop token.length).head?.any Text.isDigit

/-- The text with other tokens. -/
def rename (names : List (Text × Text)) (text : Text) : Text :=
  go text 0
where
  /-- `skip` counts the bytes of a token that has been exchanged. -/
  go : Text → Nat → Text
    | [], _ => []
    | _ :: text, skip + 1 => go text skip
    | b :: text, 0 =>
      match names.find? fun (token, _) => standsFirst token (b :: text) with
      | some (token, token') => token' ++ go text (token.length - 1)
      | none => b :: go text 0

end Substitution

namespace Shield

open Substitution (Finds Foreign tokenStart renumber reissued)
open Piece (shownText meantText woven)

variable {subs : List Substitution} {issued : Text → Prop} {text hidden : Text}
  {names : List (Text × Text)}

/--
What is hidden of a text that has been restored, and how the tokens of the first time are exchanged:
each substitution finds the expressions that were hidden before, and numbers them in the order in
which they stand now.
-/
inductive Retraces (issued : Text → Prop) : List Substitution → Text → Text →
    List (Text × Text) → Prop where
  | done {text : Text} : Retraces issued [] text text []
  | hide {s : Substitution} {subs : List Substitution} {first : Text}
      {parts : List (Substitute × Text)} {hidden : Text}
      {names : List (Text × Text)} (hissued : ∀ part ∈ parts, issued part.1.token)
        (hfinds : s.Finds first parts)
      (hdigit : ∀ part ∈ parts, ∀ b ∈ part.2.head?, Text.isDigit b = false)
      (hrest : Retraces issued subs (shownText (woven first (renumber s.kind 0 parts)))
        hidden names)
      : Retraces issued (s :: subs) (meantText (woven first parts)) hidden
        (reissued s.kind parts ++ names)

/-- The text that is hidden again is the one with the new numbers. -/
theorem Retraces.go_eq (h : Retraces issued subs text hidden names) (hunused : ∀ s ∈ subs, Unused s)
    (hnext : ∀ s ∈ subs, s.next = 0)
    (hforeign : subs.Pairwise fun s later => Foreign (tokenStart later.kind) s.kind)
    (hfree : ∀ s ∈ subs, ¬ tokenStart s.kind <:+: text)
    : (shield.go subs text).2 = hidden := by
  induction h with
  | done => rfl
  | @hide s subs first parts hidden names _ hfinds hdigit _ ih =>
    simp only [List.mem_cons, forall_eq_or_imp] at hunused hnext hfree
    rw [List.pairwise_cons] at hforeign
    obtain ⟨next, hshield⟩ := Substitution.shield_woven hunused.1 hnext.1 hfinds hdigit hfree.1
    have hlater : ∀ later ∈ subs,
        ¬ tokenStart later.kind <:+: shownText (woven first (renumber s.kind 0 parts)) := by
      intro later hmem
      have := s.not_infix_shield hunused.1.fences (hforeign.1 later hmem) (hfree.2 later hmem)
      rwa [hshield] at this
    rw [shield.go, hshield]
    exact ih hunused.2 hnext.2 hforeign.2 hlater

end Shield
end YamlOrder
