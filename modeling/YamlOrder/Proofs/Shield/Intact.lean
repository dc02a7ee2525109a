import YamlOrder.Proofs.Shield.Lost
import YamlOrder.Proofs.Shield.RoundTrip

/-!
This module contains the run of a substitution that hides numbers: each of them is hidden in the
plain text between the tokens, unless its digits are found inside of a token.
-/

namespace YamlOrder
namespace Piece

open Substitution (token tokenStart)
open Text (isDigit)

variable {kind m v : Text} {store : List Substitute} {ps : List Piece}

theorem isDigit_of_head?_token {t : Substitute} (ht : ∃ n, t.token = token kind n) {b : UInt8}
    {rest : Text} (h : (t.token ++ rest).head? = some b)
    : isDigit b = false := by
  obtain ⟨n, hn⟩ := ht
  rw [hn, token, List.append_assoc, List.head?_append, Substitution.head?_tokenStart,
    Option.some_or,
    Option.some.injEq] at h
  rw [← h]
  decide

theorem head?_meantText_of_isDigit (hps : ∀ t ∈ subs ps, ∃ n, t.token = token kind n) {b : UInt8}
    (h : (shownText ps).head? = some b) (hb : isDigit b = true)
    : (meantText ps).head? = some b := by
  induction ps with
  | nil => exact absurd h (by simp)
  | cons p ps ih =>
    cases p with
    | plain text =>
      cases text with
      | nil => exact ih hps h
      | cons c text => exact h
    | hidden t =>
      have := isDigit_of_head?_token (hps t List.mem_cons_self) h
      exact absurd hb (by simp [this])

theorem exists_after_digits (hps : ∀ t ∈ subs ps, ∃ n, t.token = token kind n)
    (hm : ∀ b ∈ m, isDigit b = true) (h : shownText ps = m ++ v)
    : ∃ qs, shownText qs = v ∧ meantText ps = m ++ meantText qs ∧ subs qs = subs ps := by
  induction ps generalizing m with
  | nil =>
    obtain ⟨rfl, rfl⟩ := List.append_eq_nil_iff.mp h.symm
    exact ⟨[], rfl, rfl, rfl⟩
  | cons p ps ih =>
    cases p with
    | plain text =>
      rw [shownText_cons, shown] at h
      obtain ⟨w, rfl, hrest⟩ | ⟨w, rfl, hrest⟩ := List.append_eq_append_iff.mp h
      . obtain ⟨qs, hshown, hmeant, hsubs⟩ := ih hps (fun b hb => hm b (by simp [hb])) hrest
        exact ⟨qs, hshown, by simp [meant, hmeant], hsubs⟩
      . exact ⟨.plain w :: ps, hrest.symm, by simp [meant], rfl⟩
    | hidden t =>
      cases m with
      | nil => exact ⟨.hidden t :: ps, h, rfl, rfl⟩
      | cons b m =>
        have := isDigit_of_head?_token (hps t List.mem_cons_self) (congrArg List.head? h)
        exact absurd (hm b List.mem_cons_self) (by simp [this])

/-- The rest of what is shown begins inside of the number of a token. -/
def InNumber (kind : Text) (ps : List Piece) (u rest : Text) : Prop :=
  ∃ pre t post n d d', ps = pre ++ .hidden t :: post ∧ t.token = token kind n ∧
  Text.ofNat n = d ++ d' ∧
    d' ≠ [] ∧ u = shownText pre ++ (tokenStart kind ++ d) ∧ rest = d' ++ shownText post

theorem InNumber.cons {u rest : Text} (h : InNumber kind ps u rest) (p : Piece)
    : InNumber kind (p :: ps) (p.shown ++ u) rest := by
  obtain ⟨pre, t, post, n, d, d', rfl, htoken, hn, hd', rfl, hrest⟩ := h
  exact ⟨p :: pre, t, post, n, d, d', rfl, htoken, hn, hd', by simp, hrest⟩

theorem inNumber_of_token (hkind : Substitution.Telling kind) {t : Substitute}
    (ht : ∃ n, t.token = token kind n) {u w : Text} {b : UInt8} (hb : isDigit b = true)
    (hsplit : t.token = u ++ b :: w) (ps : List Piece)
    : InNumber kind (.hidden t :: ps) u (b :: w ++ shownText ps) := by
  obtain ⟨n, hn⟩ := ht
  have hdigits : tokenStart kind ++ Text.ofNat n = u ++ b :: w := hn.symm.trans hsplit
  obtain ⟨d, rfl, hd⟩ | ⟨x, hx, hw⟩ := List.append_eq_append_iff.mp hdigits
  . exact ⟨[], t, ps, n, d, b :: w, rfl, hn, hd, by simp, by simp, rfl⟩
  . cases x with
    | nil =>
      rw [List.append_nil] at hx
      exact ⟨[], t, ps, n, [], b :: w, rfl, hn, hw.symm, by simp, by simp [hx], rfl⟩
    | cons c x =>
      obtain rfl : b = c := (List.cons.inj hw).1
      have := hkind.digitless b (by simp [hx])
      exact absurd hb (by simp [this])

variable {u w : Text}

theorem exists_hidden_of_plain (hps : ∀ t ∈ subs ps, ∃ n, t.token = token kind n)
    (hm : ∀ b ∈ m, isDigit b = true) (h : m ++ v = w ++ shownText ps) (new : Text)
    : ∃ qs, shownText qs = u ++ (new ++ v) ∧ meantText qs = u ++ (w ++ meantText ps) ∧
        (subs qs).Perm (⟨new, m⟩ :: subs ps) := by
  obtain ⟨x, rfl, hv⟩ | ⟨x, rfl, hrest⟩ := List.append_eq_append_iff.mp h
  . exact ⟨.plain u :: .hidden ⟨new, m⟩ :: .plain
      x :: ps, by simp [shown, hv], by simp [meant], .refl _⟩
  . obtain ⟨qs, hqs, hmeant, hsubs⟩ :=
      exists_after_digits hps (fun b hb => hm b (by simp [hb])) hrest
    exact ⟨.plain u :: .hidden ⟨new, w ++ x⟩ :: qs, by simp [shown, hqs], by simp [meant, hmeant],
      by simp [subs, hsubs]⟩

theorem exists_hidden_or_inNumber (hkind : Substitution.Telling kind) (hm : Substitution.Numeral m)
    (hps : ∀ t ∈ subs ps, ∃ n, t.token = token kind n) (h : shownText ps = u ++ (m ++ v))
    (new : Text)
    : (∃ qs, shownText qs = u ++ (new ++ v) ∧ meantText qs = meantText ps ∧
        (subs qs).Perm (⟨new, m⟩ :: subs ps)) ∨ InNumber kind ps u (m ++ v) := by
  induction ps generalizing u with
  | nil => exact absurd h (by simp [hm.1])
  | cons p ps ih =>
    have htail : ∀ t ∈ subs ps, ∃ n, t.token = token kind n :=
      fun t ht => hps t (mem_subs_cons p ht)
    -- the number begins behind the first piece
    have hbehind {w : Text} (hu : u = p.shown ++ w) (hrest : shownText ps = w ++ (m ++ v))
        : (∃ qs, shownText qs = u ++ (new ++ v) ∧ meantText qs = meantText (p :: ps) ∧
            (subs qs).Perm (⟨new, m⟩ :: subs (p :: ps))) ∨ InNumber kind (p :: ps) u (m ++ v) := by
      obtain ⟨qs, hshown, hmeant, hsubs⟩ | hnumber := ih htail hrest
      . refine .inl ⟨p :: qs, by simp [hu, hshown], by simp [hmeant], ?_⟩
        cases p with
        | plain text => exact hsubs
        | hidden sub => exact (hsubs.cons sub).trans (List.Perm.swap _ _ _)
      . exact .inr (hu ▸ hnumber.cons p)
    rw [shownText_cons] at h
    obtain ⟨w, hu, hrest⟩ | ⟨w, hshown, hrest⟩ := List.append_eq_append_iff.mp h
    . exact hbehind hu hrest
    . cases p with
      | plain text =>
        obtain ⟨qs, hqs, hmeant, hsubs⟩ := exists_hidden_of_plain htail hm.2 hrest new
        obtain rfl : text = u ++ w := hshown
        exact .inl ⟨qs, hqs, by simp [hmeant, meant], hsubs⟩
      | hidden t =>
        cases w with
        | nil =>
          rw [List.append_nil] at hshown
          exact hbehind (w := []) (by rw [hshown, List.append_nil]) hrest.symm
        | cons b w =>
          obtain ⟨c, m', rfl⟩ := List.exists_cons_of_ne_nil hm.1
          obtain rfl : c = b := (List.cons.inj hrest).1
          rw [hrest]
          exact .inr (inNumber_of_token hkind (hps t List.mem_cons_self)
            (hm.2 c List.mem_cons_self) hshown ps)

end Piece

namespace Substitution

open Piece (shownText meantText subs InNumber)
open Text (isDigit)

variable {s s' : Substitution} {kind document text text' u v m : Text} {all ms : List Text}
  {ps : List Piece}

/--
However some of the values are hidden behind the tokens of as many numbers, none is read as a longer
one.
-/
def Legible (kind document : Text) (all : List Text) : Prop :=
  ∀ pre t post, meantText (pre ++ .hidden t :: post) = document →
    (∀ x ∈ subs (pre ++ .hidden t :: post),
      x.value ∈ all ∧ ∃ n < all.length, x.token = token kind n) →
    ∀ k < all.length, t.token.length < (token kind k).length →
      ¬ token kind k <+: t.token ++ shownText post

/-- A document without tokens, and the numbers that are hidden in it. -/
structure Tractable (kind document : Text) (all : List Text) : Prop where
  telling : Telling kind
  free : ¬ tokenStart kind <:+: document
  numeral : ∀ m ∈ all, Numeral m
  legible : Legible kind document all

/--
The numbers before `ms` have been hidden, each behind a token of its own that shows it in its place,
and the tokens are those with the first numbers.
-/
structure Intact (s : Substitution) (document : Text) (all ms : List Text) (ps : List Piece)
    : Prop where
  meant : meantText ps = document
  stored : (subs ps).Perm s.store
  tokens : s.store.map (·.token) = (List.range s.next).map (token s.kind)
  values : s.store.map (·.value) ++ ms = all

theorem intact_start (hstore : s.store = []) (hnext : s.next = 0)
    : Intact s document all all [.plain document] where
  meant := by simp [Piece.meant]
  stored := by simp [subs, hstore]
  tokens := by simp [hstore, hnext]
  values := by simp [hstore]

namespace Intact

theorem next_add (h : Intact s document all ms ps) : s.next + ms.length = all.length := by
  have hnext := congrArg List.length h.tokens
  have hall := congrArg List.length h.values
  simp only [List.length_map, List.length_range, List.length_append] at hnext hall
  omega

theorem exists_token (h : Intact s document all ms ps) {t : Substitute} (ht : t ∈ s.store)
    : ∃ n < s.next, t.token = token s.kind n := by
  have hmem : t.token ∈ s.store.map (·.token) := List.mem_map_of_mem ht
  rw [h.tokens, List.mem_map] at hmem
  obtain ⟨n, hn, htoken⟩ := hmem
  exact ⟨n, List.mem_range.mp hn, htoken.symm⟩

theorem numbered (h : Intact s document all ms ps) : s.Numbered where
  numbered := by
    intro t ht
    obtain ⟨n, -, htoken⟩ := h.exists_token ht
    exact ⟨n, htoken⟩
  distinct := by
    rw [h.tokens]
    exact List.nodup_range.map fun _ _ => token_injective

theorem nodup (h : Intact s document all ms ps) : (subs ps).Nodup :=
  h.stored.nodup_iff.mpr (List.Nodup.of_map _ h.numbered.distinct)

theorem value_mem (h : Intact s document all ms ps) {t : Substitute} (ht : t ∈ s.store)
    : t.value ∈ all := by
  rw [← h.values]
  exact List.mem_append_left _ (List.mem_map_of_mem ht)

theorem legible_mem (h : Intact s document all ms ps)
    : ∀ t ∈ s.store, t.value ∈ all ∧ ∃ n < all.length, t.token = token s.kind n := by
  intro t ht
  obtain ⟨n, hn, htoken⟩ := h.exists_token ht
  have := h.next_add
  exact ⟨h.value_mem ht, n, by omega, htoken⟩

theorem hides (h : Intact s document all ms ps) (hd : Tractable s.kind document all)
    {qs : List Piece} (hmeant : meantText qs = document) (hnodup : (subs qs).Nodup)
    (hstored : ∀ t ∈ subs qs, t ∈ s.store)
    : s.Hides qs where
  clear := by
    apply Piece.clear_of
    rintro pre t post rfl
    obtain ⟨n, -, htoken⟩ := h.exists_token (hstored t (by simp [subs]))
    refine ⟨⟨n, htoken⟩, ?_, ?_⟩
    . intro x hx hlong
      obtain ⟨-, k, hk, hxtoken⟩ := h.legible_mem x hx
      rw [hxtoken] at hlong ⊢
      exact hd.legible pre t post hmeant (fun y hy => h.legible_mem y (hstored y hy)) k hk hlong
    . apply not_infix_run
      intro hinfix
      apply hd.free
      rw [← hmeant]
      exact hinfix.trans ⟨meantText pre ++ t.value, [], by simp [meantText, Piece.meant]⟩
  run := not_infix_run (hmeant ▸ hd.free)
  nodup := hnodup
  stored := hstored

theorem hides_self (h : Intact s document all ms ps) (hd : Tractable s.kind document all)
    : s.Hides ps :=
  h.hides hd h.meant h.nodup fun _ ht => h.stored.mem_iff.mp ht

theorem freeNumber_eq (h : Intact s document all (m :: ms) ps) (hd : Tractable s.kind document all)
    : freeNumber s.kind (shownText ps) s.next = s.next := by
  apply freeNumber_of_free
  intro hinfix
  have hhides := h.hides_self hd
  obtain ⟨j, hpre⟩ := Text.exists_prefix_drop_of_infix hinfix
  have hstart := (tokenStart_prefix_token s.next).trans hpre
  obtain ⟨pre, t, post, rfl, rfl⟩ :=
    Piece.exists_hidden_of_prefix_drop hd.telling.apart hhides.clear hhides.run hstart
  rw [drop_shownText] at hpre
  obtain ⟨n, hn, htoken⟩ := h.exists_token (hhides.stored t (by simp [subs]))
  have hnext := h.next_add
  rw [List.length_cons] at hnext
  have hmem : ∀ x ∈ subs (pre ++ .hidden t :: post), x.value ∈ all ∧ ∃ n < all.length,
    x.token = token s.kind n :=
    fun x hx => h.legible_mem x (hhides.stored x hx)
  have hlong : ¬ t.token.length < (token s.kind s.next).length :=
    fun hlong => hd.legible pre t post h.meant hmem s.next (by omega) hlong hpre
  have hlength : t.token.length = (token s.kind s.next).length := by
    have := length_token_mono s.kind (Nat.le_of_lt hn)
    rw [← htoken] at this
    omega
  have heq : token s.kind s.next = t.token :=
    (List.prefix_of_prefix_length_le hpre (List.prefix_append _ _)
    (Nat.le_of_eq hlength.symm)).eq_of_length
      hlength.symm
  have := token_injective (heq.trans htoken)
  omega

theorem hide (h : Intact s document all (m :: ms) ps) (hd : Tractable s.kind document all)
    (hshown : shownText ps = u ++ (m ++ v))
    : (∃ qs, Intact (s.issue s.next m) document all ms qs ∧
        shownText qs = u ++ (token s.kind s.next ++ v)) ∨
        InNumber s.kind ps u (m ++ v) := by
  have hm : m ∈ all := by
    rw [← h.values]
    simp
  have hps : ∀ t ∈ subs ps, ∃ n, t.token = token s.kind n :=
    fun t ht => h.numbered.numbered t (h.stored.mem_iff.mp ht)
  apply (Piece.exists_hidden_or_inNumber hd.telling (hd.numeral m hm) hps hshown
    (token s.kind s.next)).imp_left
  rintro ⟨qs, hqs, hmeant, hsubs⟩
  refine ⟨qs, ?_, hqs⟩
  exact {
    meant := hmeant.trans h.meant
    stored := (hsubs.trans (h.stored.cons _)).trans (List.perm_append_singleton _ _).symm
    tokens := by simp [h.tokens, List.range_succ]
    values := by simp [← h.values]
  }

theorem restore (h : Intact s document all [] ps) (hd : Tractable s.kind document all)
    : s.restore (shownText ps) = document := by
  rw [← h.meant]
  apply restore_shownText_of (I := fun qs => meantText qs = document ∧ (subs qs).Nodup ∧
    ∀ t ∈ subs qs, t ∈ s.store)
    hd.telling.apart h.numbered
  . rintro qs ⟨hmeant, hnodup, hstored⟩
    exact h.hides hd hmeant hnodup hstored
  . rintro qs ⟨hmeant, hnodup, hstored⟩ sub -
    rw [Piece.meantText_reveal, Piece.subs_reveal]
    exact ⟨hmeant, hnodup.filter _, fun t ht => hstored t (List.mem_of_mem_filter ht)⟩
  . exact ⟨h.meant, h.nodup, fun t ht => h.stored.mem_iff.mp ht⟩

end Intact

/-- A run in which all tokens were whole up to a number that is found inside of one of them. -/
def Breaks (document : Text) (all : List Text) (s' : Substitution) (text' : Text) : Prop :=
  ∃ s ps u m v ms, Intact s document all (m :: ms) ps ∧ shownText ps = u ++ (m ++ v) ∧
    InNumber s.kind ps u (m ++ v) ∧
    Hiding (s.issue s.next m) (u ++ (token s.kind s.next ++ v)) ms s' text'

/--
In the end, all numbers are hidden in their places, or one of them was found inside of a token.
-/
theorem Hiding.intact_or_breaks (h : Hiding s text ms s' text') (hd : Tractable s.kind document all)
    (hps : Intact s document all ms ps) (htext : shownText ps = text)
    : (∃ qs, Intact s' document all [] qs ∧ shownText qs = text') ∨
      Breaks document all s' text' := by
  induction h generalizing ps with
  | done => exact .inl ⟨ps, hps, htext⟩
  | hide hfirst hn hrest ih =>
    rw [← htext, hps.freeNumber_eq hd] at hn
    subst hn
    obtain ⟨qs, hqs, hshown⟩ | hnumber := hps.hide hd htext
    . exact ih hd hqs hshown
    . exact .inr ⟨_, ps, _, _, _, _, hps, htext, hnumber, hrest⟩

end Substitution
end YamlOrder
