import YamlOrder.Proofs.Shield.Intact

/-!
This module contains the round trip of octal numbers. A number is hidden where its digits are found
first, which may be inside of a token that was put in before: then that token is lost, and the text
does not come back.
-/

namespace YamlOrder
namespace Pattern

variable {text m v : Text}

/-- Four digits, the first of them 0. -/
structure Octal (m : Text) : Prop where
  numeral : Substitution.Numeral m
  zero : m.head? = some 48
  length : m.length = 4

theorem length?_octal_eq_some {t : Text} {n : Nat} (h : octal.length? t = some n)
    : n = 4 ∧ ∃ a b c rest, t = 48 :: a :: b :: c :: rest ∧
      ([a, b, c].all fun d => 48 ≤ d && d ≤ 55) = true := by
  unfold octal at h
  dsimp only at h
  split at h
  . next a b c rest =>
    split at h
    . next hdigits => exact ⟨(Option.some.inj h).symm, a, b, c, rest, rfl, hdigits⟩
    . exact absurd h (by simp)
  . exact absurd h (by simp)

theorem bounded_octal : octal.Bounded := by
  intro t n h
  obtain ⟨rfl, a, b, c, rest, rfl, -⟩ := length?_octal_eq_some h
  simp

theorem isDigit_of_octal {d : UInt8} (h : (48 ≤ d && d ≤ 55) = true) : Text.isDigit d = true := by
  simp only [Text.isDigit, Bool.and_eq_true, decide_eq_true_eq] at h ⊢
  exact ⟨h.1, UInt8.le_trans h.2 (by decide)⟩

theorem octal_of_mem (h : m ∈ octal.findAll text) : Octal m := by
  obtain ⟨-, -, -, -, hfound⟩ := bounded_octal.exists_laid text
  obtain ⟨v, hv⟩ := hfound m h
  obtain ⟨hlength, a, b, c, rest, hsplit, hdigits⟩ := length?_octal_eq_some hv
  have hsplit : m ++ v = [48, a, b, c] ++ rest := hsplit
  obtain rfl : m = [48, a, b, c] := (List.append_inj hsplit hlength).1
  refine ⟨⟨by simp, ?_⟩, rfl, rfl⟩
  simp only [List.mem_cons, forall_eq_or_imp, List.not_mem_nil, false_implies,
    implies_true, and_true]
  simp only [List.all_cons, List.all_nil, Bool.and_true, Bool.and_eq_true] at hdigits
  exact ⟨by decide, isDigit_of_octal (by simpa using hdigits.1),
    isDigit_of_octal (by simpa using hdigits.2.1),
    isDigit_of_octal (by simpa using hdigits.2.2)⟩

theorem Octal.not_infix_ofNat (hm : Octal m) {n : Nat} (hn : n < 10000)
    : ¬ m <:+: Text.ofNat n := by
  rintro ⟨u, v, huv⟩
  have hshort : (Text.ofNat n).length ≤ 4 := (Text.length_ofNat_le_iff (by decide)).mpr (by omega)
  have hfour := hm.length
  rw [← huv, List.length_append, List.length_append] at hshort
  obtain rfl : u = [] := List.length_eq_zero_iff.mp (by omega)
  have hzero : n = 0 := by
    apply Text.eq_zero_of_head?_ofNat
    rw [← huv, List.nil_append, List.head?_append, hm.zero, Option.some_or]
  have hone := (Text.length_ofNat_le_iff (n := n) Nat.one_pos).mpr (by omega)
  rw [← huv, List.nil_append, List.length_append] at hone
  omega

end Pattern

namespace Substitution

open Pattern (Octal)
open Piece (shownText meantText subs InNumber)
open Text (isDigit occurrences)

variable {s s' : Substitution} {kind document text text' u v m : Text} {all ms : List Text}
  {ps : List Piece}

/-- Nowhere in a document does a digit follow one of the texts. -/
def Unglued (all : List Text) (document : Text) : Prop :=
  ∀ m ∈ all, ∀ t ∈ document.tails, m <+: t → (t.drop m.length).head?.all (!isDigit ·)

instance (all : List Text) (document : Text) : Decidable (Unglued all document) :=
  inferInstanceAs (Decidable (∀ m ∈ all, ∀ t ∈ document.tails, _))

theorem Unglued.isDigit_next (h : Unglued all document) {pre post : List Piece} {t : Substitute}
    (hmeant : meantText (pre ++ .hidden t :: post) = document) (hvalue : t.value ∈ all)
    (hps : ∀ x ∈ subs post, ∃ n, x.token = token kind n) {b : UInt8}
    (hb : (shownText post).head? = some b)
    : isDigit b = false := by
  by_contra hdigit
  rw [Bool.not_eq_false] at hdigit
  have hhead := Piece.head?_meantText_of_isDigit hps hb hdigit
  have hdocument : document = meantText pre ++ (t.value ++ meantText post) := by
    rw [← hmeant]
    simp [meantText, Piece.meant]
  have htail : t.value ++ meantText post ∈ document.tails := by
    rw [List.mem_tails, hdocument]
    exact List.suffix_append _ _
  have hnext := h t.value hvalue _ htail (List.prefix_append _ _)
  rw [List.drop_left, hhead] at hnext
  simp [hdigit] at hnext

theorem length_token (kind : Text) (n : Nat)
    : (token kind n).length = (tokenStart kind).length + (Text.ofNat n).length := by
  simp [token]

theorem legible_of_length_le (hall : all.length ≤ 10) : Legible kind document all := by
  intro pre t post _ hmem k hk hlong
  obtain ⟨-, n, -, htoken⟩ := hmem t (by simp [subs])
  have hshort := (Text.length_ofNat_le_iff (n := k) Nat.one_pos).mpr (by omega)
  have hpos := List.length_pos_iff.mpr (Text.ofNat_ne_nil n)
  rw [htoken, length_token, length_token] at hlong
  omega

theorem Unglued.legible (h : Unglued all document) : Legible kind document all := by
  intro pre t post hmeant hmem k _ hlong hpre
  obtain ⟨hvalue, n, -, htoken⟩ := hmem t (by simp [subs])
  have hps : ∀ x ∈ subs post, ∃ n, x.token = token kind n := by
    intro x hx
    obtain ⟨-, n, -, hxtoken⟩ := hmem x (by simp [subs, hx])
    exact ⟨n, hxtoken⟩
  obtain ⟨w, hw⟩ : t.token <+: token kind k :=
    List.prefix_of_prefix_length_le (List.prefix_append _ _) hpre (Nat.le_of_lt hlong)
  rw [← hw, List.prefix_append_right_inj] at hpre
  have hdigits : Text.ofNat n ++ w = Text.ofNat k := by
    rw [htoken, token, token, List.append_assoc] at hw
    exact List.append_cancel_left hw
  cases w with
  | nil => simp [← hw] at hlong
  | cons b w =>
    obtain ⟨v, hv⟩ := hpre
    have hb : isDigit b = true := Text.isDigit_of_mem_ofNat (n := k) (by simp [← hdigits])
    have hnext := h.isDigit_next (b := b) hmeant hvalue hps (by simp [← hv])
    simp [hb] at hnext

theorem Unglued.not_inNumber (h : Unglued all document) (hm : Octal m)
    (hps : Intact s document all (m :: ms) ps) (hall : all.length ≤ 10001)
    : ¬ InNumber s.kind ps u (m ++ v) := by
  rintro ⟨pre, t, post, n, d, d', rfl, htoken, hn, hd', -, hrest⟩
  have hstored : ∀ x ∈ subs (pre ++ .hidden t :: post), x ∈ s.store :=
    fun x hx => hps.stored.mem_iff.mp hx
  have ht := hstored t (by simp [subs])
  obtain ⟨k, hk, hktoken⟩ := hps.exists_token ht
  obtain rfl : n = k := token_injective (htoken.symm.trans hktoken)
  have hnext := hps.next_add
  rw [List.length_cons] at hnext
  have hinside := hm.not_infix_ofNat (n := n) (by omega)
  obtain ⟨w, hdw, -⟩ | ⟨w, hmw, hw⟩ := List.append_eq_append_iff.mp hrest
  . exact hinside ⟨d, w, by rw [hn, hdw, List.append_assoc]⟩
  . cases w with
    | nil => exact hinside ⟨d, [], by rw [hn, hmw]; simp⟩
    | cons b w =>
      -- the digits of the number that are not in the token follow it
      have hb : isDigit b = true := hm.numeral.2 b (by simp [hmw])
      have hpost : ∀ x ∈ subs post, ∃ n, x.token = token s.kind n :=
        fun x hx => hps.numbered.numbered x (hstored x (by simp [subs, hx]))
      have hnext := h.isDigit_next (b := b) hps.meant (hps.value_mem ht) hpost (by simp [hw])
      simp [hb] at hnext

/-! ### A token that is lost -/

theorem ofNat_zero : Text.ofNat 0 = [48] := by decide

theorem Telling.apart_token_zero (hkind : Telling kind)
    : Text.Apart (token kind 0) (tokenStart kind) := by
  rw [token, ofNat_zero]
  refine ⟨by simp, fun k hk hpos hpre => ?_⟩
  rw [List.length_append, List.length_singleton] at hk
  rw [List.drop_append_of_le_length (by omega)] at hpre
  by_cases hlt : k < (tokenStart kind).length
  . exact hkind.apart.2 k hlt hpos ((List.prefix_append _ _).trans hpre)
  . rw [List.drop_eq_nil_of_le (by omega), List.nil_append] at hpre
    have := hkind.digitless 48 (hpre.subset (by simp))
    exact absurd this (by decide)

theorem eq_zero_of_prefix {n : Nat} (h : token kind 0 <+: token kind n ++ v) : n = 0 := by
  rw [token, token, ofNat_zero, List.append_assoc, List.prefix_append_right_inj] at h
  obtain ⟨w, hw⟩ := h
  apply Text.eq_zero_of_head?_ofNat
  rw [← List.head?_append_of_ne_nil _ (Text.ofNat_ne_nil n), ← hw]
  rfl

theorem Telling.not_infix_append (hkind : Telling kind) {n : Nat} (hn : 0 < n)
    (hu : ¬ token kind 0 <:+: u) (hv : ¬ token kind 0 <:+: v)
    : ¬ token kind 0 <:+: u ++ (token kind n ++ v) := by
  intro hinfix
  obtain ⟨j, hpre⟩ := Text.exists_prefix_drop_of_infix hinfix
  by_cases hj : j < u.length
  . apply hu
    have hstart : tokenStart kind <+: token kind n ++ v :=
      (tokenStart_prefix_token n).trans (List.prefix_append _ _)
    exact hkind.apart_token_zero.infix_of_prefix_drop hj (.inr hstart) hpre
  . rw [List.drop_append, List.drop_eq_nil_of_le (by omega), List.nil_append] at hpre
    by_cases hjn : j - u.length < (token kind n).length
    . cases hzero : j - u.length with
      | zero =>
        rw [hzero, List.drop_zero] at hpre
        have := eq_zero_of_prefix hpre
        omega
      | succ i =>
        apply not_prefix_drop_token hkind.apart (by omega) hjn
        exact (tokenStart_prefix_token 0).trans hpre
    . rw [List.drop_append, List.drop_eq_nil_of_le (by omega), List.nil_append] at hpre
      exact hv (hpre.isInfix.trans (List.drop_suffix _ _).isInfix)

theorem Hiding.not_infix (h : Hiding s text ms s' text') (hkind : Telling s.kind)
    (hnext : 0 < s.next) (hfree : ¬ token s.kind 0 <:+: text)
    : ¬ token s.kind 0 <:+: text' := by
  induction h with
  | done => exact hfree
  | hide _ hn _ ih =>
    have hpos : 0 < _ := Nat.lt_of_lt_of_le hnext (hn ▸ freeNumber_ge _)
    apply ih hkind (Nat.succ_pos _)
    apply hkind.not_infix_append hpos
    . exact fun hu => hfree (hu.trans (List.prefix_append _ _).isInfix)
    . exact fun hv =>
        hfree (hv.trans ((List.suffix_append _ _).trans (List.suffix_append _ _)).isInfix)

theorem Hides.place_eq (h : s.Hides ps) (hkind : Telling s.kind) (hs : s.Numbered)
    {pre post : List Piece} {t : Substitute} (hps : ps = pre ++ .hidden t :: post)
    (ht : t.token = token s.kind 0) {j : Nat} (hj : token s.kind 0 <+: (shownText ps).drop j)
    : j = (shownText pre).length := by
  obtain ⟨pre', t', post', hps', rfl⟩ :=
    Piece.exists_hidden_of_prefix_drop hkind.apart h.clear h.run
    ((tokenStart_prefix_token 0).trans hj)
  have hmem' : t' ∈ s.store := h.stored t' (by simp [hps', subs])
  have hmem : t ∈ s.store := h.stored t (by simp [hps, subs])
  obtain ⟨n, hn⟩ := hs.numbered t' hmem'
  rw [hps', drop_shownText, Piece.shownText_cons, Piece.shown, hn] at hj
  have htoken : t'.token = t.token := by rw [hn, eq_zero_of_prefix hj, ht]
  obtain rfl : t' = t := List.inj_on_of_nodup_map hs.distinct hmem' hmem htoken
  have hnodup := h.nodup
  rw [hps', Piece.subs_append, subs, List.nodup_append, List.nodup_cons] at hnodup
  have hpre : .hidden t' ∉ pre' :=
    fun hmem => hnodup.2.2 t' (Piece.mem_subs_iff.mpr hmem) t' List.mem_cons_self rfl
  have hpost : .hidden t' ∉ post' := fun hmem => hnodup.2.1.1 (Piece.mem_subs_iff.mpr hmem)
  rw [((List.append_cons_inj_of_notMem hpre hpost).mp (hps'.symm.trans hps)).1]

theorem Intact.exists_first (h : Intact s document all (m :: ms) ps) (hall : all.length ≤ 10)
    (hm : Octal m) (hnumber : InNumber s.kind ps u (m ++ v))
    : ∃ pre t post, ps = pre ++ .hidden t :: post ∧ t.token = token s.kind 0 ∧
        u = shownText pre ++ tokenStart s.kind := by
  obtain ⟨pre, t, post, n, d, d', rfl, htoken, hn, hd', rfl, hrest⟩ := hnumber
  obtain ⟨k, hk, hktoken⟩ := h.exists_token (h.stored.mem_iff.mp (by simp [subs] : t ∈ _))
  obtain rfl : n = k := token_injective (htoken.symm.trans hktoken)
  have hnext := h.next_add
  rw [List.length_cons] at hnext
  have hone := (Text.length_ofNat_le_iff (n := n) Nat.one_pos).mpr (by omega)
  have hpos := List.length_pos_iff.mpr hd'
  rw [hn, List.length_append] at hone
  obtain rfl : d = [] := List.length_eq_zero_iff.mp (by omega)
  have hzero : n = 0 := by
    apply Text.eq_zero_of_head?_ofNat
    have hhead := congrArg List.head? hrest
    rw [List.head?_append_of_ne_nil _ hm.numeral.1, hm.zero,
      List.head?_append_of_ne_nil _ hd'] at hhead
    rw [hn, List.nil_append, hhead]
  exact ⟨pre, t, post, rfl, hzero ▸ htoken, by simp⟩

theorem Hides.not_infix_of_first (h : s.Hides ps) (hkind : Telling s.kind) (hs : s.Numbered)
    {pre post : List Piece} {t : Substitute} (hps : ps = pre ++ .hidden t :: post)
    (ht : t.token = token s.kind 0)
    (hshown : shownText ps = shownText pre ++ tokenStart s.kind ++ v)
    : ¬ token s.kind 0 <:+: shownText pre ++ tokenStart s.kind ∧ ¬ token s.kind 0 <:+: v := by
  have hplace {j : Nat} (hj : token s.kind 0 <+: (shownText ps).drop j) :=
    h.place_eq hkind hs hps ht hj
  have hlength := length_token s.kind 0
  rw [ofNat_zero, List.length_singleton] at hlength
  constructor
  . intro hinfix
    obtain ⟨j, hpre⟩ := Text.exists_prefix_drop_of_infix hinfix
    have hj : j = (shownText pre).length := by
      apply hplace
      rw [hshown, List.drop_append]
      exact hpre.trans (List.prefix_append _ _)
    have := hpre.length_le
    rw [hj, List.drop_left] at this
    omega
  . intro hinfix
    obtain ⟨j, hpre⟩ := Text.exists_prefix_drop_of_infix hinfix
    have hj : (shownText pre ++ tokenStart s.kind).length + j = (shownText pre).length := by
      apply hplace
      rw [hshown, ← List.drop_drop, List.drop_left]
      exact hpre
    have := @two_le_length_tokenStart s.kind
    rw [List.length_append] at hj
    omega

theorem Intact.head?_store (h : Intact s document all ms ps) (hnext : 0 < s.next)
    : ∃ sub rest, s.store = sub :: rest ∧ sub.token = token s.kind 0 := by
  have htokens := h.tokens
  obtain ⟨n, hn⟩ := Nat.exists_eq_succ_of_ne_zero (Nat.pos_iff_ne_zero.mp hnext)
  rw [hn, List.range_succ_eq_map, List.map_cons] at htokens
  obtain ⟨sub, rest, hstore, hsub, -⟩ := List.map_eq_cons_iff.mp htokens
  exact ⟨sub, rest, hstore, hsub⟩

theorem lost_ne_nil_of_head {sub : Substitute} {rest : List Substitute}
    (hstore : s.store = sub :: rest) (hfree : ¬ sub.token <:+: text)
    : s.lost text ≠ [] := by
  have hnone : s.findToken? sub.token text = none := by
    rw [Option.eq_none_iff_forall_ne_some]
    intro i hi
    exact hfree ((findToken?.go_prefix hi).isInfix.trans (List.drop_suffix i text).isInfix)
  rw [lost, hstore, lost.go, hnone]
  simp

theorem Breaks.lost_ne_nil (h : Breaks document all s' text') (hd : Tractable s'.kind document all)
    (hoctal : ∀ m ∈ all, Octal m) (hall : all.length ≤ 10)
    : s'.lost text' ≠ [] := by
  obtain ⟨s, ps, u, m, v, ms, hps, hshown, hnumber, hrun⟩ := h
  have hkind : s'.kind = s.kind := hrun.kind_eq
  rw [hkind] at hd
  have hm : Octal m := hoctal m (by simp [← hps.values])
  obtain ⟨pre, t, post, hsplit, ht, rfl⟩ := hps.exists_first hall hm hnumber
  have hhides := hps.hides_self hd
  obtain ⟨n, hn, -⟩ := hps.exists_token (hhides.stored t (by simp [hsplit, subs]))
  have hpos : 0 < s.next := by omega
  obtain ⟨hu, hmv⟩ := hhides.not_infix_of_first hd.telling hps.numbered hsplit ht hshown
  have hv : ¬ token s.kind 0 <:+: v := fun hv => hmv (hv.trans (List.suffix_append m v).isInfix)
  have hgone : ¬ token s.kind 0 <:+: text' :=
    hrun.not_infix hd.telling (Nat.succ_pos _) (hd.telling.not_infix_append hpos hu hv)
  obtain ⟨sub, rest, hstore, hsub⟩ := hps.head?_store hpos
  obtain ⟨added, hadded, -⟩ := hrun.exists_store
  rw [store_issue, hstore] at hadded
  exact lost_ne_nil_of_head hadded (hsub ▸ hgone)

theorem telling_octal : Telling octal.kind where
  apart := by decide
  digitless := by
    have hall : (tokenStart octal.kind).all (!isDigit ·) = true := by decide
    simpa using hall

theorem tokenStart_octal : tokenStart octal.kind = "yamlsort.octal." := by decide

theorem tractable_octal (hfree : ¬ tokenStart octal.kind <:+: document)
    (hlegible : Legible octal.kind document (Pattern.octal.findAll document))
    : Tractable octal.kind document (Pattern.octal.findAll document) where
  telling := telling_octal
  free := hfree
  numeral := fun _ hm => (Pattern.octal_of_mem hm).numeral
  legible := hlegible

theorem restore_shield_of_not_breaks
    (hd : Tractable octal.kind document (Pattern.octal.findAll document))
    (hwhole : ¬ Breaks document (Pattern.octal.findAll document) (octal.shield document).1
      (octal.shield document).2)
    : (octal.shield document).1.restore (octal.shield document).2 = document := by
  have hrun := hiding_shield octal Pattern.bounded_octal document
  obtain ⟨qs, hqs, hshown⟩ | hbreaks :=
    hrun.intact_or_breaks hd (intact_start rfl rfl) (List.append_nil document)
  . rw [← hshown]
    exact hqs.restore (hrun.kind_eq ▸ hd)
  . exact absurd hbreaks hwhole

/--
A document comes back exactly if no token is lost, while there are no more than ten octal numbers:
what is not put back stays visible as the start of a token. For more numbers it comes back if they
are not more than 10001, as the next token holds an octal number itself, and if nowhere a digit
follows one of them.
-/
theorem restore_shield_octal (document : Text)
    (hfree : Text.occursIn "yamlsort.octal." document = false)
    : occurrences "yamlsort.octal." ((octal.shield document).1.restore (octal.shield document).2) =
        ((octal.shield document).1.lost (octal.shield document).2).length ∧
      ((Pattern.octal.findAll document).length ≤ 10 →
        ((octal.shield document).1.restore (octal.shield document).2 = document ↔
          (octal.shield document).1.lost (octal.shield document).2 = [])) ∧
      ((Pattern.octal.findAll document).length ≤ 10001 →
        Unglued (Pattern.octal.findAll document) document →
        (octal.shield document).1.restore (octal.shield document).2 = document) := by
  have hstart : ¬ tokenStart octal.kind <:+: document := by
    rw [tokenStart_octal, ← Text.occursIn_iff, hfree]
    exact Bool.false_ne_true
  have hrun := hiding_shield octal Pattern.bounded_octal document
  have hcount := occurrences_restore_shield octal Pattern.bounded_octal telling_octal rfl
    (fun m hm => (Pattern.octal_of_mem hm).numeral) hstart
  refine ⟨tokenStart_octal ▸ hcount, fun hall => ⟨fun heq => ?_, fun hlost => ?_⟩,
    fun hall hunglued => ?_⟩
  . rw [heq, Text.occurrences_eq_zero hstart] at hcount
    exact List.length_eq_zero_iff.mp hcount.symm
  . have hd := tractable_octal hstart (legible_of_length_le hall)
    apply restore_shield_of_not_breaks hd
    intro hbreaks
    exact hbreaks.lost_ne_nil (hrun.kind_eq ▸ hd) (fun m hm => Pattern.octal_of_mem hm) hall hlost
  . apply restore_shield_of_not_breaks (tractable_octal hstart hunglued.legible)
    rintro ⟨s, ps, u, m, v, ms, hps, -, hnumber, -⟩
    have hm : m ∈ Pattern.octal.findAll document := by
      rw [← hps.values]
      simp
    exact hunglued.not_inNumber (Pattern.octal_of_mem hm) hps hall hnumber

/-- Three numbers, the first of them also in the middle of an earlier word. -/
theorem restore_shield_octal_misplaced
    : Text.occursIn "yamlsort.octal." "a: x-0755-y\nb: 0755\nc: 0644 0007" = false ∧
      Unglued
      (Pattern.octal.findAll
        "a: x-0755-y\nb: 0755\nc: 0644 0007") "a: x-0755-y\nb: 0755\nc: 0644 0007" ∧
      (octal.shield "a: x-0755-y\nb: 0755\nc: 0644 0007").2 =
        ("a: x-yamlsort.octal.0-y\nb: 0755\nc: yamlsort.octal.1 yamlsort.octal.2" : Text) ∧
      (octal.shield "a: x-0755-y\nb: 0755\nc: 0644 0007").1.restore
        (octal.shield "a: x-0755-y\nb: 0755\nc: 0644 0007").2 =
        ("a: x-0755-y\nb: 0755\nc: 0644 0007" : Text) := by
  refine ⟨?_, ?_, ?_, (restore_shield_octal _ ?_).2.2 ?_ ?_⟩
  all_goals decide +kernel

/-- The second number is found at the end of the first token, which is lost. -/
theorem restore_shield_octal_ne
    : Text.occursIn "yamlsort.octal." "07550644 0755 0064" = false ∧
      (octal.shield "07550644 0755 0064").2 =
      ("yamlsort.octal.yamlsort.octal.14 0755 0064" : Text) ∧
      (octal.shield "07550644 0755 0064").1.restore (octal.shield "07550644 0755 0064").2 =
        ("yamlsort.octal.00644 0755 0064" : Text) ∧
      (octal.shield "07550644 0755 0064").1.restore (octal.shield "07550644 0755 0064").2 ≠
        ("07550644 0755 0064" : Text) := by
  decide +kernel

end Substitution
end YamlOrder
