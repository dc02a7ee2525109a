import YamlOrder.Proofs.Shield.Match

/-!
This module contains the theory of hiding: although a match is replaced where it occurs first, every
match is replaced at its own place, by a token that is new to the text.
-/

namespace YamlOrder
namespace Substitution

open Pattern (Fences Unmatched Scanned laid)
open Piece (shownText meantText subs)

variable {kind : Text}

/-- None of the texts begins in `before`. -/
def Quiet (ms : List Text) (before after : Text) : Prop :=
  ∀ m ∈ ms, ∀ i < before.length, ¬ m <+: (before ++ after).drop i

theorem Fenced.prefix_or_infix {m u v w : Text} (hm : Fenced kind m)
    (hv : ∀ b ∈ v, IsTokenByte kind b) (h : m <+: u ++ (v ++ w))
    : m <+: u ∨ v <:+: m := by
  by_cases hu : m.length ≤ u.length
  . exact .inl (List.prefix_of_prefix_length_le h (List.prefix_append _ _) hu)
  . by_cases huv : m.length ≤ (u ++ v).length
    . exfalso
      obtain ⟨m', b, rfl, hb⟩ := hm.last
      have hpre : m' ++ [b] <+: u ++ v := by
        refine List.prefix_of_prefix_length_le h ?_ huv
        rw [← List.append_assoc]
        exact List.prefix_append _ _
      have hum : u <+: m' := by
        refine List.prefix_of_prefix_length_le (List.prefix_append u v)
          ((List.prefix_append m' [b]).trans hpre) ?_
        simp only [List.length_append, List.length_cons, List.length_nil] at hu
        omega
      obtain ⟨x, rfl⟩ := hum
      rw [List.append_assoc, List.prefix_append_right_inj] at hpre
      exact hb (hv b (hpre.subset (by simp)))
    . right
      have : u ++ v <+: m := by
        refine List.prefix_of_prefix_length_le ?_ h (by omega)
        rw [← List.append_assoc]
        exact List.prefix_append _ _
      exact (List.suffix_append u v).isInfix.trans this.isInfix

theorem Quiet.gap {p : Pattern} {ms : List Text} {before gap after : Text}
    (hms : ∀ m ∈ ms, ∀ v, p.length? (m ++ v) = some m.length)
    (h : Quiet ms before (gap ++ after)) (hgap : p.Unmatched gap after)
    : Quiet ms (before ++ gap) after := by
  intro m hm i hi hpre
  rw [List.append_assoc] at hpre
  by_cases hlt : i < before.length
  . exact h m hm i hlt hpre
  . rw [List.drop_append, List.drop_eq_nil_of_le (Nat.le_of_not_lt hlt), List.nil_append] at hpre
    obtain ⟨v, hv⟩ := hpre
    have hnone := hgap (i - before.length) (by simp at hi; omega)
    rw [← hv, hms m hm v] at hnone
    exact absurd hnone (by simp)

theorem Quiet.hide {ms : List Text} {before found after : Text} {n : Nat}
    (hms : ∀ m ∈ ms, Fenced kind m ∧ m <:+: after)
    (hfresh : ¬ token kind n <:+: before ++ (found ++ after))
    (h : Quiet ms before (found ++ after))
    : Quiet ms (before ++ token kind n) after := by
  intro m hm i hi hpre
  obtain ⟨hfence, hinfix⟩ := hms m hm
  rw [List.append_assoc] at hpre
  by_cases hlt : i < before.length
  . rw [List.drop_append_of_le_length (by omega)] at hpre
    cases hfence.prefix_or_infix (fun b => isTokenByte_of_mem_token) hpre with
    | inl hpre =>
      apply h m hm i hlt
      rw [List.drop_append_of_le_length (by omega)]
      exact hpre.trans (List.prefix_append _ _)
    | inr htoken =>
      apply hfresh
      have : after <:+: before ++ (found ++ after) := by
        rw [← List.append_assoc]
        exact (List.suffix_append _ _).isInfix
      exact (htoken.trans hinfix).trans this
  . rw [List.drop_append, List.drop_eq_nil_of_le (Nat.le_of_not_lt hlt), List.nil_append,
      List.drop_append_of_le_length (by simp at hi; omega)] at hpre
    obtain ⟨b, w, rfl, hb⟩ := hfence.head
    apply hb
    have hne : (token kind n).drop (i - before.length) ≠ [] := by
      simp only [ne_eq, List.drop_eq_nil_iff]
      simp at hi
      omega
    obtain ⟨c, w', hc⟩ := List.exists_cons_of_ne_nil hne
    rw [hc, List.cons_append, List.cons_prefix_cons] at hpre
    rw [hpre.1]
    exact isTokenByte_of_mem_token (List.mem_of_mem_drop (hc ▸ List.mem_cons_self))

theorem Quiet.find?_eq {m : Text} {ms : List Text} {before after : Text}
    (h : Quiet (m :: ms) before (m ++ after))
    : Text.find? m (before ++ (m ++ after)) = some before.length := by
  rw [Text.find?_eq_some_iff]
  constructor
  . rw [List.drop_left]
    exact List.prefix_append _ _
  . exact h m List.mem_cons_self

theorem hide_of_find? (s : Substitution) {m u v : Text}
    (h : Text.find? m (u ++ (m ++ v)) = some u.length)
    : s.hide (u ++ (m ++ v)) m =
      ({ s with
          store := s.store ++ [⟨token s.kind (freeNumber s.kind (u ++ (m ++ v)) s.next), m⟩]
          next := freeNumber s.kind (u ++ (m ++ v)) s.next + 1 },
        u ++ (token s.kind (freeNumber s.kind (u ++ (m ++ v)) s.next) ++ v)) := by
  unfold hide
  dsimp only
  rw [Text.replaceFirst_of_find? h]
  simp

/--
The tokens of the pieces are those that are chosen one after the other, the first number being
`next` or more: the tokens before a piece stand in the text already, those behind it do not.
-/
def Issues (kind : Text) : Text → Nat → List Piece → Prop
  | _, _, [] => True
  | before, next, .plain text :: rest => Issues kind (before ++ text) next rest
  | before, next, .hidden sub :: rest =>
    let n := freeNumber kind (before ++ (sub.value ++ meantText rest)) next
    sub.token = token kind n ∧ Issues kind (before ++ sub.token) (n + 1) rest

/--
The tokens of the pieces have growing numbers, `next` or more, and each of them was new to the text
that it was put into: the tokens before it stood there already, those behind it did not.
-/
def Fresh (kind : Text) : Text → Nat → List Piece → Prop
  | _, _, [] => True
  | before, next, .plain text :: rest => Fresh kind (before ++ text) next rest
  | before, next, .hidden sub :: rest =>
    ∃ n, next ≤ n ∧ sub.token = token kind n ∧
      ¬ sub.token <:+: before ++ (sub.value ++ Piece.meantText rest) ∧
      Fresh kind (before ++ sub.token) (n + 1) rest

theorem Issues.fresh {before : Text} {next : Nat} {ps : List Piece} (h : Issues kind before next ps)
    : Fresh kind before next ps := by
  induction ps generalizing before next with
  | nil => trivial
  | cons p ps ih =>
    cases p with
    | plain text => exact ih h
    | hidden sub =>
      obtain ⟨htoken, hrest⟩ := h
      refine ⟨_, freeNumber_ge next, htoken, ?_, ih hrest⟩
      rw [htoken]
      exact freeNumber_free next

theorem Scanned.stable {p : Pattern} (hp : p.Fences kind) {slots : List (Text × Text)} {tail : Text}
    (h : p.Scanned slots tail)
    : ∀ m ∈ slots.map (·.2), Fenced kind m ∧ ∀ v, p.length? (m ++ v) = some m.length := by
  induction slots with
  | nil => simp
  | cons slot slots ih =>
    obtain ⟨gap, found⟩ := slot
    obtain ⟨_, hfound, hrest⟩ := h
    simp only [List.map_cons, List.mem_cons, forall_eq_or_imp]
    refine ⟨⟨?_, hp.stable hfound⟩, ih hrest⟩
    obtain ⟨m, rest, hsplit, hlen, hfence⟩ := hp.split hfound
    rw [(List.append_inj hsplit hlen.symm).1]
    exact hfence

theorem infix_laid {slots : List (Text × Text)} {tail : Text}
    : ∀ m ∈ slots.map (·.2), m <:+: laid slots tail := by
  induction slots with
  | nil => simp
  | cons slot slots ih =>
    obtain ⟨gap, found⟩ := slot
    simp only [List.map_cons, List.mem_cons, forall_eq_or_imp, Pattern.laid_cons]
    constructor
    . exact (List.prefix_append _ _).isInfix.trans (List.suffix_append _ _).isInfix
    . intro m hm
      refine (ih m hm).trans ?_
      exact ((List.suffix_append found _).trans (List.suffix_append gap _)).isInfix

/-- The pieces of a scan: the gaps as they are, and the matches hidden. -/
def Follows : List (Text × Text) → Text → List Piece → Prop
  | [], tail, ps => ps = [.plain tail]
  | (gap, found) :: slots, tail, ps =>
    ∃ token rest, ps = .plain gap :: .hidden ⟨token, found⟩ :: rest ∧ Follows slots tail rest

theorem Follows.meantText {slots : List (Text × Text)} {tail : Text} {ps : List Piece}
    (h : Follows slots tail ps)
    : meantText ps = laid slots tail := by
  induction slots generalizing ps with
  | nil =>
    obtain rfl := h
    simp [Piece.meant]
  | cons slot slots ih =>
    obtain ⟨token, rest, rfl, hrest⟩ := h
    simp [Piece.meant, ih hrest, laid]

theorem Follows.values {slots : List (Text × Text)} {tail : Text} {ps : List Piece}
    (h : Follows slots tail ps)
    : (subs ps).map (·.value) = slots.map (·.2) := by
  induction slots generalizing ps with
  | nil =>
    obtain rfl := h
    rfl
  | cons slot slots ih =>
    obtain ⟨token, rest, rfl, hrest⟩ := h
    simp [subs, ih hrest]

theorem foldl_hide {p : Pattern} (hp : p.Fences kind) (s : Substitution) (hkind : s.kind = kind)
    (before : Text) (slots : List (Text × Text)) (tail : Text) (hscan : p.Scanned slots tail)
    (hquiet : Quiet (slots.map (·.2)) before (laid slots tail))
    : ∃ ps next, Follows slots tail ps ∧ Issues kind before s.next ps ∧
        (slots.map (·.2)).foldl (fun (s, text) found => s.hide text found)
        (s, before ++ laid slots tail) =
          ({ s with store := s.store ++ subs ps, next }, before ++ shownText ps) := by
  induction slots generalizing s before with
  | nil =>
    refine ⟨[.plain tail], s.next, rfl, trivial, ?_⟩
    simp [subs, Piece.shown]
  | cons slot slots ih =>
    obtain ⟨gap, found⟩ := slot
    have hmatches := Scanned.stable hp hscan
    obtain ⟨hgap, hfound, hrest⟩ := hscan
    have hquiet : Quiet (found :: slots.map (·.2)) (before ++ gap) (found ++ laid slots tail) :=
      hquiet.gap (fun m hm => (hmatches m hm).2) hgap
    simp only [List.map_cons, List.mem_cons, forall_eq_or_imp] at hmatches
    -- the text with the match hidden
    let n := freeNumber s.kind (before ++ gap ++ (found ++ laid slots tail)) s.next
    have hfree : ¬ token kind n <:+: before ++ gap ++ (found ++ laid slots tail) := by
      rw [← hkind]
      exact freeNumber_free s.next
    have hrestQuiet : Quiet (slots.map (·.2)) (before ++ gap) (found ++ laid slots tail) :=
      fun m hm => hquiet m (List.mem_cons_of_mem _ hm)
    have hrestMatches : ∀ m ∈ slots.map (·.2), Fenced kind m ∧ m <:+: laid slots tail :=
      fun m hm => ⟨(hmatches.2 m hm).1, infix_laid m hm⟩
    obtain ⟨ps, next, hfollows, hissues, hfold⟩ :=
      ih { s with store := s.store ++ [⟨token kind n, found⟩], next := n + 1 } hkind _ hrest
        (hrestQuiet.hide hrestMatches hfree)
    refine ⟨.plain gap :: .hidden ⟨token kind n, found⟩ :: ps, next, ⟨_, ps, rfl, hfollows⟩, ?_, ?_⟩
    . have hn : freeNumber kind (before ++ gap ++ (found ++ meantText ps)) s.next = n := by
        rw [hfollows.meantText, ← hkind]
      simp only [Issues, hn]
      exact ⟨trivial, hissues⟩
    . have hhide : s.hide (before ++ gap ++ (found ++ laid slots tail)) found =
          ({ s with store := s.store ++ [⟨token kind n, found⟩], next := n + 1 },
            before ++ gap ++ token kind n ++ laid slots tail) := by
        rw [hide_of_find? s hquiet.find?_eq, hkind]
        simp [n, hkind]
      rw [Pattern.laid_cons, ← List.append_assoc before, List.map_cons, List.foldl_cons]
      change List.foldl _ (s.hide (before ++ gap ++ (found ++ laid slots tail)) found) _ = _
      rw [hhide, hfold]
      simp [subs, Piece.shown]

theorem shield_follows (s : Substitution) (hp : s.pattern.Fences s.kind)
    {slots : List (Text × Text)} {tail : Text} (hscan : s.pattern.Scanned slots tail)
    (hfind : s.pattern.findAll (laid slots tail) = slots.map (·.2))
    : ∃ ps next, Follows slots tail ps ∧ Issues s.kind [] s.next ps ∧
        s.shield (laid slots tail) = ({ s with store := s.store ++ subs ps, next }, shownText ps) :=
          by
  have hquiet : Quiet (slots.map (·.2)) [] (laid slots tail) :=
    fun m _ i hi => absurd hi (Nat.not_lt_zero i)
  obtain ⟨ps, next, hfollows, hissues, hfold⟩ := foldl_hide hp s rfl [] slots tail hscan hquiet
  refine ⟨ps, next, hfollows, hissues, ?_⟩
  unfold shield
  rw [hfind]
  exact hfold

/-- Hiding replaces every match at its own place by a token that is new to the text. -/
theorem shield_eq (s : Substitution) (hp : s.pattern.Fences s.kind) (text : Text)
    : ∃ ps next, meantText ps = text ∧ (subs ps).map (·.value) = s.pattern.findAll text ∧
        (∀ sub ∈ subs ps, Fenced s.kind sub.value) ∧ Fresh s.kind [] s.next ps ∧
        s.shield text = ({ s with store := s.store ++ subs ps, next }, shownText ps) := by
  obtain ⟨slots, tail, rfl, hscan, hfind⟩ := hp.exists_scanned text
  obtain ⟨ps, next, hfollows, hissues, hshield⟩ := s.shield_follows hp hscan hfind
  refine ⟨ps, next, hfollows.meantText, by rw [hfollows.values, hfind], ?_, hissues.fresh, hshield⟩
  intro sub hsub
  have hvalue : sub.value ∈ slots.map (·.2) := by
    rw [← hfollows.values]
    exact List.mem_map_of_mem hsub
  exact (Scanned.stable hp hscan _ hvalue).1

end Substitution
end YamlOrder
