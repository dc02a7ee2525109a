import YamlOrder.Proofs.Shield.RoundTrip

/-!
This module contains the places at which a substitution hides: every match is replaced where it
stands, although the substitution looks for its first occurrence, so a text that occurs several
times is never mistaken for another one. And it contains where the tokens that are put there may
already occur in the document: not in the text that is left when they are given out, but a match
that has been hidden before may hold one of them.
-/

namespace YamlOrder
namespace Pattern

variable {p : Pattern} {text : Text}

/--
The spans of a text from an offset on are those of the matches, from left to right without overlaps:
no match begins between two of them, nor behind the last one.
-/
def Leftmost (p : Pattern) (text : Text) : Nat → List (Nat × Nat) → Prop
  | start, [] => ∀ i, start ≤ i → p.length? (text.drop i) = none
  | start, (offset, n) :: spans =>
    start ≤ offset ∧ (∀ i, start ≤ i → i < offset → p.length? (text.drop i) = none) ∧
    p.length? (text.drop offset) = some n ∧ Leftmost p text (offset + n) spans

/--
What is left of a text from an offset on, with the spans replaced by new texts at their own places.
-/
def replaceSpans (text : Text) : Nat → List (Nat × Nat) → List Text → Text
  | start, (offset, n) :: spans, new :: news =>
    (text.drop start).take (offset - start) ++ (new ++ replaceSpans text (offset + n) spans news)
  | start, _, _ => text.drop start

theorem Unmatched.length?_drop {before gap after : Text} (h : p.Unmatched gap after) {i : Nat}
    (hlow : before.length ≤ i) (hhigh : i < before.length + gap.length)
    : p.length? ((before ++ (gap ++ after)).drop i) = none := by
  rw [List.drop_append, List.drop_eq_nil_of_le hlow, List.nil_append]
  exact h _ (by omega)

theorem Scanned.leftmost (hp : p.Bounded) {slots : List (Text × Text)} {tail : Text}
    (h : p.Scanned slots tail) (before : Text)
    : p.Leftmost (before ++ laid slots tail) before.length (spansOf before.length slots) := by
  induction slots generalizing before with
  | nil =>
    intro i hi
    by_cases hlt : i < before.length + tail.length
    . have htail : p.Unmatched tail [] := h
      simpa using htail.length?_drop hi hlt
    . rw [List.drop_eq_nil_of_le]
      . exact hp.length?_nil
      . simpa using hlt
  | cons slot slots ih =>
    obtain ⟨gap, found⟩ := slot
    obtain ⟨hgap, hfound, hrest⟩ := h
    refine ⟨Nat.le_add_right _ _, fun i => hgap.length?_drop, ?_, ?_⟩
    . have hoffset : before.length + gap.length = (before ++ gap).length := by simp
      rw [laid_cons, hoffset, ← List.append_assoc, List.drop_left]
      exact hfound
    . have hafter := ih hrest (before ++ (gap ++ found))
      simp only [List.length_append, List.append_assoc] at hafter
      rw [Nat.add_assoc]
      exact hafter

end Pattern

namespace Substitution

open Pattern (Leftmost replaceSpans slice spansOf laid)
open Piece (shownText subs)

theorem Follows.shownText_eq {slots : List (Text × Text)} {tail : Text} {ps : List Piece}
    (h : Follows slots tail ps) (before : Text)
    : shownText ps =
        replaceSpans (before ++ laid slots tail) before.length (spansOf before.length slots)
          ((subs ps).map (·.token)) := by
  induction slots generalizing before ps with
  | nil =>
    obtain rfl := h
    simp [Pattern.spansOf, Pattern.replaceSpans, Piece.shown]
  | cons slot slots ih =>
    obtain ⟨gap, found⟩ := slot
    obtain ⟨token, rest, rfl, hrest⟩ := h
    have hafter := ih hrest (before ++ (gap ++ found))
    simp only [List.length_append, List.append_assoc] at hafter
    simp [subs, Pattern.spansOf, Pattern.replaceSpans, Piece.shown, hafter, Nat.add_assoc]

/--
Every match of the pattern, from left to right without overlaps, is replaced at its own place by a
token of its own, and the token stands for this match.
-/
theorem shield_replaces_in_place {s : Substitution} (hs : s = .array ∨ s = .helm) (text : Text)
    : s.pattern.Leftmost text 0 (s.pattern.spans text) ∧
      (s.shield text).2 =
        replaceSpans text 0 (s.pattern.spans text) ((s.shield text).1.store.map (·.token)) ∧
      (s.shield text).1.store.map (·.value) = (s.pattern.spans text).map (slice text) ∧
      (s.shield text).1.store.length = (s.pattern.spans text).length := by
  have hunused : Shield.Unused s := by
    obtain rfl | rfl := hs
    . exact Shield.unused_array
    . exact Shield.unused_helm
  obtain ⟨slots, tail, rfl, hscan, hspans⟩ := hunused.fences.bounded.exists_spansOf text
  have hslices := Pattern.map_slice_spansOf [] slots tail
  have hleftmost := hscan.leftmost hunused.fences.bounded []
  rw [List.nil_append, List.length_nil] at hslices hleftmost
  have hfind : s.pattern.findAll (laid slots tail) = slots.map (·.2) := by
    rw [hunused.fences.findAll_eq, Pattern.spans, hspans, hslices]
  obtain ⟨ps, next, hfollows, _, hshield⟩ := s.shield_follows hunused.fences hscan hfind
  have hvalues := hfollows.values
  rw [hshield, hunused.store, List.nil_append, Pattern.spans, hspans]
  refine ⟨hleftmost, hfollows.shownText_eq [], ?_, ?_⟩
  . exact hvalues.trans hslices.symm
  . have hlength := congrArg List.length (hvalues.trans hslices.symm)
    simpa using hlength

/-- Two equal literals, and one in brackets that are not closed. -/
theorem shield_replaces_in_place_twice
    : (array.shield "a: [[x], [x]").2 = "a: [yamlsort.array.0, yamlsort.array.1" ∧
      array.pattern.spans "a: [[x], [x]" = [(4, 3), (9, 3)] ∧
      (array.shield "a: [[x], [x]").1.store.length = 2 := by
  have hspans : array.pattern.spans "a: [[x], [x]" = [(4, 3), (9, 3)] := by decide +kernel
  have htokens : (array.shield "a: [[x], [x]").1.store.map (·.token) =
    [token "array" 0, token "array" 1] := by
    decide +kernel
  obtain ⟨_, htext, _, hlength⟩ := shield_replaces_in_place (.inl rfl) "a: [[x], [x]"
  rw [hspans] at htext hlength
  rw [htokens] at htext
  refine ⟨?_, hspans, hlength⟩
  rw [htext]
  decide +kernel

end Substitution
namespace Substitution

open Piece (shownText meantText subs)

variable {kind before after p u : Text} {next : Nat} {ps pre post : List Piece} {sub : Substitute}

theorem infix_meantText (hfence : ∀ t ∈ subs ps, Fenced kind t.value)
    (hp : ∀ b ∈ p, IsTokenByte kind b) (h : p <:+: u ++ (meantText ps ++ after))
    : (∃ t ∈ subs ps, p <:+: t.value) ∨ p <:+: u ++ (shownText ps ++ after) := by
  induction ps generalizing u with
  | nil => exact .inr h
  | cons piece ps ih =>
    cases piece with
    | plain text =>
      have ih := ih hfence (u := u ++ text)
      simp only [Piece.meantText_cons, Piece.meant, Piece.shownText_cons, Piece.shown,
        List.append_assoc] at h ih ⊢
      exact ih h
    | hidden sub =>
      simp only [subs, List.mem_cons, forall_eq_or_imp] at hfence
      rw [Piece.meantText_cons, Piece.meant, List.append_assoc] at h
      obtain h | h | h := hfence.1.infix_append hp h
      . exact .inr (h.trans (List.prefix_append _ _).isInfix)
      . exact .inl ⟨sub, by simp [subs], h⟩
      . obtain ⟨t, ht, h⟩ | h := ih hfence.2 (u := []) h
        . exact .inl ⟨t, List.mem_cons_of_mem sub ht, h⟩
        . refine .inr (h.trans ?_)
          exact ⟨u ++ sub.token, [], by simp [Piece.shown]⟩

theorem Fresh.not_infix (h : Fresh kind before next (pre ++ .hidden sub :: post))
    : ¬ sub.token <:+: before ++ (shownText pre ++ (sub.value ++ meantText post)) := by
  induction pre generalizing before next with
  | nil =>
    obtain ⟨_, _, _, hfresh, _⟩ := h
    exact hfresh
  | cons p pre ih =>
    cases p with
    | plain text => simpa [Piece.shown] using ih h
    | hidden s =>
      obtain ⟨_, _, _, _, hrest⟩ := h
      simpa [Piece.shown] using ih hrest

theorem exists_pieces_of_subs {older newer : List Substitute} (h : subs ps = older ++ sub :: newer)
    : ∃ pre post, ps = pre ++ .hidden sub :: post ∧ subs pre = older := by
  induction ps generalizing older with
  | nil => simp [subs] at h
  | cons p ps ih =>
    cases p with
    | plain text =>
      obtain ⟨pre, post, rfl, hpre⟩ := ih h
      exact ⟨.plain text :: pre, post, rfl, hpre⟩
    | hidden s =>
      cases older with
      | nil =>
        obtain ⟨rfl, -⟩ := List.cons.inj h
        exact ⟨[], ps, rfl, rfl⟩
      | cons t older =>
        obtain ⟨rfl, hrest⟩ := List.cons.inj h
        obtain ⟨pre, post, rfl, hpre⟩ := ih hrest
        exact ⟨.hidden s :: pre, post, rfl, by simp [subs, hpre]⟩

/--
The tokens of a document are all different, and a token occurs in the document exactly if it occurs
within a match that was hidden before it was given out.
-/
theorem shield_tokens_distinct_and_free {s : Substitution} (hs : s = .array ∨ s = .helm)
    (text : Text)
    : ((s.shield text).1.store.map (·.token)).Nodup ∧
      ∀ older sub newer, (s.shield text).1.store = older ++ sub :: newer →
        (sub.token <:+: text ↔ ∃ t ∈ older, sub.token <:+: t.value) := by
  have hunused : Shield.Unused s := by
    obtain rfl | rfl := hs
    . exact Shield.unused_array
    . exact Shield.unused_helm
  obtain ⟨ps, next, rfl, _, hfence, hfresh, hshield⟩ := shield_eq s hunused.fences text
  rw [hshield, hunused.store, List.nil_append]
  refine ⟨hfresh.distinct, fun older sub newer (hstore : subs ps = older ++ sub :: newer) => ?_⟩
  have hmem : sub ∈ subs ps := hstore ▸ List.mem_append_right older List.mem_cons_self
  obtain ⟨n, _, htoken⟩ := hfresh.numbered sub hmem
  obtain ⟨pre, post, rfl, rfl⟩ := exists_pieces_of_subs hstore
  constructor
  . intro hinfix
    have htext : meantText (pre ++ .hidden sub :: post) = [] ++
      (meantText pre ++ (sub.value ++ meantText post)) := by
      simp [meantText, Piece.meant]
    have hbytes : ∀ b ∈ sub.token, IsTokenByte s.kind b := by
      rw [htoken]
      exact fun b => isTokenByte_of_mem_token
    rw [htext] at hinfix
    apply (infix_meantText (fun t ht => hfence t ?_) hbytes hinfix).resolve_right hfresh.not_infix
    simp [ht]
  . rintro ⟨t, ht, hinfix⟩
    exact hinfix.trans (value_infix_meantText (by simp [ht]))

/-- The second token occurs in the first match, and the first one nowhere. -/
theorem shield_tokens_nested
    : (array.shield "[yamlsort.array.1] [b]").1.store =
        [] ++ ⟨token "array" 0, "[yamlsort.array.1]"⟩ :: [⟨token "array" 1, "[b]"⟩] ∧
      ¬ token "array" 0 <:+: "[yamlsort.array.1] [b]" ∧
      (array.shield "[yamlsort.array.1] [b]").1.store =
        [⟨token "array" 0, "[yamlsort.array.1]"⟩] ++ ⟨token "array" 1, "[b]"⟩ :: [] ∧
      token "array" 1 <:+: "[yamlsort.array.1] [b]" := by
  have hall := (shield_tokens_distinct_and_free (.inl rfl) "[yamlsort.array.1] [b]").2
  have hstore : (array.shield "[yamlsort.array.1] [b]").1.store =
      [⟨token "array" 0, "[yamlsort.array.1]"⟩, ⟨token "array" 1, "[b]"⟩] := by
    decide +kernel
  refine ⟨hstore, ?_, hstore, ?_⟩
  . rw [hall [] ⟨token "array" 0, "[yamlsort.array.1]"⟩ _ hstore]
    simp
  . rw [hall [⟨token "array" 0, "[yamlsort.array.1]"⟩] ⟨token "array" 1, "[b]"⟩ [] hstore]
    refine ⟨_, List.mem_singleton_self _, ?_⟩
    decide +kernel

/--
A token that stands in a match becomes free when the match is hidden, and is given out for the next
one.
-/
theorem shield_tokens_not_free
    : ¬ ∀ s : Substitution, s = .array ∨ s = .helm → ∀ text : Text,
        ((s.shield text).1.store.map (·.token)).Nodup ∧
          ∀ sub ∈ (s.shield text).1.store, ¬ sub.token <:+: text := by
  intro h
  have hfree := (h .array (.inl rfl) "[yamlsort.array.1] [b]").2 ⟨token "array" 1, "[b]"⟩
  apply hfree
  . decide +kernel
  . decide +kernel

end Substitution
end YamlOrder
