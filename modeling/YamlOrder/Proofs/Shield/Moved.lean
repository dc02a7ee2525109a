import YamlOrder.Proofs.Shield.RoundTrip

/-!
This module contains the restoring of a text in which the tokens of a document have been moved: each
of them is replaced by what it stands for, and everything between them is kept.
-/

namespace YamlOrder
namespace Piece

/-- A text before the first token, and every token with the text behind it. -/
def woven (first : Text) (parts : List (Substitute × Text)) : List Piece :=
  .plain first :: parts.flatMap fun (sub, text) => [.hidden sub, .plain text]

variable (first : Text) (parts : List (Substitute × Text))

theorem shownText_woven
    : shownText (woven first parts) = first ++ parts.flatMap fun (sub, text) =>
      sub.token ++ text := by
  induction parts generalizing first with
  | nil => simp [woven, shown]
  | cons part parts ih =>
    have hrest := ih part.2
    simp only [woven, shownText_cons, shown] at hrest
    simp [woven, shown, hrest]

theorem meantText_woven
    : meantText (woven first parts) = first ++ parts.flatMap fun (sub, text) =>
      sub.value ++ text := by
  induction parts generalizing first with
  | nil => simp [woven, meant]
  | cons part parts ih =>
    have hrest := ih part.2
    simp only [woven, meantText_cons, meant] at hrest
    simp [woven, meant, hrest]

theorem subs_woven : subs (woven first parts) = parts.map (·.1) := by
  induction parts generalizing first with
  | nil => rfl
  | cons part parts ih => exact congrArg (part.1 :: ·) (ih part.2)

theorem run_woven : run (woven first parts) = first := by
  cases parts with
  | nil => exact List.append_nil first
  | cons part parts => exact List.append_nil first

end Piece

namespace Substitution

open Piece (shownText subs woven)

variable {s : Substitution} {first : Text} {parts : List (Substitute × Text)} {kind : Text}
  {store : List Substitute}

theorem not_prefix_of_head? {m n : Nat} {rest : Text}
    (hdigit : ∀ b ∈ rest.head?, Text.isDigit b = false)
    (hlong : (token kind m).length < (token kind n).length)
    : ¬ token kind n <+: token kind m ++ rest := by
  rintro ⟨v, hv⟩
  have hget : (token kind m ++ rest)[(token kind m).length]? =
    (token kind n)[(token kind m).length]? := by
    rw [← hv, List.getElem?_append_left hlong]
  rw [List.getElem?_append_right (Nat.le_refl _), Nat.sub_self, ← List.head?_eq_getElem?,
    List.getElem?_eq_getElem hlong] at hget
  have hstart : (tokenStart kind).length ≤ (token kind m).length :=
    (tokenStart_prefix_token m).length_le
  have hisDigit := isDigit_of_getElem?_token hstart (List.getElem?_eq_getElem hlong)
  rw [hdigit _ hget] at hisDigit
  exact absurd hisDigit Bool.false_ne_true

theorem head?_shownText_woven (hnumbered : ∀ part ∈ parts, ∃ n, part.1.token = token kind n)
    (hdigit : ∀ b ∈ first.head?, Text.isDigit b = false)
    : ∀ b ∈ (shownText (woven first parts)).head?, Text.isDigit b = false := by
  intro b hb
  rw [Piece.shownText_woven] at hb
  cases first with
  | cons c first => exact hdigit b hb
  | nil =>
    cases parts with
    | nil => simp at hb
    | cons part parts =>
      obtain ⟨n, hn⟩ := hnumbered part List.mem_cons_self
      simp only [List.nil_append, List.flatMap_cons, hn, token, List.append_assoc,
        List.head?_append,
        head?_tokenStart, Option.some_or, Option.mem_def, Option.some.injEq] at hb
      rw [← hb]
      decide

theorem clear_woven (hstore : ∀ t ∈ store, ∃ n, t.token = token kind n)
    (hnumbered : ∀ part ∈ parts, ∃ n, part.1.token = token kind n)
    (hfree : ∀ part ∈ parts, ¬ tokenStart kind <:+: part.2)
    (hdigit : ∀ part ∈ parts, ∀ b ∈ part.2.head?, Text.isDigit b = false)
    : Piece.Clear kind store (woven first parts) := by
  induction parts generalizing first with
  | nil => trivial
  | cons part parts ih =>
    simp only [List.mem_cons, forall_eq_or_imp] at hnumbered hfree hdigit
    refine ⟨hnumbered.1, ?_, ?_, ih hnumbered.2 hfree.2 hdigit.2⟩
    . intro t ht hlong
      obtain ⟨m, hm⟩ := hnumbered.1
      obtain ⟨n, hn⟩ := hstore t ht
      rw [hm, hn] at hlong ⊢
      exact not_prefix_of_head? (head?_shownText_woven hnumbered.2 hdigit.1) hlong
    . change ¬ tokenStart kind <:+: Piece.run (woven part.2 parts)
      rw [Piece.run_woven]
      exact hfree.1

/--
Wherever the tokens of a document stand in a text, in whatever order and with some of them missing,
each of them is replaced by what it stands for, and what stands between them is kept: it must not
hold the start of a token, nor go on with a digit behind one.
-/
theorem restore_moved_tokens (hs : s = .array ∨ s = .helm) (document first : Text)
    (parts : List (Substitute × Text))
    (hdocument : Text.occursIn (tokenStart s.kind) document = false)
    (hstored : ∀ part ∈ parts, part.1 ∈ (s.shield document).1.store)
    (hdistinct : (parts.map (·.1.token)).Nodup)
    (hfirst : Text.occursIn (tokenStart s.kind) first = false)
    (hparts : ∀ part ∈ parts, Text.occursIn (tokenStart s.kind) part.2 = false ∧
      ∀ b ∈ part.2.head?, Text.isDigit b = false)
    : (s.shield document).1.restore (first ++ parts.flatMap fun (sub, text) => sub.token ++ text) =
        first ++ parts.flatMap fun (sub, text) => sub.value ++ text := by
  have hunused : Shield.Unused s := by
    obtain rfl | rfl := hs
    . exact Shield.unused_array
    . exact Shield.unused_helm
  have hfree {text : Text} (h : Text.occursIn (tokenStart s.kind) text = false) : ¬ tokenStart
      s.kind <:+: text := by
    rw [← Text.occursIn_iff, h]
    exact Bool.false_ne_true
  have hissued := s.issued_shield hunused.fences hunused.store (hfree hdocument)
  have hkind : (s.shield document).1.kind = s.kind := by
    obtain ⟨_, _, _, _, _, _, hshield⟩ := shield_eq s hunused.fences document
    rw [hshield]
  have hapart := hunused.apart
  rw [← hkind] at hfree hapart hparts hfirst
  have hhides : (s.shield document).1.Hides (woven first parts) := {
    clear := clear_woven hissued.numbered (fun part h => hissued.numbered _ (hstored part h))
      (fun part h => hfree (hparts part h).1) (fun part h => (hparts part h).2)
    run := by
      rw [Piece.run_woven]
      exact hfree hfirst
    nodup := by
      rw [Piece.subs_woven]
      apply List.Nodup.of_map (·.token)
      rw [List.map_map]
      exact hdistinct
    stored := by
      intro t ht
      rw [Piece.subs_woven, List.mem_map] at ht
      obtain ⟨part, hpart, rfl⟩ := ht
      exact hstored part hpart
  }
  rw [← Piece.shownText_woven, ← Piece.meantText_woven]
  exact restore_shownText hapart hissued hhides

/-- Two of three tokens in another order, one of them in quotes. -/
theorem restore_moved_tokens_swapped
    : Text.occursIn (tokenStart array.kind) "[x] [y] [z]" = false ∧
      ⟨token "array" 2, "[z]"⟩ ∈ (array.shield "[x] [y] [z]").1.store ∧
      ⟨token "array" 0, "[x]"⟩ ∈ (array.shield "[x] [y] [z]").1.store ∧
      (array.shield "[x] [y] [z]").1.restore "\"yamlsort.array.2\": yamlsort.array.0" =
      "\"[z]\": [x]" := by
  have hstore : (array.shield "[x] [y] [z]").1.store =
      [⟨token "array" 0, "[x]"⟩, ⟨token "array" 1, "[y]"⟩, ⟨token "array" 2, "[z]"⟩] := by
    decide +kernel
  have hrestore := restore_moved_tokens (s := array) (.inl rfl) "[x] [y] [z]" "\""
    [(⟨token "array" 2, "[z]"⟩, "\": "), (⟨token "array" 0, "[x]"⟩, "")] (by decide +kernel)
      (by simp [hstore])
    (by decide +kernel) (by decide +kernel) (by decide +kernel)
  exact ⟨by decide +kernel, by simp [hstore], by simp [hstore], hrestore⟩

end Substitution
end YamlOrder
