import Mathlib.Data.List.Perm.Basic
import YamlOrder.Proofs.Comment.Weave

/-!
This module contains what putting comments back does to any text at all: the lines of the text stay
as they are and in their order, and whole comment lines come between them. Two lists are interleaved
to one in which each of them keeps its order.
-/

namespace YamlOrder

/-- `ws` is made of `us` and `vs`, both in their order. -/
inductive Interleaved {α : Type} : List α → List α → List α → Prop where
  | nil : Interleaved [] [] []
  | left {x : α} {us vs ws : List α} : Interleaved us vs ws → Interleaved (x :: us) vs (x :: ws)
  | right {x : α} {us vs ws : List α} : Interleaved us vs ws → Interleaved us (x :: vs) (x :: ws)

namespace Interleaved

variable {α : Type} {us vs ws vs' ws' : List α}

theorem refl (us : List α) : Interleaved us [] us := by
  induction us with
  | nil => exact .nil
  | cons x us ih => exact ih.left

theorem insert (pre post : List α) (x : α) : Interleaved (pre ++ post) [x] (pre ++ x :: post) := by
  induction pre with
  | nil => exact (refl post).right
  | cons y pre ih => exact ih.left

theorem trans (h : Interleaved us vs ws) (h' : Interleaved ws vs' ws')
    : ∃ added, added.Perm (vs' ++ vs) ∧ Interleaved us added ws' := by
  induction h' generalizing us vs with
  | nil => exact ⟨vs, .refl _, h⟩
  | left _ ih =>
    cases h with
    | left h =>
      obtain ⟨added, hperm, hadded⟩ := ih h
      exact ⟨added, hperm, hadded.left⟩
    | right h =>
      obtain ⟨added, hperm, hadded⟩ := ih h
      exact ⟨_ :: added, (hperm.cons _).trans List.perm_middle.symm, hadded.right⟩
  | right _ ih =>
    obtain ⟨added, hperm, hadded⟩ := ih h
    exact ⟨_ :: added, hperm.cons _, hadded.right⟩

theorem sublist (h : Interleaved us vs ws) : us.Sublist ws := by
  induction h with
  | nil => exact .slnil
  | left _ ih => exact ih.cons_cons _
  | right _ ih => exact ih.cons _

theorem perm (h : Interleaved us vs ws) : ws.Perm (us ++ vs) := by
  induction h with
  | nil => exact .nil
  | left _ ih => exact ih.cons _
  | right _ ih => exact (ih.cons _).trans List.perm_middle.symm

theorem filter (p : α → Bool) (h : Interleaved us vs ws)
    : Interleaved (us.filter p) (vs.filter p) (ws.filter p) := by
  induction h with
  | nil => exact .nil
  | left _ ih =>
    rw [List.filter_cons, List.filter_cons]
    split
    . exact ih.left
    . exact ih
  | right _ ih =>
    rw [List.filter_cons, List.filter_cons]
    split
    . exact ih.right
    . exact ih

end Interleaved

namespace Comment

open Text (newline lines unlines ended)

variable {c : Text}

theorem pairs_of_uncommented {ls : List Text} (h : ∀ l ∈ ls, isComment l = false)
    : pairs ls = [] := by
  induction ls with
  | nil => rfl
  | cons l ls ih =>
    simp only [List.mem_cons, forall_eq_or_imp] at h
    rw [pairs, h.1]
    exact ih h.2

/-- The lines of a text that are not empty. -/
def written (text : Text) : List Text := (lines text).filter (!·.isEmpty)

/--
A text that has all lines of another one in their order, and some more lines; empty lines do not
count.
-/
structure Extends (cs : List Text) (text text' : Text) : Prop where
  sublist : (written text).Sublist (written text')
  perm : ∃ added, added ⊆ cs ∧ (written text').Perm (written text ++ added)

theorem written_dropNewlines (text : Text) : written (Text.dropNewlines text) = written text := by
  obtain ⟨n, hn⟩ := Text.exists_lines_eq_dropNewlines_append text
  rw [written, written, hn, List.filter_append]
  simp

theorem written_append_newline (us : List Text) (t : Text) (hus : ∀ u ∈ us, newline ∉ u)
    : written (ended us ++ t) = us.filter (!·.isEmpty) ++ written t := by
  induction us with
  | nil => simp
  | cons u us ih =>
    simp only [List.mem_cons, forall_eq_or_imp] at hus
    rw [Text.ended_cons, List.append_assoc, List.cons_append, written,
      Text.lines_append_newline hus.1,
      List.filter_cons, ← written, ih hus.2, List.filter_cons]
    split
    all_goals rfl

theorem interleaved_append (hne : c ≠ []) (hline : newline ∉ c) (text : Text)
    : Interleaved (written text) [c] (written (append text c)) := by
  by_cases htext : text = []
  . subst htext
    have hwritten : written (append [] c) = [c] := by
      simp [append, written, Text.lines_of_not_mem hline, hne]
    rw [hwritten]
    exact .insert [] [] c
  . have hwritten : written (append text c) = written text ++ [c] := by
      rw [append_eq_unlines htext, written, Text.lines_unlines (by simp),
        List.filter_append, ← written,
        written_dropNewlines]
      . simp [hne]
      . intro l hl
        rcases List.mem_append.mp hl with hl | hl
        . exact Text.newline_not_mem_of_mem_lines hl
        . simp only [List.mem_singleton] at hl
          exact hl ▸ hline
    rw [hwritten]
    simpa using Interleaved.insert (written text) [] c

theorem exists_take_lineStart (text : Text) (i : Nat)
    : ∃ us, (∀ u ∈ us, newline ∉ u) ∧ text.take (lineStart text i) = ended us := by
  unfold lineStart
  cases hlast : Text.findLast? [newline] (text.take i) with
  | none => exact ⟨[], by simp⟩
  | some j =>
    obtain ⟨⟨rest, hrest⟩, -⟩ := (Text.findLast?_eq_some_iff (by simp)).mp hlast
    refine ⟨lines (text.take j), fun u hu => Text.newline_not_mem_of_mem_lines hu, ?_⟩
    rw [← Text.unlines_append_newline (Text.lines_ne_nil _), Text.unlines_lines]
    have hget : ((text.take i).drop j).head? = some newline := by
      rw [← hrest, List.singleton_append, List.head?_cons]
    rw [List.head?_drop, List.getElem?_take] at hget
    split at hget
    . simp [List.take_add_one, hget]
    . simp at hget

theorem interleaved_insertAt (hne : c ≠ []) (hline : newline ∉ c) (text : Text) (i : Nat)
    : Interleaved (written text) [c] (written (insertAt text i c)) := by
  unfold insertAt
  dsimp only
  split
  . exact interleaved_append hne hline text
  . obtain ⟨us, hus, htake⟩ := exists_take_lineStart text i
    have hbefore : written text = us.filter (!·.isEmpty) ++
      written (text.drop (lineStart text i)) := by
      conv_lhs => rw [← List.take_append_drop (lineStart text i) text, htake]
      exact written_append_newline us _ hus
    have hafter : written (text.take (lineStart text i) ++ c ++
      newline :: text.drop (lineStart text i)) =
        us.filter (!·.isEmpty) ++ c :: written (text.drop (lineStart text i)) := by
      rw [htake, List.append_assoc, written_append_newline us _ hus, written,
        Text.lines_append_newline hline, List.filter_cons, ← written]
      simp [hne]
    rw [hbefore, hafter]
    exact .insert _ _ c

/--
Whether a comment is put back: it needs no anchor, or it has not been found above it and the anchor
is found.
-/
def goesBack (text : Text) (pair : CommentPair) : Bool :=
  match pair.anchor with
  | none => true
  | some anchor => !isInPlace text pair.comment anchor && (Anchor.search? text anchor).isSome

theorem interleaved_applyOne (pair : CommentPair) (hne : pair.comment ≠ [])
    (hline : newline ∉ pair.comment) (text : Text)
    : Interleaved (written text) (if goesBack text pair then [pair.comment] else [])
        (written (applyOne text pair)) := by
  unfold applyOne goesBack
  cases pair.anchor with
  | none => exact interleaved_append hne hline text
  | some anchor =>
    cases hplace : isInPlace text pair.comment anchor with
    | true => simpa [hplace] using Interleaved.refl (written text)
    | false =>
      simp only [hplace, Bool.not_false, Bool.true_and, Bool.false_eq_true, ↓reduceIte]
      cases Anchor.search? text anchor with
      | none => exact .refl (written text)
      | some i => exact interleaved_insertAt hne hline text i

/-- The comments that are put back into a text, in their order in the document. -/
def returned : List CommentPair → Text → List Text
  | [], _ => []
  | pair :: rest, text =>
    (if goesBack (apply rest text) pair then [pair.comment] else []) ++ returned rest text

theorem returned_sublist (ps : List CommentPair) (text : Text)
    : (returned ps text).Sublist (ps.map (·.comment)) := by
  induction ps with
  | nil => exact .slnil
  | cons pair rest ih =>
    unfold returned
    split
    . exact ih.cons_cons _
    . exact ih.cons _

@[simp]
theorem apply_cons (pair : CommentPair) (rest : List CommentPair) (text : Text)
    : apply (pair :: rest) text = applyOne (apply rest text) pair := by
  simp [apply]

theorem interleaved_apply (ps : List CommentPair)
    (hps : ∀ pair ∈ ps, pair.comment ≠ [] ∧ newline ∉ pair.comment) (text : Text)
    : ∃ added, added.Perm (returned ps text) ∧
      Interleaved (written text) added (written (apply ps text)) := by
  induction ps with
  | nil => exact ⟨[], .nil, .refl _⟩
  | cons pair rest ih =>
    simp only [List.mem_cons, forall_eq_or_imp] at hps
    obtain ⟨added, hperm, hadded⟩ := ih hps.2
    obtain ⟨all, hall, hrun⟩ := hadded.trans
      (interleaved_applyOne pair hps.1.1 hps.1.2 (apply rest text))
    rw [apply_cons, returned]
    exact ⟨all, hall.trans (hperm.append_left _), hrun⟩

theorem mem_pairs {ls : List Text} {pair : CommentPair} (h : pair ∈ pairs ls)
    : pair.comment ∈ ls ∧ isComment pair.comment = true := by
  induction ls with
  | nil => simp [pairs] at h
  | cons l rest ih =>
    unfold pairs at h
    split at h
    . next hl =>
      obtain rfl | h := List.mem_cons.mp h
      . exact ⟨List.mem_cons_self, hl⟩
      . exact ⟨List.mem_cons_of_mem _ (ih h).1, (ih h).2⟩
    . exact ⟨List.mem_cons_of_mem _ (ih h).1, (ih h).2⟩

theorem forall_mem_pairs {ls : List Text} (hls : ∀ l ∈ ls, newline ∉ l)
    : ∀ pair ∈ pairs ls, pair.comment ≠ [] ∧ newline ∉ pair.comment := by
  intro pair hpair
  obtain ⟨hmem, hcomment⟩ := mem_pairs hpair
  refine ⟨?_, hls _ hmem⟩
  intro hnil
  simp [hnil, isComment] at hcomment

theorem extends_apply (ls : List Text) (hls : ∀ l ∈ ls, newline ∉ l) (text : Text)
    : Extends (comments ls) text (apply (pairs ls) text) := by
  obtain ⟨added, hperm, hadded⟩ := interleaved_apply (pairs ls) (forall_mem_pairs hls) text
  refine ⟨hadded.sublist, added, ?_, hadded.perm⟩
  intro c hc
  obtain ⟨pair, hpair, rfl⟩ := List.mem_map.mp ((returned_sublist _ _).subset (hperm.subset hc))
  exact List.mem_filter.mpr (mem_pairs hpair)

/-- The lines of a text that are not blank. -/
def solid (text : Text) : List Text := (lines text).filter (!Text.isBlank ·)

theorem solid_eq (text : Text) : solid text = (written text).filter (!Text.isBlank ·) := by
  rw [written, List.filter_filter, solid]
  apply List.filter_congr
  intro l _
  cases l with
  | nil => rfl
  | cons b l => simp

/--
Putting the comments of any document back into any text damages no content: the lines that are not
blank stay as they are and in their order, and what comes between them is comments of the document,
each at most as often as it stands there.
-/
theorem apply_interleaved (document text : Text)
    : ∃ added, added.Subperm ((pairs (linesOf document)).map (·.comment)) ∧
        Interleaved (solid text) added (solid (apply (pairs (linesOf document)) text)) := by
  have hls : ∀ l ∈ linesOf document, newline ∉ l := fun l hl => Text.newline_not_mem_of_mem_lines hl
  obtain ⟨added, hperm, hadded⟩ :=
    interleaved_apply (pairs (linesOf document)) (forall_mem_pairs hls) text
  refine ⟨added.filter (!Text.isBlank ·), ?_, ?_⟩
  . exact ((List.filter_sublist).subperm.trans hperm.subperm).trans (returned_sublist _ _).subperm
  . rw [solid_eq, solid_eq]
    exact hadded.filter _

end Comment
end YamlOrder
