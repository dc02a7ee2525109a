import YamlOrder.Proofs.Comment.Weave

/-!
This module contains the verification of putting all comments of a document back into a text: the
result is the text woven with the comments, the comments at the end of the document after everything
else.
-/

namespace YamlOrder
namespace Comment

open Text (newline lines unlines occursIn)

variable {ls rest body : List Text} {l a b : Text}

/--
The comments of a document can be put back into a body of lines: every anchor that is a line with
content is one of these lines, no anchor is found in two places, and no line ends with a comment.
-/
structure Placed (ls body : List Text) : Prop where
  nodup : (anchors ls).Nodup
  mem : ∀ a, some a ∈ anchors ls → isComment a = false → a ∈ body
  once : ∀ a, some a ∈ anchors ls → (body ++ comments ls).countP (occursIn a) ≤ 1
  apart : ∀ c ∈ comments ls, ∀ x ∈ body, ¬ c <:+ x

theorem Placed.tail (h : Placed (l :: rest) body) : Placed rest body := by
  have hanchors : anchors rest <:+ anchors (l :: rest) := by
    by_cases hl : isComment l = true
    . rw [anchors_cons_comment hl]
      exact List.suffix_cons _ _
    . rw [anchors_cons_other (by simpa using hl)]
  have hcomments : (comments rest).Sublist (comments (l :: rest)) :=
    (List.sublist_cons_self l rest).filter _
  constructor
  . exact h.nodup.sublist hanchors.sublist
  . intro a ha
    exact h.mem a (hanchors.subset ha)
  . intro a ha
    exact Nat.le_trans (hcomments.append_left body).countP_le (h.once a (hanchors.subset ha))
  . intro c hc
    exact h.apart c (hcomments.subset hc)

theorem isComment_of_content? (hb : content? ls = some b) : isComment b = false := by
  have := List.find?_some hb
  simp_all

theorem occursIn_self (a : Text) : occursIn a a = true := Text.occursIn_iff.mpr List.infix_rfl

theorem Placed.exists_split (h : Placed (l :: rest) body) (hl : isComment l = true)
    (hb : content? rest = some b) : ∃ pre post, body = pre ++ b :: post ∧ b ∉ pre ∧ b ∉ post := by
  have hanchor := some_mem_anchors_of_content? hl hb
  obtain ⟨pre, post, hbody⟩ := List.append_of_mem (h.mem b hanchor (isComment_of_content? hb))
  have honce := h.once b hanchor
  simp only [hbody, List.countP_append, List.countP_cons, occursIn_self, if_true] at honce
  refine ⟨pre, post, hbody, ?_, ?_⟩
  . intro hmem
    have := List.countP_pos_iff.mpr ⟨b, hmem, occursIn_self b⟩
    omega
  . intro hmem
    have := List.countP_pos_iff.mpr ⟨b, hmem, occursIn_self b⟩
    omega

theorem woven_cons_comment {pre post : List Text} (hl : isComment l = true)
    (hb : content? rest = some b) (hpre : b ∉ pre) (hpost : b ∉ post)
    : woven (l :: rest) (pre ++ b :: post)
        = woven rest pre ++ l :: (above (some b) rest ++ b :: woven rest post) := by
  have hother {body : List Text} (hbody : b ∉ body) : woven (l :: rest) body = woven rest body := by
    apply woven_cons_of_not_mem
    intro x hx hcontent
    rw [hb, Option.some.injEq] at hcontent
    exact hbody (hcontent ▸ hx)
  rw [woven_append, woven_cons, hother hpre, hother hpost, ← hb, above_cons_self hl]
  simp

/-- The lines that are reached once all comments of a document are put back. -/
def finished (ls body : List Text) : List Text := woven ls body ++ above none ls

theorem finished_cons_other (hl : isComment l = false)
    : finished (l :: rest) body = finished rest body := by
  rw [finished, woven_cons_other hl, above_cons_other hl, finished]

theorem finished_perm (h : Placed ls body) : (finished ls body).Perm (body ++ comments ls) := by
  induction ls with
  | nil => simp [finished, woven, above, comments]
  | cons l rest ih =>
    have ih := ih h.tail
    by_cases hl : isComment l = true
    . suffices hsuff : (finished (l :: rest) body).Perm (l :: finished rest body) by
        refine (hsuff.trans (ih.cons l)).trans ?_
        simp only [comments, List.filter_cons, hl, if_true]
        exact List.perm_middle.symm
      cases hb : content? rest with
      | none =>
        have hwoven : woven (l :: rest) body = woven rest body :=
          woven_cons_of_not_mem (by simp [hb])
        rw [finished, finished, hwoven, ← hb, above_cons_self hl]
        exact List.perm_middle
      | some b =>
        obtain ⟨pre, post, rfl, hpre, hpost⟩ := h.exists_split hl hb
        rw [finished, finished, woven_cons_comment hl hb hpre hpost, woven_append, woven_cons,
          above_cons_of_ne (by simp [hb])]
        simp only [List.append_assoc, List.cons_append]
        exact List.perm_middle
    . simp only [Bool.not_eq_true] at hl
      simpa [finished_cons_other hl, comments, hl] using ih

theorem getLast?_woven (ls body : List Text) : (woven ls body).getLast? = body.getLast? := by
  cases List.eq_nil_or_concat' body with
  | inl hbody => simp [hbody, woven]
  | inr hbody =>
    obtain ⟨us, u, rfl⟩ := hbody
    have : woven ls (us ++ [u]) = (woven ls us ++ above (some u) ls) ++ [u] := by simp [woven]
    rw [this, List.getLast?_concat, List.getLast?_concat]

theorem Placed.exists_anchor_split (h : Placed (l :: rest) body) (hl : isComment l = true)
    (ha : rest.find? (!Text.isBlank ·) = some a)
    : ∃ pre post, finished rest body = pre ++ a :: post ∧
        finished (l :: rest) body = pre ++ l :: a :: post ∧ ∀ x ∈ pre.getLast?, x ∈ body := by
  have hfirst := h.nodup
  rw [anchors_cons_comment hl, List.nodup_cons] at hfirst
  have hhead := head?_above hfirst.1
  rw [ha] at hhead
  obtain ⟨tail, htail⟩ := List.head?_eq_some_iff.mp hhead
  cases hb : content? rest with
  | none =>
    -- the anchor is the first comment of the run that ends the document
    rw [hb, Option.toList_none, List.append_nil] at htail
    refine ⟨woven rest body, tail, ?_, ?_, ?_⟩
    . rw [finished, htail]
    . rw [finished, woven_cons_of_not_mem (by simp [hb]), ← hb, above_cons_self hl, hb, htail]
    . rw [getLast?_woven]
      intro x hx
      exact List.mem_of_getLast? hx
  | some b =>
    obtain ⟨pre, post, rfl, hpre, hpost⟩ := h.exists_split hl hb
    rw [hb, Option.toList_some] at htail
    have htail (us : List Text) : above (some b) rest ++ b :: us = a :: (tail ++ us) := by
      rw [List.append_cons, htail, List.cons_append]
    refine ⟨woven rest pre, tail ++ (woven rest post ++ above none rest), ?_, ?_, ?_⟩
    . rw [finished, woven_append, woven_cons, htail]
      simp
    . rw [finished, woven_cons_comment hl hb hpre hpost, above_cons_of_ne (by simp [hb]), htail]
      simp
    . rw [getLast?_woven]
      intro x hx
      exact List.mem_append_left _ (List.mem_of_getLast? hx)

/-- Putting back one comment keeps the comments that are back already with their lines. -/
theorem applyOne_finished (h : Placed (l :: rest) body) (hl : isComment l = true)
    (ha : rest.find? (!Text.isBlank ·) = some a) (hbody : ∀ x ∈ body, newline ∉ x)
    (hrest : ∀ x ∈ l :: rest, newline ∉ x)
    : applyOne (unlines (finished rest body)) ⟨l, some a⟩ =
      unlines (finished (l :: rest) body) := by
  obtain ⟨pre, post, hbefore, hafter, hlast⟩ := h.exists_anchor_split hl ha
  have hperm := finished_perm h.tail
  have hblank : Text.isBlank a = false := by simpa using List.find?_some ha
  have hsub : (comments rest).Sublist (comments (l :: rest)) :=
    (List.sublist_cons_self l rest).filter _
  have honce : (finished rest body).countP (occursIn a) ≤ 1 := by
    rw [hperm.countP_eq]
    refine Nat.le_trans (hsub.append_left body).countP_le (h.once a ?_)
    simp [anchors_cons_comment hl, ha]
  rw [hbefore, hafter]
  apply applyOne_unlines
  . intro x hx
    rw [← hbefore, hperm.mem_iff, List.mem_append] at hx
    cases hx with
    | inl hx => exact hbody x hx
    | inr hx => exact hrest x (List.mem_cons_of_mem _ (List.mem_of_mem_filter hx))
  . exact hrest l List.mem_cons_self
  . exact hblank
  . rw [hbefore] at honce
    simp only [List.countP_append, List.countP_cons, occursIn_self, if_true] at honce
    intro x hx hocc
    have : 0 < (pre ++ post).countP (occursIn a) :=
      List.countP_pos_iff.mpr ⟨x, hx, Text.occursIn_iff.mpr hocc⟩
    rw [List.countP_append] at this
    omega
  . intro x hx
    exact h.apart l (by simp [comments, hl]) x (hlast x hx)

end Comment
end YamlOrder
