import YamlOrder.Proofs.Comment.Apply

/-!
This module contains how comments travel: whatever the order of the lines of a text is, every
comment of the document it was made from ends up above the line it stood above.
-/

namespace YamlOrder
namespace Comment

open Text (newline lines unlines occursIn)

variable {ls rest : List Text} {l a text : Text}

/--
The text that comments are woven into. Comments that end a document take the place of newlines at
its end.
-/
def base (ls : List Text) (text : Text) : Text :=
  if above none ls = [] then text else Text.dropNewlines text

theorem base_cons_other (hl : isComment l = false) : base (l :: rest) text = base rest text := by
  rw [base, above_cons_other hl, base]

theorem isBlank_of_mem_anchors (ha : some a ∈ anchors ls) : Text.isBlank a = false := by
  induction ls with
  | nil => simp [anchors, pairs] at ha
  | cons l rest ih =>
    by_cases hl : isComment l = true
    . rw [anchors_cons_comment hl, List.mem_cons] at ha
      cases ha with
      | inl ha => simpa using List.find?_some ha.symm
      | inr ha => exact ih ha
    . exact ih (by rwa [anchors_cons_other (by simpa using hl)] at ha)

theorem Placed.dropNewlines (h : Placed ls (lines text))
    : Placed ls (lines (Text.dropNewlines text)) := by
  obtain ⟨n, hn⟩ := Text.exists_lines_eq_dropNewlines_append text
  rw [hn] at h
  constructor
  . exact h.nodup
  . intro a ha hcontent
    rcases List.mem_append.mp (h.mem a ha hcontent) with hmem | hmem
    . exact hmem
    . have hblank := isBlank_of_mem_anchors ha
      rw [(List.mem_replicate.mp hmem).2] at hblank
      exact absurd hblank (by decide)
  . intro a ha
    have := h.once a ha
    simp only [List.countP_append] at this ⊢
    omega
  . intro c hc x hx
    exact h.apart c hc x (List.mem_append_left _ hx)

theorem Placed.base (h : Placed ls (lines text)) : Placed ls (lines (base ls text)) := by
  unfold Comment.base
  split
  . exact h
  . exact h.dropNewlines

theorem above_eq_nil_of_forall (h : ∀ x ∈ ls, Text.isBlank x = true) (content : Option Text)
    : above content ls = [] := by
  induction ls with
  | nil => rfl
  | cons l rest ih =>
    simp only [List.mem_cons, forall_eq_or_imp] at h
    have hl : isComment l = false := by
      by_contra hl
      simp [isBlank_of_isComment (by simpa using hl)] at h
    rw [above_cons_other hl, ih h.2]

theorem pairs_eq_nil_of_forall (h : ∀ x ∈ ls, Text.isBlank x = true) : pairs ls = [] := by
  induction ls with
  | nil => rfl
  | cons l rest ih =>
    simp only [List.mem_cons, forall_eq_or_imp] at h
    have hl : isComment l = false := by
      by_contra hl
      simp [isBlank_of_isComment (by simpa using hl)] at h
    simp [pairs, hl, ih h.2]

theorem base_cons_of_anchor (h : Placed (l :: rest) (lines text)) (hl : isComment l = true)
    (ha : rest.find? (!Text.isBlank ·) = some a) : base (l :: rest) text = base rest text := by
  have hfirst := h.nodup
  rw [anchors_cons_comment hl, List.nodup_cons] at hfirst
  have hhead := head?_above hfirst.1
  unfold base
  cases hb : content? rest with
  | none =>
    rw [hb, Option.toList_none, List.append_nil, ha] at hhead
    have hrest : above none rest ≠ [] := by
      intro hnil
      simp [hnil] at hhead
    have hcons : above none (l :: rest) ≠ [] := by
      rw [← hb, above_cons_self hl]
      simp
    rw [if_neg hcons, if_neg hrest]
  | some b => rw [above_cons_of_ne (by simp [hb])]

theorem append_finished (htext : text ≠ []) (hl : isComment l = true)
    (hrest : ∀ x ∈ rest, Text.isBlank x = true)
    : append text l = unlines (finished (l :: rest) (lines (base (l :: rest) text))) := by
  have hcontent : content? rest = none := by
    simp only [content?, List.find?_eq_none]
    intro x hx
    simp [hrest x hx]
  have habove : above none (l :: rest) = [l] := by
    rw [← hcontent, above_cons_self hl, above_eq_nil_of_forall hrest]
  have hwoven (body : List Text) : woven (l :: rest) body = body := by
    rw [woven_cons_of_not_mem (by simp [hcontent])]
    simp [woven, above_eq_nil_of_forall hrest]
  rw [append_eq_unlines htext, finished, habove, hwoven, base, habove]
  simp

theorem apply_pairs (h : Placed ls (lines text)) (hls : ∀ x ∈ ls, newline ∉ x) (htext : text ≠ [])
    : apply (pairs ls) text = unlines (finished ls (lines (base ls text))) := by
  induction ls with
  | nil => simp [pairs, apply, finished, woven, above, base]
  | cons l rest ih =>
    have ih := ih h.tail (fun x hx => hls x (List.mem_cons_of_mem _ hx))
    by_cases hl : isComment l = true
    . have hstep : apply (pairs (l :: rest)) text
          = applyOne (apply (pairs rest) text) ⟨l, rest.find? (!Text.isBlank ·)⟩ := by
        simp [apply, pairs, hl]
      rw [hstep]
      cases ha : rest.find? (!Text.isBlank ·) with
      | none =>
        have hrest : ∀ x ∈ rest, Text.isBlank x = true := by
          simpa [List.find?_eq_none] using ha
        rw [pairs_eq_nil_of_forall hrest]
        exact append_finished htext hl hrest
      | some a =>
        rw [ih, ← base_cons_of_anchor h hl ha]
        exact applyOne_finished h.base hl ha (fun x hx => Text.newline_not_mem_of_mem_lines hx) hls
    . simp only [Bool.not_eq_true] at hl
      rw [finished_cons_other hl, base_cons_other hl, ← ih]
      simp [pairs, hl]

theorem countP_le_one_of_occurrences (hline : newline ∉ a) (hne : a ≠ [])
    (hocc : Text.occurrences a text = 1) (hfree : ∀ c ∈ comments ls, occursIn a c = false)
    : (lines text ++ comments ls).countP (occursIn a) ≤ 1 := by
  have hlines := Text.countP_lines_le_occurrences hline hne text
  have hcomments : (comments ls).countP (occursIn a) = 0 :=
    List.countP_eq_zero.mpr (by simpa using hfree)
  rw [List.countP_append]
  omega

theorem lines_unlines_finished {body : List Text} (h : Placed ls body) (hbody : body ≠ [])
    (hlines : ∀ x ∈ body, newline ∉ x) (hls : ∀ x ∈ ls, newline ∉ x)
    : lines (unlines (finished ls body)) = finished ls body := by
  have hperm := finished_perm h
  apply Text.lines_unlines
  . intro hnil
    rw [hnil] at hperm
    exact hbody (List.append_eq_nil_iff.mp hperm.symm.eq_nil).1
  . intro x hx
    rw [hperm.mem_iff, List.mem_append] at hx
    cases hx with
    | inl hx => exact hlines x hx
    | inr hx => exact hls x (List.mem_of_mem_filter hx)

/--
Comments travel with the line below them: the lines of the text stay in their order, each comes with
the comments that stand above it in the document, and no comment is lost or put back twice.
-/
theorem apply_pairs_linesOf (document text : Text) (htext : Text.isBlank text = false)
    (hnodup : (anchors (linesOf document)).Nodup)
    (hcontent : ∀ a, some a ∈ anchors (linesOf document) → isComment a = false →
      a ∈ lines text ∧ Text.occurrences a text = 1 ∧
        ∀ c ∈ comments (linesOf document), occursIn a c = false)
    (hcomment : ∀ a, some a ∈ anchors (linesOf document) → isComment a = true →
      (∀ x ∈ lines text, occursIn a x = false) ∧
        (comments (linesOf document)).countP (occursIn a) = 1)
    (hend : ∀ c ∈ comments (linesOf document), ∀ x ∈ lines text, ¬ c <:+ x)
    : apply (pairs (linesOf document)) text =
        unlines (woven (linesOf document) (lines (base (linesOf document) text))
          ++ above none (linesOf document)) ∧
      (lines (apply (pairs (linesOf document)) text)).Perm
        (lines (base (linesOf document) text) ++ comments (linesOf document)) := by
  have hne : text ≠ [] := by
    rintro rfl
    exact absurd htext (by decide)
  have hlines : ∀ x ∈ linesOf document, newline ∉ x :=
    fun x hx => Text.newline_not_mem_of_mem_lines hx
  have hplaced : Placed (linesOf document) (lines text) := by
    constructor
    . exact hnodup
    . intro a ha hc
      exact (hcontent a ha hc).1
    . intro a ha
      -- an anchor is found either once among the comments or once in the text
      by_cases hc : isComment a = true
      . obtain ⟨hbody, hcount⟩ := hcomment a ha hc
        rw [List.countP_append, hcount, List.countP_eq_zero.mpr (by simpa using hbody)]
      . obtain ⟨hmem, hocc, hfree⟩ := hcontent a ha (by simpa using hc)
        have hne : a ≠ [] := by
          rintro rfl
          exact absurd (isBlank_of_mem_anchors ha) (by decide)
        exact countP_le_one_of_occurrences (Text.newline_not_mem_of_mem_lines hmem) hne hocc hfree
    . exact hend
  have heq := apply_pairs hplaced hlines hne
  refine ⟨heq, ?_⟩
  rw [heq, lines_unlines_finished hplaced.base (Text.lines_ne_nil _)
    (fun x hx => Text.newline_not_mem_of_mem_lines hx) hlines]
  exact finished_perm hplaced.base

/-- Two runs of comments change places with their lines, and one stays at the end. -/
theorem apply_pairs_linesOf_swapped
    : (anchors (linesOf "# one\n# two\nb: 1\n\n# three\na: 2\n# end\n")).Nodup ∧
      apply (pairs (linesOf "# one\n# two\nb: 1\n\n# three\na: 2\n# end\n")) "a: 2\nb: 1\n" =
        "# three\na: 2\n# one\n# two\nb: 1\n# end" := by
  have hanchors : anchors (linesOf "# one\n# two\nb: 1\n\n# three\na: 2\n# end\n") =
      [("# two" : Text), ("b: 1" : Text), ("a: 2" : Text)].map some ++ [none] := by decide
  have hmem (a : Text)
      (ha : some a ∈ anchors (linesOf "# one\n# two\nb: 1\n\n# three\na: 2\n# end\n"))
      : a ∈ [("# two" : Text), ("b: 1" : Text), ("a: 2" : Text)] := by
    simpa [hanchors] using ha
  refine ⟨by decide, (apply_pairs_linesOf _ _ ?_ ?_ ?_ ?_ ?_).1.trans ?_⟩
  . decide
  . decide
  . intro a ha
    replace ha := hmem a ha
    revert a
    decide
  . intro a ha
    replace ha := hmem a ha
    revert a
    decide
  . decide
  . decide

end Comment
end YamlOrder
