import YamlOrder.Proofs.Comment.Extend

/-!
This module contains what becomes of the comments of a document that are put back into the lines
they were taken out of: every anchor is found, and a comment is lost exactly if it is taken to stand
above its anchor already.
-/

namespace YamlOrder
namespace Comment

open Text (newline lines unlines occursIn)

variable {ls pre rest : List Text} {text text' x a : Text}

/--
The comments that are taken to stand above their anchors already, in their order in the document.
-/
def passedOver : List CommentPair → Text → List Text
  | [], _ => []
  | pair :: rest, text =>
    (if pair.anchor.any (isInPlace (apply rest text) pair.comment) then [pair.comment] else []) ++
      passedOver rest text

theorem occursIn_iff_written (hx : newline ∉ x) (hne : x ≠ [])
    : occursIn x text = true ↔ ∃ y ∈ written text, x <:+: y := by
  rw [Text.occursIn_iff]
  constructor
  . intro hinfix
    obtain ⟨i, hpre⟩ := Text.exists_prefix_drop_of_infix hinfix
    rw [← Text.unlines_lines text] at hpre
    obtain ⟨us, y, vs, j, hlines, -, hpre⟩ := Text.exists_line_of_prefix_drop hx hne hpre
    have hinfix : x <:+: y := hpre.isInfix.trans (List.drop_suffix j y).isInfix
    refine ⟨y, ?_, hinfix⟩
    have hy : y ≠ [] := by
      rintro rfl
      exact hne (List.infix_nil.mp hinfix)
    simp [written, hlines, hy]
  . rintro ⟨y, hy, hinfix⟩
    rw [← Text.unlines_lines text]
    exact hinfix.trans (Text.infix_unlines_of_mem (List.mem_of_mem_filter hy))

theorem search?_isSome (ha : a ≠ []) (hocc : occursIn a text = true)
    : (Anchor.search? text a).isSome = true := by
  cases hfind : Text.findLast? a text with
  | none => exact absurd (Text.occursIn_iff.mp hocc) (Text.findLast?_eq_none_iff.mp hfind)
  | some i => simp [Anchor.search?, Anchor.whole?, Anchor.last?, ha, hfind]

theorem occursIn_of_sublist (h : (written text).Sublist (written text')) (hx : newline ∉ x)
    (hne : x ≠ []) (hocc : occursIn x text = true) : occursIn x text' = true := by
  rw [occursIn_iff_written hx hne] at hocc ⊢
  obtain ⟨y, hy, hinfix⟩ := hocc
  exact ⟨y, h.subset hy, hinfix⟩

theorem goesBack_eq {pair : CommentPair}
    (hanchor : ∀ anchor ∈ pair.anchor, anchor ≠ [] ∧ occursIn anchor text = true)
    : goesBack text pair = !pair.anchor.any (isInPlace text pair.comment) := by
  unfold goesBack
  cases h : pair.anchor with
  | none => rfl
  | some anchor =>
    obtain ⟨hne, hocc⟩ := hanchor anchor h
    simp [search?_isSome hne hocc]

theorem occursIn_applyOne_self (pair : CommentPair)
    (hpair : pair.comment ≠ [] ∧ newline ∉ pair.comment)
    (hanchor : ∀ anchor ∈ pair.anchor, anchor ≠ [] ∧ occursIn anchor text = true)
    : occursIn pair.comment (applyOne text pair) = true := by
  have hadded := interleaved_applyOne pair hpair.1 hpair.2 text
  rw [goesBack_eq hanchor] at hadded
  by_cases hplace : pair.anchor.any (isInPlace text pair.comment) = true
  . obtain ⟨anchor, -, hplace⟩ := (Option.any_eq_true _ _).mp hplace
    apply occursIn_of_sublist hadded.sublist hpair.2 hpair.1
    rw [isInPlace, Text.occursIn_iff] at hplace
    rw [Text.occursIn_iff]
    exact (List.prefix_append _ _).isInfix.trans hplace
  . rw [occursIn_iff_written hpair.2 hpair.1]
    refine ⟨pair.comment, ?_, List.infix_rfl⟩
    rw [hadded.perm.mem_iff]
    simp [hplace]

/-- A text that the lines with content of a document can be found in. -/
def Covers (text : Text) (ls : List Text) : Prop :=
  ∀ l ∈ ls, newline ∉ l ∧ (isComment l = false → Text.isBlank l = false → occursIn l text = true)

theorem Covers.tail (h : Covers text (x :: ls)) : Covers text ls :=
    fun l hl => h l (List.mem_cons_of_mem _ hl)

theorem Covers.forall_mem_pairs (h : Covers text ls)
    : ∀ pair ∈ pairs ls, pair.comment ≠ [] ∧ newline ∉ pair.comment :=
  Comment.forall_mem_pairs fun l hl => (h l hl).1

theorem forall_mem_find? (h : ∀ l ∈ ls, Text.isBlank l = false → occursIn l text = true)
    : ∀ a ∈ ls.find? (!Text.isBlank ·), a ≠ [] ∧ occursIn a text = true := by
  intro a ha
  have hblank : Text.isBlank a = false := by simpa using List.find?_some ha
  exact ⟨ne_nil_of_isBlank hblank, h a (List.mem_of_find?_eq_some ha) hblank⟩

theorem Covers.occursIn_apply (h : Covers text ls)
    : ∀ l ∈ ls, Text.isBlank l = false → occursIn l (apply (pairs ls) text) = true := by
  induction ls with
  | nil => simp
  | cons l rest ih =>
    have ih := ih h.tail
    have hpairs := h.forall_mem_pairs
    unfold pairs at hpairs ⊢
    by_cases hl : isComment l = true
    . simp only [hl, ↓reduceIte, apply_cons, List.mem_cons, forall_eq_or_imp] at hpairs ⊢
      refine ⟨fun _ => ?_, fun x hx hblank => ?_⟩
      . exact occursIn_applyOne_self ⟨l, _⟩ hpairs.1 (forall_mem_find? ih)
      . refine occursIn_of_sublist (interleaved_applyOne _ hpairs.1.1 hpairs.1.2 _).sublist ?_
          (ne_nil_of_isBlank hblank) (ih x hx hblank)
        exact (h x (List.mem_cons_of_mem _ hx)).1
    . simp only [hl, Bool.false_eq_true, ↓reduceIte, List.mem_cons, forall_eq_or_imp] at hpairs ⊢
      refine ⟨?_, ih⟩
      intro hblank
      obtain ⟨hline, hocc⟩ := h l List.mem_cons_self
      obtain ⟨added, -, hadded⟩ := interleaved_apply (pairs rest) hpairs text
      exact occursIn_of_sublist hadded.sublist hline (ne_nil_of_isBlank hblank)
        (hocc (by simpa using hl) hblank)

theorem Covers.returned_append_passedOver_perm (h : Covers text ls)
    : (returned (pairs ls) text ++ passedOver (pairs ls) text).Perm (comments ls) := by
  induction ls with
  | nil => exact .nil
  | cons l rest ih =>
    have ih := ih h.tail
    unfold pairs comments
    by_cases hl : isComment l = true
    . simp only [hl, ↓reduceIte, returned, passedOver, List.filter_cons_of_pos]
      rw [goesBack_eq (forall_mem_find? h.tail.occursIn_apply)]
      cases Option.any (isInPlace (apply (pairs rest) text) l) (rest.find? (!Text.isBlank ·)) with
      | true => exact List.perm_middle.trans (ih.cons l)
      | false => exact ih.cons l
    . simpa [hl, comments] using ih

/-- A document whose comments are taken out and put back, with nothing done to it in between. -/
def roundTrip (document : Text) : Text :=
    apply (pairs (linesOf document)) (strip (linesOf document))

theorem lines_strip (hls : ∀ l ∈ ls, newline ∉ l)
    : lines (strip ls) = ls.filter (!isComment ·) ∨ lines (strip ls) = [[]] := by
  unfold strip
  cases hcontent : ls.filter (!isComment ·) with
  | nil => exact .inr rfl
  | cons l rest =>
    left
    apply Text.lines_unlines (by simp)
    intro x hx
    rw [← hcontent] at hx
    exact hls x (List.mem_of_mem_filter hx)

theorem covers_strip (hls : ∀ l ∈ ls, newline ∉ l) : Covers (strip ls) ls := by
  intro l hl
  refine ⟨hls l hl, fun hcomment _ => ?_⟩
  rw [Text.occursIn_iff]
  exact Text.infix_unlines_of_mem (List.mem_filter.mpr ⟨hl, by simpa using hcomment⟩)

theorem comments_lines (text : Text) : comments (lines text) = comments (written text) := by
  unfold written comments
  rw [List.filter_filter]
  apply List.filter_congr
  intro l _
  cases l with
  | nil => rfl
  | cons b l => simp

theorem comments_strip (hls : ∀ l ∈ ls, newline ∉ l) : comments (lines (strip ls)) = [] := by
  obtain hlines | hlines := lines_strip hls
  . simp [hlines, comments, List.filter_filter]
  . simp [hlines, comments, isComment]

theorem comments_apply_perm (hls : ∀ l ∈ ls, newline ∉ l)
    : (comments (lines (apply (pairs ls) (strip ls)))).Perm (returned (pairs ls) (strip ls)) := by
  obtain ⟨added, hperm, hadded⟩ := interleaved_apply (pairs ls) (forall_mem_pairs hls) (strip ls)
  have hcomments : added.filter isComment = added := by
    rw [List.filter_eq_self]
    intro c hc
    obtain ⟨pair, hpair, rfl⟩ := List.mem_map.mp ((returned_sublist _ _).subset (hperm.subset hc))
    exact (mem_pairs hpair).2
  have hfilter := (hadded.filter isComment).perm
  rw [hcomments] at hfilter
  have hstrip := comments_strip hls
  rw [comments_lines] at hstrip ⊢
  unfold comments at hstrip ⊢
  rw [hstrip, List.nil_append] at hfilter
  exact hfilter.trans hperm

/--
Every line that ends with a comment, other than the comment itself, is a comment above it.
-/
def ToldApart (ls : List Text) : Prop :=
  ls.Pairwise fun x y =>
    (isComment x = true → ¬ x <:+ y) ∧ (isComment y = true → y <:+ x → isComment x = true)

theorem mem_of_mem_lines_apply (hls : ∀ l ∈ ls, newline ∉ l) (hpairs : ∀ l ∈ rest, newline ∉ l)
    (hx : x ≠ []) (hmem : x ∈ lines (apply (pairs rest) (strip ls)))
    : (x ∈ ls ∧ isComment x = false) ∨ x ∈ rest := by
  obtain ⟨added, hperm, hadded⟩ :=
    interleaved_apply (pairs rest) (forall_mem_pairs hpairs) (strip ls)
  have hwritten : x ∈ written (apply (pairs rest) (strip ls)) :=
    List.mem_filter.mpr ⟨hmem, by simpa using hx⟩
  rw [hadded.perm.mem_iff, List.mem_append] at hwritten
  cases hwritten with
  | inl htext =>
    left
    have htext := List.mem_of_mem_filter htext
    obtain hlines | hlines := lines_strip hls
    . simpa [hlines] using htext
    . exact absurd (by simpa [hlines] using htext) hx
  | inr hcomment =>
    right
    obtain ⟨pair, hpair, rfl⟩ := List.mem_map.mp
      ((returned_sublist _ _).subset (hperm.subset hcomment))
    exact (mem_pairs hpair).1

theorem ToldApart.passedOver_eq_nil (hls : ∀ l ∈ ls, newline ∉ l) (h : ToldApart ls)
    : passedOver (pairs ls) (strip ls) = [] := by
  suffices hsuffix : ∀ rest pre, ls = pre ++ rest →
    passedOver (pairs rest) (strip ls) = [] from hsuffix ls [] rfl
  intro rest
  induction rest with
  | nil => simp [pairs, passedOver]
  | cons c rest ih =>
    intro pre hsplit
    have ih := ih (pre ++ [c]) (by simp [hsplit])
    unfold pairs
    split
    . next hc =>
      have hrest : ∀ l ∈ rest, newline ∉ l := fun l hl => hls l (by simp [hsplit, hl])
      rw [passedOver, ih, List.append_nil]
      by_contra hplace
      simp only [ite_eq_right_iff, List.cons_ne_self, imp_false, Bool.not_eq_true,
        Bool.not_eq_false] at hplace
      obtain ⟨a, ha, hplace⟩ := (Option.any_eq_true _ _).mp hplace
      rw [isInPlace, Text.occursIn_iff, ← Text.unlines_lines (apply _ _)] at hplace
      obtain ⟨us, x, y, vs, hlines, hx, -⟩ :=
        Text.exists_neighbours_of_infix (hls c (by simp [hsplit]))
        (hrest a (List.mem_of_find?_eq_some ha))
          (fun l hl => Text.newline_not_mem_of_mem_lines hl) hplace
      have hne : x ≠ [] := by
        rintro rfl
        simp [List.suffix_nil.mp hx, isComment] at hc
      have happart := List.pairwise_append.mp (hsplit ▸ h)
      have hbehind := (List.pairwise_cons.mp happart.2.1).1
      obtain ⟨hmem, hother⟩ | hmem := mem_of_mem_lines_apply hls hrest hne (hlines ▸ by simp)
      . rw [hsplit, List.mem_append, List.mem_cons] at hmem
        obtain hmem | rfl | hmem := hmem
        . have := (happart.2.2 x hmem c List.mem_cons_self).2 hc hx
          simp [this] at hother
        . simp [hc] at hother
        . exact (hbehind x hmem).1 hc hx
      . exact (hbehind x hmem).1 hc hx
    . exact ih

/--
Taking the comments out of a document and putting them back adds none. Each comment comes back or is
passed over because it is taken to stand above its anchor already, so all of them come back exactly
if none is passed over; and none is, if no line but a comment above it ends with the same text.
-/
theorem comments_roundTrip (document : Text)
    : (comments (lines (roundTrip document)) ++
          passedOver (pairs (linesOf document)) (strip (linesOf document))).Perm
          (comments (linesOf document)) ∧
      ((comments (lines (roundTrip document))).Perm (comments (linesOf document)) ↔
        passedOver (pairs (linesOf document)) (strip (linesOf document)) = []) ∧
      (ToldApart (linesOf document) →
        (comments (lines (roundTrip document))).Perm (comments (linesOf document))) := by
  have hls : ∀ l ∈ linesOf document, newline ∉ l := fun l hl => Text.newline_not_mem_of_mem_lines hl
  have hperm : (comments (lines (roundTrip document)) ++
      passedOver (pairs (linesOf document)) (strip (linesOf document))).Perm
      (comments (linesOf document)) :=
    ((comments_apply_perm hls).append_right _).trans
    (covers_strip hls).returned_append_passedOver_perm
  have hiff : (comments (lines (roundTrip document))).Perm (comments (linesOf document)) ↔
      passedOver (pairs (linesOf document)) (strip (linesOf document)) = [] := by
    constructor
    . intro hall
      have hlength := hperm.length_eq
      rw [List.length_append, hall.length_eq] at hlength
      exact List.eq_nil_of_length_eq_zero (by omega)
    . intro hnone
      rwa [hnone, List.append_nil] at hperm
  exact ⟨hperm, hiff, fun happart => hiff.mpr (happart.passedOver_eq_nil hls)⟩

/-- Two comments with the same end, the indented one first. -/
theorem comments_roundTrip_nested
    : ToldApart (linesOf "a:\n  # x\n  b: 1\n# x\nc: 2") ∧
      (comments (lines (roundTrip "a:\n  # x\n  b: 1\n# x\nc: 2"))).Perm
      [("  # x" : Text), ("# x" : Text)] := by
  have happart : ToldApart (linesOf "a:\n  # x\n  b: 1\n# x\nc: 2") := by
    unfold ToldApart
    decide
  exact ⟨happart, (comments_roundTrip "a:\n  # x\n  b: 1\n# x\nc: 2").2.2 happart⟩

/-- Of a comment of three equal lines, two come back. -/
theorem comments_roundTrip_not_perm
    : ¬ (comments (lines (roundTrip "#\n#\n#\na: 1"))).Perm
      (comments (linesOf "#\n#\n#\na: 1")) := by
  decide

end Comment
end YamlOrder
