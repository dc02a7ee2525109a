import YamlOrder.Comment.Basic
import YamlOrder.Proofs.Text.Blank
import YamlOrder.Proofs.Text.Lines

/-!
This module contains where the comments of a document belong. One comment is put back above a line
that its anchor is the whole of and that no other line holds, and after everything else if it has no
anchor. Every comment belongs to the next line that is neither blank nor a comment, and a text is
woven with comments by putting them above their lines.
-/

namespace YamlOrder
namespace Comment

/-! ### One comment -/

section

open Text (newline lines unlines ended occursIn)

variable {l a : Text} {pre post : List Text}

theorem isBlank_of_isComment (h : isComment l = true) : Text.isBlank l = false := by
  rw [← Bool.not_eq_true, Text.isBlank_iff, Text.trimLeft]
  unfold isComment at h
  induction l with
  | nil => simp at h
  | cons b l ih =>
    by_cases hb : b = Text.space
    . subst hb
      simpa [Text.dropChars, Text.spaceWidth] using ih (by simpa using h)
    . simp only [List.dropWhile_cons, beq_iff_eq, hb, if_false, List.head?_cons,
        Option.some.injEq] at h
      subst h
      simp [Text.dropChars, Text.spaceWidth, Text.space, Text.tab, Text.carriageReturn]

theorem eq_of_append_cons_eq {α : Type} {p : α → Prop} {u v pre post : List α} {x a : α}
    (h : u ++ x :: v = pre ++ a :: post) (hx : p x) (honly : ∀ y ∈ pre ++ post, ¬ p y)
    : u = pre ∧ x = a ∧ v = post := by
  obtain ⟨w, hpre, hrest⟩ | ⟨w, hu, hrest⟩ := List.append_eq_append_iff.mp h
  . cases w with
    | nil => simp_all
    | cons y w =>
      simp only [List.cons_append, List.cons.injEq] at hrest
      exact absurd hx (honly x (by simp [hpre, hrest.1]))
  . cases w with
    | nil => simp_all
    | cons y w =>
      simp only [List.cons_append, List.cons.injEq] at hrest
      exact absurd hx (honly x (by simp [hrest.2]))

theorem lineStart_ended (pre : List Text) {t : Text} {j : Nat} (h : newline ∉ t.take j)
    : lineStart (ended pre ++ t) ((ended pre).length + j) = (ended pre).length := by
  unfold lineStart
  rw [List.take_length_add_append]
  cases List.eq_nil_or_concat' pre with
  | inl hpre =>
    have hnone : Text.findLast? [newline] (t.take j) = none := by
      rw [Text.findLast?_eq_none_iff]
      intro hnewline
      exact h (hnewline.subset (by simp))
    simp [hpre, hnone]
  | inr hpre =>
    obtain ⟨us, u, rfl⟩ := hpre
    have hended : ended (us ++ [u]) = ended us ++ u ++ [newline] := by simp [ended]
    have hlast : Text.findLast? [newline] (ended (us ++ [u]) ++ t.take j) =
      some (ended us ++ u).length := by
      rw [hended, Text.findLast?_eq_some_iff (by simp)]
      refine ⟨by simp, ?_⟩
      intro k hk hpre
      -- behind its last newline, the text is a part of the line
      rw [List.drop_append, List.drop_eq_nil_of_le (by simp at hk ⊢; omega),
        List.nil_append] at hpre
      exact h ((hpre.isInfix.trans (List.drop_suffix _ _).isInfix).subset (by simp))
    rw [hlast, hended]
    simp only [Option.map_some, Option.getD_some, List.length_append, List.length_cons,
      List.length_nil]

theorem insertAt_unlines {us vs : List Text} {x : Text} {j : Nat} (hx : newline ∉ x)
    (hsolid : Text.isBlank x = false) (hj : j ≤ x.length) (c : Text)
    : insertAt (unlines (us ++ x :: vs)) ((ended us).length + j) c =
      unlines (us ++ c :: x :: vs) := by
  have htake : newline ∉ (unlines (x :: vs)).take j := by
    obtain ⟨w, hw⟩ := Text.prefix_unlines_cons x vs
    rw [← hw, List.take_append_of_le_length hj]
    exact fun hmem => hx (List.mem_of_mem_take hmem)
  unfold insertAt
  rw [Text.unlines_append (by simp), lineStart_ended us htake]
  simp only [List.drop_left, List.take_left, Text.isBlank_unlines_cons hsolid vs,
    Bool.false_eq_true, ↓reduceIte]
  rw [Text.unlines_append (by simp), Text.unlines_cons_cons]
  simp

theorem exists_search?_unlines {ls : List Text} (hlines : ∀ x ∈ ls, newline ∉ x)
    (hline : newline ∉ a) (ha : a ≠ []) (hocc : ∃ x ∈ ls, a <:+: x)
    : ∃ us x vs j, ls = us ++ x :: vs ∧ a <:+: x ∧ (∀ y ∈ vs, ¬ a <:+: y) ∧ j ≤ x.length ∧
        Anchor.search? (unlines ls) a = some ((ended us).length + j) := by
  cases hfind : Text.findLast? a (unlines ls) with
  | none =>
    obtain ⟨x, hx, hax⟩ := hocc
    exact absurd (hax.trans (Text.infix_unlines_of_mem hx)) (Text.findLast?_eq_none_iff.mp hfind)
  | some i =>
    obtain ⟨hpre, hlast⟩ := (Text.findLast?_eq_some_iff ha).mp hfind
    obtain ⟨us, x, vs, j, rfl, rfl, hx⟩ := Text.exists_line_of_prefix_drop hline ha hpre
    have hj : j < x.length := by
      have := hx.length_le
      have := List.length_pos_iff.mpr ha
      simp only [List.length_drop] at *
      omega
    refine ⟨us, x, vs, j, rfl, hx.isInfix.trans (List.drop_suffix _ _).isInfix, ?_,
      Nat.le_of_lt hj, ?_⟩
    . intro y hy hay
      obtain ⟨vs, vs', rfl⟩ := List.append_of_mem hy
      obtain ⟨k, hk⟩ := Text.exists_prefix_drop_of_infix hay
      have hlater := Text.prefix_drop_unlines (us ++ x :: vs) vs' hk
      rw [List.append_assoc, List.cons_append] at hlater
      refine hlast _ ?_ hlater
      simp only [Text.ended_append, Text.ended_cons, List.length_append, List.length_cons]
      omega
    . simp [Anchor.search?, Anchor.whole?, Anchor.last?, ha, hfind]

theorem exists_applyOne_unlines {ls : List Text} (hlines : ∀ x ∈ ls, newline ∉ x)
    (hline : newline ∉ a) (ha : a ≠ []) (hocc : ∃ x ∈ ls, a <:+: x)
    (hsolid : ∀ x ∈ ls, a <:+: x → Text.isBlank x = false)
    (hplace : isInPlace (unlines ls) l a = false)
    : ∃ us x vs, ls = us ++ x :: vs ∧ a <:+: x ∧ (∀ y ∈ vs, ¬ a <:+: y) ∧
        applyOne (unlines ls) ⟨l, some a⟩ = unlines (us ++ l :: x :: vs) := by
  obtain ⟨us, x, vs, j, rfl, hx, hvs, hj, hsearch⟩ := exists_search?_unlines hlines hline ha hocc
  refine ⟨us, x, vs, rfl, hx, hvs, ?_⟩
  simp only [applyOne, hplace, hsearch, Bool.false_eq_true, ↓reduceIte]
  exact insertAt_unlines (hlines x (by simp)) (hsolid x (by simp) hx) hj l

theorem ne_nil_of_isBlank (ha : Text.isBlank a = false) : a ≠ [] := by
  rintro rfl
  exact absurd ha (by decide)

theorem applyOne_unlines (hlines : ∀ x ∈ pre ++ a :: post, newline ∉ x) (hl : newline ∉ l)
    (ha : Text.isBlank a = false) (honly : ∀ x ∈ pre ++ post, ¬ a <:+: x)
    (hlast : ∀ x ∈ pre.getLast?, ¬ l <:+ x)
    : applyOne (unlines (pre ++ a :: post)) ⟨l, some a⟩ = unlines (pre ++ l :: a :: post) := by
  have hplace : isInPlace (unlines (pre ++ a :: post)) l a = false := by
    rw [isInPlace, ← Bool.not_eq_true, Text.occursIn_iff]
    intro hinfix
    -- the line above the only line that holds the anchor would end with the comment
    obtain ⟨us, x, y, vs, hsplit, hx, hy⟩ :=
      Text.exists_neighbours_of_infix hl (hlines a (by simp)) hlines hinfix
    have hsplit : (us ++ [x]) ++ y :: vs = pre ++ a :: post := by simp [hsplit]
    obtain ⟨rfl, -, -⟩ := eq_of_append_cons_eq (p := (a <:+: ·)) hsplit hy.isInfix honly
    exact hlast x (by simp) hx
  have hsolid : ∀ x ∈ pre ++ a :: post, a <:+: x → Text.isBlank x = false := by
    intro x hx hax
    have : x = a := by
      by_contra hne
      exact honly x (by simpa [hne] using hx) hax
    exact this ▸ ha
  obtain ⟨us, x, vs, hsplit, hx, -, happly⟩ := exists_applyOne_unlines hlines (hlines a (by simp))
    (ne_nil_of_isBlank ha) ⟨a, by simp, List.infix_rfl⟩ hsolid hplace
  obtain ⟨rfl, rfl, rfl⟩ := eq_of_append_cons_eq (p := (a <:+: ·)) hsplit.symm hx honly
  exact happly

theorem append_eq_unlines {text : Text} (htext : text ≠ []) (c : Text)
    : append text c = unlines (lines (Text.dropNewlines text) ++ [c]) := by
  rw [Text.unlines_append (by simp), ← Text.unlines_append_newline (Text.lines_ne_nil _)]
  simp [append, htext]

end

/-! ### All comments -/

variable {ls rest body : List Text} {l a b : Text}

/-- The comment lines of a document. -/
def comments (ls : List Text) : List Text := ls.filter isComment

/-- The first line that is neither blank nor a comment. -/
def content? (ls : List Text) : Option Text := ls.find? fun l => !Text.isBlank l && !isComment l

/-- The comments that are followed by a given line with content, or by none, in order. -/
def above (content : Option Text) : List Text → List Text
  | [] => []
  | l :: rest =>
    if isComment l && content? rest == content then l :: above content rest else above content rest

/-- Lines with the comments of a document directly above the lines they belong to. -/
def woven (ls body : List Text) : List Text := body.flatMap fun l => above (some l) ls ++ [l]

/-- The anchors of the comments, in order. -/
def anchors (ls : List Text) : List (Option Text) := (pairs ls).map (·.anchor)

@[simp]
theorem woven_append (ls body body' : List Text)
    : woven ls (body ++ body') = woven ls body ++ woven ls body' := by
  simp [woven]

@[simp]
theorem woven_cons (ls body : List Text) (b : Text)
    : woven ls (b :: body) = above (some b) ls ++ b :: woven ls body := by
  simp [woven]

theorem anchors_cons_comment (hl : isComment l = true)
    : anchors (l :: rest) = rest.find? (!Text.isBlank ·) :: anchors rest := by
  simp [anchors, pairs, hl]

theorem anchors_cons_other (hl : isComment l = false) : anchors (l :: rest) = anchors rest := by
  simp [anchors, pairs, hl]

theorem above_cons_other (hl : isComment l = false) (content : Option Text)
    : above content (l :: rest) = above content rest := by
  simp [above, hl]

theorem above_cons_of_ne {content : Option Text} (h : content? rest ≠ content)
    : above content (l :: rest) = above content rest := by
  simp [above, h]

theorem above_cons_self (hl : isComment l = true)
    : above (content? rest) (l :: rest) = l :: above (content? rest) rest := by
  simp [above, hl]

theorem woven_cons_other (hl : isComment l = false) : woven (l :: rest) body = woven rest body := by
  simp only [woven, above_cons_other hl]

theorem woven_cons_of_not_mem (h : ∀ b ∈ body, content? rest ≠ some b)
    : woven (l :: rest) body = woven rest body := by
  induction body with
  | nil => rfl
  | cons b body ih =>
    simp only [List.mem_cons, forall_eq_or_imp] at h
    rw [woven_cons, woven_cons, above_cons_of_ne h.1, ih h.2]

theorem some_mem_anchors_of_content? (hl : isComment l = true) (hb : content? rest = some b)
    : some b ∈ anchors (l :: rest) := by
  induction rest generalizing l with
  | nil => simp [content?] at hb
  | cons x rest ih =>
    rw [anchors_cons_comment hl]
    by_cases hx : isComment x = true
    . have hrest : content? rest = some b := by simpa [content?, hx] using hb
      exact List.mem_cons_of_mem _ (ih hx hrest)
    . simp only [Bool.not_eq_true] at hx
      by_cases hblank : Text.isBlank x = true
      . have hrest : content? rest = some b := by simpa [content?, hblank] using hb
        have := ih hl hrest
        rw [anchors_cons_comment hl] at this
        simpa [hblank, anchors_cons_other hx] using this
      . obtain rfl : x = b := by simpa [content?, hx, hblank] using hb
        simp [hblank]

theorem above_eq_nil (h : some b ∉ anchors ls) : above (some b) ls = [] := by
  induction ls with
  | nil => rfl
  | cons l rest ih =>
    by_cases hl : isComment l = true
    . have hne : content? rest ≠ some b := fun hb => h (some_mem_anchors_of_content? hl hb)
      rw [anchors_cons_comment hl, List.mem_cons, not_or] at h
      rw [above_cons_of_ne hne, ih h.2]
    . simp only [Bool.not_eq_true] at hl
      rw [above_cons_other hl, ih (by rwa [anchors_cons_other hl] at h)]

/-- The anchor of a comment is the line below it once the later comments are back. -/
theorem head?_above (h : rest.find? (!Text.isBlank ·) ∉ anchors rest)
    : (above (content? rest) rest ++ (content? rest).toList).head?
        = rest.find? (!Text.isBlank ·) := by
  induction rest with
  | nil => rfl
  | cons x rest ih =>
    by_cases hx : isComment x = true
    . have hblank := isBlank_of_isComment hx
      have hrest : content? (x :: rest) = content? rest := by simp [content?, hx]
      rw [hrest, above_cons_self hx]
      simp [hblank]
    . simp only [Bool.not_eq_true] at hx
      rw [anchors_cons_other hx] at h
      rw [above_cons_other hx]
      by_cases hblank : Text.isBlank x = true
      . have hrest : content? (x :: rest) = content? rest := by simp [content?, hblank]
        simp only [List.find?_cons, hblank, Bool.not_true] at h ⊢
        rw [hrest, ih h]
      . simp only [Bool.not_eq_true] at hblank
        simp only [List.find?_cons, hblank, Bool.not_false] at h ⊢
        have hrest : content? (x :: rest) = some x := by simp [content?, hx, hblank]
        rw [hrest, above_eq_nil h]
        simp

end Comment
end YamlOrder
