import Mathlib.Data.List.Chain
import YamlOrder.Proofs.Comment.Kept

/-!
This module contains the round trip of comments: a document whose lines are all different gets its
comments back where they were exactly if each of them can be told from the lines that are in the
text when its turn comes.
-/

namespace YamlOrder
namespace Comment

open Text (newline lines unlines)

variable {ls pre body below rest us vs : List Text} {a c x : Text}

/-- The lines of a text are lines with content. -/
def Dense (ls : List Text) : Prop := ∀ l ∈ ls, newline ∉ l ∧ Text.isBlank l = false

theorem Dense.sublist (h : Dense ls) (hsub : us.Sublist ls) : Dense us :=
    fun l hl => h l (hsub.subset hl)

theorem written_unlines (h : Dense ls) : written (unlines ls) = ls := by
  cases ls with
  | nil => rfl
  | cons l ls =>
    rw [written, Text.lines_unlines (by simp) (fun x hx => (h x hx).1), List.filter_eq_self]
    intro x hx
    simpa using ne_nil_of_isBlank (h x hx).2

theorem unlines_injective (hls : Dense ls) (hus : Dense us) (h : unlines ls = unlines us)
    : ls = us := by
  rw [← written_unlines hls, h, written_unlines hus]

theorem isInPlace_unlines (h : Dense ls) (hc : newline ∉ c) (ha : newline ∉ a)
    : isInPlace (unlines ls) c a = false ↔ ls.IsChain fun x y => ¬ (c <:+ x ∧ a <+: y) := by
  rw [isInPlace, ← Bool.not_eq_true, Text.occursIn_iff,
    List.isChain_iff_forall_rel_of_append_cons_cons]
  constructor
  . rintro hinfix x y us vs rfl ⟨⟨u, rfl⟩, ⟨v, rfl⟩⟩
    apply hinfix
    rw [Text.unlines_append (by simp), Text.unlines_cons_cons]
    have hnext := Text.prefix_unlines_cons (a ++ v) vs
    obtain ⟨w, hw⟩ := hnext
    exact ⟨Text.ended us ++ u, v ++ w, by rw [← hw]; simp⟩
  . intro hchain hinfix
    obtain ⟨us, x, y, vs, rfl, hx, hy⟩ :=
      Text.exists_neighbours_of_infix hc ha (fun l hl => (h l hl).1) hinfix
    exact hchain rfl ⟨hx, hy⟩

/--
A comment and its anchor can be told from the lines above and below them: no later line holds the
anchor, and no line that ends with the comment stands above one that starts with the anchor.
-/
structure Findable (body : List Text) (c a : Text) (below : List Text) : Prop where
  last : ∀ x ∈ below, ¬ a <:+: x
  clear : (body ++ a :: below).IsChain fun x y => ¬ (c <:+ x ∧ a <+: y)

theorem eq_of_last (h : us ++ x :: vs = body ++ a :: below) (hvs : ∀ y ∈ vs, ¬ a <:+: y)
    : (us = body ∧ x = a ∧ vs = below) ∨ (a ∈ us ∧ x ∈ below) := by
  obtain ⟨w, hbody, hrest⟩ | ⟨w, hus, hrest⟩ := List.append_eq_append_iff.mp h
  . cases w with
    | nil => simp_all
    | cons y w =>
      simp only [List.cons_append, List.cons.injEq] at hrest
      exact absurd List.infix_rfl (hvs a (by simp [hrest.2]))
  . cases w with
    | nil => simp_all
    | cons y w =>
      simp only [List.cons_append, List.cons.injEq] at hrest
      exact .inr ⟨by simp [hus, hrest.1], by simp [hrest.2]⟩

theorem exists_applyOne_dense (h : Dense ls) (ha : a ∈ ls)
    (hplace : isInPlace (unlines ls) c a = false)
    : ∃ us x vs, ls = us ++ x :: vs ∧ a <:+: x ∧ (∀ y ∈ vs, ¬ a <:+: y) ∧
        applyOne (unlines ls) ⟨c, some a⟩ = unlines (us ++ c :: x :: vs) :=
  exists_applyOne_unlines (fun l hl => (h l hl).1) (h a ha).1 (ne_nil_of_isBlank (h a ha).2)
    ⟨a, ha, List.infix_rfl⟩ (fun x hx _ => (h x hx).2) hplace

theorem applyOne_of_isInPlace (h : isInPlace (unlines ls) c a = true)
    : applyOne (unlines ls) ⟨c, some a⟩ = unlines ls := by
  simp [applyOne, h]

theorem applyOne_eq_iff (h : Dense (body ++ c :: a :: below)) (hc : c ∉ body ++ a :: below)
    : applyOne (unlines (body ++ a :: below)) ⟨c, some a⟩ = unlines (body ++ c :: a :: below) ↔
      Findable body c a below := by
  have hdense : Dense (body ++ a :: below) :=
    h.sublist ((List.sublist_cons_self c _).append_left body)
  have hline {x : Text} (hx : x ∈ body ++ c :: a :: below) : newline ∉ x := (h x hx).1
  have hchain := isInPlace_unlines hdense (hline (x := c) (by simp)) (hline (x := a) (by simp))
  constructor
  . intro heq
    cases hplace : isInPlace (unlines (body ++ a :: below)) c a with
    | true =>
      rw [applyOne_of_isInPlace hplace] at heq
      simpa using congrArg List.length (unlines_injective hdense h heq)
    | false =>
      obtain ⟨us, x, vs, hsplit, -, hvs, happly⟩ := exists_applyOne_dense hdense (by simp) hplace
      refine ⟨?_, hchain.mp hplace⟩
      rw [happly] at heq
      have hall : Dense (us ++ c :: x :: vs) := by
        intro l hl
        by_cases hlc : l = c
        . exact hlc ▸ h c (by simp)
        . exact hdense l (by rw [hsplit]; simpa [hlc] using hl)
      obtain ⟨-, -, hrest⟩ := eq_of_append_cons_eq (p := (· = c)) (unlines_injective hall h heq) rfl
        (fun y hy hyc => hc (hyc ▸ hy))
      have hbelow : vs = below := (List.cons.inj hrest).2
      exact hbelow ▸ hvs
  . rintro ⟨hlast, hclear⟩
    obtain ⟨us, x, vs, hsplit, hx, hvs, happly⟩ :=
      exists_applyOne_dense hdense (by simp) (hchain.mpr hclear)
    obtain ⟨rfl, rfl, rfl⟩ | ⟨-, hbelow⟩ := eq_of_last hsplit.symm hvs
    . exact happly
    . exact absurd hx (hlast x hbelow)

/-- The lines that are not comments. -/
def content (ls : List Text) : List Text := ls.filter (!isComment ·)

theorem length_content_add_comments (ls : List Text)
    : (content ls).length + (comments ls).length = ls.length := by
  rw [Nat.add_comm]
  simpa [content, comments] using (List.length_eq_length_filter_add isComment (l := ls)).symm

theorem exists_pairs_append (pre rest : List Text)
    : ∃ ps, pairs (pre ++ rest) = ps ++ pairs rest ∧ ps.map (·.comment) = comments pre := by
  induction pre with
  | nil => exact ⟨[], rfl, rfl⟩
  | cons l pre ih =>
    obtain ⟨ps, hps, hcomments⟩ := ih
    by_cases hl : isComment l = true
    . exact ⟨⟨l, (pre ++ rest).find? (!Text.isBlank ·)⟩ :: ps, by simp [pairs, hl, hps],
        by simpa [comments, hl] using hcomments⟩
    . exact ⟨ps, by simp [pairs, hl, hps], by simpa [comments, hl] using hcomments⟩

theorem apply_append (ps qs : List CommentPair) (text : Text)
    : apply (ps ++ qs) text = apply ps (apply qs text) := by
  simp [apply]

theorem apply_pairs_comment (hc : isComment c = true) (text : Text)
    : apply (pairs (c :: a :: below)) text =
        applyOne (apply (pairs (a :: below)) text) ⟨c, (a :: below).find? (!Text.isBlank ·)⟩ := by
  rw [pairs, if_pos hc, apply_cons]

theorem append_unlines (h : Dense ls) (c : Text) : append (unlines ls) c = unlines (ls ++ [c]) := by
  cases List.eq_nil_or_concat' ls with
  | inl hnil => simp [hnil, append]
  | inr hconcat =>
    obtain ⟨us, u, rfl⟩ := hconcat
    have hne : u ≠ [] := ne_nil_of_isBlank (h u (by simp)).2
    have hunlines : unlines (us ++ [u]) ≠ [] := by
      rw [Text.unlines_append (by simp)]
      simp [hne]
    rw [append_eq_unlines hunlines,
      Text.dropNewlines_unlines (fun l hl => (h l hl).1) (by simp) hne,
      Text.lines_unlines (by simp) (fun l hl => (h l hl).1)]

/--
The text once the comments of the last lines of a document have had their turns, if all of them are
in place.
-/
def regained (pre rest : List Text) : Text := unlines (content pre ++ rest)

theorem regained_other (hc : isComment c = false) (pre rest : List Text)
    : regained (pre ++ [c]) rest = regained pre (c :: rest) := by
  simp [regained, content, hc]

theorem regained_comment (hc : isComment c = true) (pre rest : List Text)
    : regained (pre ++ [c]) rest = regained pre rest := by
  simp [regained, content, hc]

theorem not_mem_of_nodup (hc : isComment c = true) (hnodup : (pre ++ c :: rest).Nodup)
    : c ∉ content pre ++ rest := by
  rw [List.mem_append, not_or]
  constructor
  . intro hmem
    simp [content, hc] at hmem
  . exact (List.nodup_cons.mp (List.nodup_append.mp hnodup).2.1).1

theorem apply_pairs_eq_regained (h : Dense ls)
    (hstep : ∀ pre c a post, ls = pre ++ c :: a :: post → isComment c = true →
      apply (pairs (a :: post)) (strip ls) = regained pre (a :: post) →
        applyOne (regained pre (a :: post)) ⟨c, some a⟩ = regained pre (c :: a :: post))
    : ∀ rest pre, ls = pre ++ rest → apply (pairs rest) (strip ls) = regained pre rest := by
  intro rest
  induction rest with
  | nil =>
    rintro pre rfl
    simp [pairs, apply, strip, regained, content]
  | cons c rest ih =>
    intro pre hsplit
    have ih := ih (pre ++ [c]) (by simp [hsplit])
    cases hc : isComment c with
    | false =>
      rw [regained_other hc] at ih
      simpa [pairs, hc] using ih
    | true =>
      rw [regained_comment hc] at ih
      cases rest with
      | nil =>
        have hpre : Dense (content pre) :=
          h.sublist (hsplit ▸ List.filter_sublist.trans (List.sublist_append_left _ _))
        have happly : apply (pairs [c]) (strip ls) = append (apply (pairs []) (strip ls)) c := by
          simp [pairs, hc, applyOne]
        rw [happly, ih, regained, List.append_nil, append_unlines hpre, regained]
      | cons a post =>
        have ha : (a :: post).find? (!Text.isBlank ·) = some a := by
          simp [(h a (by simp [hsplit])).2]
        rw [apply_pairs_comment hc, ih, ha]
        exact hstep pre c a post hsplit hc ih

theorem sublist_of_nodup (hnodup : (pre ++ c :: below).Nodup)
    (h : (us ++ c :: vs).Sublist (pre ++ c :: below))
    : us.Sublist pre := by
  have hbelow : c ∉ below := (List.nodup_cons.mp (List.nodup_append.mp hnodup).2.1).1
  obtain ⟨rs, rs', hsplit, hus, hvs⟩ := List.append_sublist_iff.mp h
  obtain ⟨w, rfl, hrest⟩ | ⟨w, rfl, -⟩ := List.append_eq_append_iff.mp hsplit
  . cases w with
    | nil => simpa using hus
    | cons y w =>
      simp only [List.cons_append, List.cons.injEq] at hrest
      exact absurd (by simp [hrest.2, hvs.subset List.mem_cons_self]) hbelow
  . exact hus.trans (List.sublist_append_left _ _)

theorem interleaved_of_roundTrip (h : Dense ls) (hround : apply (pairs ls) (strip ls) = unlines ls)
    (hsplit : ls = pre ++ rest)
    : ∃ added, added.Subperm (comments pre) ∧
      Interleaved (written (apply (pairs rest) (strip ls))) added ls := by
  obtain ⟨ps, hps, hcomments⟩ := exists_pairs_append pre rest
  have hpairs : ∀ pair ∈ ps, pair.comment ≠ [] ∧ newline ∉ pair.comment := by
    intro pair hpair
    apply forall_mem_pairs (fun l hl => (h l hl).1) pair
    rw [hsplit, hps]
    exact List.mem_append_left _ hpair
  obtain ⟨added, hperm, hadded⟩ := interleaved_apply ps hpairs (apply (pairs rest) (strip ls))
  refine ⟨added, ?_, ?_⟩
  . rw [← hcomments]
    exact hperm.subperm.trans (returned_sublist _ _).subperm
  . have hrun : apply ps (apply (pairs rest) (strip ls)) = unlines ls := by
      rw [← apply_append, ← hps, ← hsplit, hround]
    rwa [hrun, written_unlines h] at hadded

theorem applyOne_of_roundTrip (h : Dense ls) (hnodup : ls.Nodup)
    (hround : apply (pairs ls) (strip ls) = unlines ls) {post : List Text}
    (hsplit : ls = pre ++ c :: a :: post) (hc : isComment c = true)
    (hrest : apply (pairs (a :: post)) (strip ls) = regained pre (a :: post))
    : applyOne (regained pre (a :: post)) ⟨c, some a⟩ = regained pre (c :: a :: post) := by
  have ha : (a :: post).find? (!Text.isBlank ·) = some a := by simp [(h a (by simp [hsplit])).2]
  have hdense : Dense (content pre ++ a :: post) :=
    h.sublist (hsplit ▸ List.filter_sublist.append (List.sublist_cons_self c _))
  obtain ⟨added, hadded, hrun⟩ := interleaved_of_roundTrip h hround hsplit
  rw [apply_pairs_comment hc, hrest, ha] at hrun
  unfold regained at hrun ⊢
  cases hplace : isInPlace (unlines (content pre ++ a :: post)) c a with
  | true =>
    -- a comment that is passed over would be missing in the end
    rw [applyOne_of_isInPlace hplace, written_unlines hdense] at hrun
    have hlength := hrun.perm.length_eq
    have hcount := length_content_add_comments pre
    have hle := hadded.length_le
    simp only [hsplit, List.length_append, List.length_cons] at hlength
    omega
  | false =>
    obtain ⟨us, x, vs, hlines, -, hvs, happly⟩ := exists_applyOne_dense hdense (by simp) hplace
    rw [happly] at hrun ⊢
    have hall : Dense (us ++ c :: x :: vs) := by
      intro l hl
      by_cases hlc : l = c
      . exact hlc ▸ h c (by simp [hsplit])
      . exact hdense l (by rw [hlines]; simpa [hlc] using hl)
    obtain ⟨rfl, rfl, rfl⟩ | ⟨hmem, -⟩ := eq_of_last hlines.symm hvs
    . rfl
    . -- a comment that is put further down would stay below its anchor
      rw [written_unlines hall, hsplit] at hrun
      have hbefore := sublist_of_nodup (hsplit ▸ hnodup) hrun.sublist
      have hdisjoint := (List.nodup_append.mp (hsplit ▸ hnodup)).2.2
      exact absurd rfl (hdisjoint a (hbefore.subset hmem) a (by simp))

/--
Let the lines of a document be different from each other and none of them blank. If its comments are
taken out and put back, the document is the same as before exactly if every comment can be told from
the lines that are in the text when its turn comes: from all lines below it, and from the lines
above it that are not comments.
-/
theorem roundTrip_eq_iff (document : Text) (htrim : Text.trim document = document)
    (hsolid : ∀ l ∈ lines document, Text.isBlank l = false) (hnodup : (lines document).Nodup)
    : roundTrip document = document ↔
        ∀ pre c a post, lines document = pre ++ c :: a :: post → isComment c = true →
          Findable (content pre) c a post := by
  have hdense : Dense (lines document) :=
    fun l hl => ⟨Text.newline_not_mem_of_mem_lines hl, hsolid l hl⟩
  have hround : roundTrip document = apply (pairs (lines document)) (strip (lines document)) := by
    rw [roundTrip, linesOf, htrim]
  have hplace {pre post : List Text} {c a : Text} (hsplit : lines document = pre ++ c :: a :: post)
      (hc : isComment c = true)
      : applyOne (regained pre (a :: post)) ⟨c, some a⟩ = regained pre (c :: a :: post) ↔
          Findable (content pre) c a post :=
    applyOne_eq_iff (hdense.sublist (hsplit ▸ List.filter_sublist.append_right _))
      (not_mem_of_nodup hc (hsplit ▸ hnodup))
  rw [hround]
  constructor
  . intro heq pre c a post hsplit hc
    rw [← hplace hsplit hc]
    have heq : apply (pairs (lines document)) (strip (lines document)) =
      unlines (lines document) := by
      rw [heq, Text.unlines_lines]
    have hrun := apply_pairs_eq_regained hdense fun pre c a post hsplit hc =>
      applyOne_of_roundTrip hdense hnodup heq hsplit hc
    have hrest := hrun (a :: post) (pre ++ [c]) (by simp [hsplit])
    rw [regained_comment hc] at hrest
    exact applyOne_of_roundTrip hdense hnodup heq hsplit hc hrest
  . intro hfind
    have hrun := apply_pairs_eq_regained hdense fun pre c a post hsplit hc _ =>
      (hplace hsplit hc).mpr (hfind pre c a post hsplit hc)
    rw [hrun (lines document) [] rfl, regained, content, List.filter_nil, List.nil_append,
      Text.unlines_lines]

/-- Of two lines that start alike, the shorter one may come last. -/
theorem roundTrip_eq_iff_prefix
    : Text.trim "# x\na: 10\n# y\na: 1" = ("# x\na: 10\n# y\na: 1" : Text) ∧
      (∀ l ∈ lines "# x\na: 10\n# y\na: 1", Text.isBlank l = false) ∧
      (lines "# x\na: 10\n# y\na: 1").Nodup ∧
      roundTrip "# x\na: 10\n# y\na: 1" = ("# x\na: 10\n# y\na: 1" : Text) := by
  have htrim : Text.trim "# x\na: 10\n# y\na: 1" = ("# x\na: 10\n# y\na: 1" : Text) := by decide
  have hsolid : ∀ l ∈ lines "# x\na: 10\n# y\na: 1", Text.isBlank l = false := by decide
  have hnodup : (lines "# x\na: 10\n# y\na: 1").Nodup := by decide
  have hlines : lines "# x\na: 10\n# y\na: 1" =
    [("# x" : Text), "a: 10", "# y", "a: 1"] := by decide
  refine ⟨htrim, hsolid, hnodup, (roundTrip_eq_iff _ htrim hsolid hnodup).mpr ?_⟩
  rintro pre c a post hsplit hc
  rw [hlines] at hsplit
  match pre with
  | [] =>
    simp only [List.nil_append, List.cons.injEq] at hsplit
    obtain ⟨rfl, rfl, rfl⟩ := hsplit
    exact ⟨by decide, by decide⟩
  | [_] =>
    simp only [List.cons_append, List.nil_append, List.cons.injEq] at hsplit
    obtain ⟨-, rfl, -⟩ := hsplit
    exact absurd hc (by decide)
  | [_, _] =>
    simp only [List.cons_append, List.nil_append, List.cons.injEq] at hsplit
    obtain ⟨rfl, rfl, rfl, rfl, rfl⟩ := hsplit
    exact ⟨by decide, by decide⟩
  | _ :: _ :: _ :: _ =>
    have hlength := congrArg List.length hsplit
    simp at hlength
    omega

/-- A comment goes to a line that holds its anchor, if this line comes later. -/
theorem roundTrip_ne
    : Text.trim "# c\na: 1\nba: 1" = ("# c\na: 1\nba: 1" : Text) ∧
      (∀ l ∈ lines "# c\na: 1\nba: 1", Text.isBlank l = false) ∧ (lines "# c\na: 1\nba: 1").Nodup ∧
      roundTrip "# c\na: 1\nba: 1" = ("a: 1\n# c\nba: 1" : Text) ∧
      roundTrip "# c\na: 1\nba: 1" ≠ ("# c\na: 1\nba: 1" : Text) := by
  decide

end Comment
end YamlOrder
