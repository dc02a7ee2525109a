import YamlOrder.Layout.Basic
import YamlOrder.Proofs.Text.Blank

/-!
This module contains what wrapping does to a text: some single spaces of its long lines become a
line break and the indentation of their line, and nothing else changes.
-/

namespace YamlOrder
namespace Layout

/--
Whether a piece of a line can be followed by another one: there is no space on either side of the
cut.
-/
def Meets (p q : Text) : Prop := (∃ b ∈ p.getLast?, b ≠ Text.space) ∧ ∃ b ∈ q.head?, b ≠ Text.space

theorem mem_intercalate_of_mem {b : UInt8} {p : Text} {ps : List Text} {sep : Text} (hp : p ∈ ps)
    (hb : b ∈ p)
    : b ∈ List.intercalate sep ps := by
  induction ps with
  | nil => cases hp
  | cons q ps ih =>
    cases ps with
    | nil =>
      rw [List.mem_singleton.mp hp] at hb
      rwa [List.intercalate_singleton]
    | cons r ps =>
      rw [List.intercalate_cons_cons, List.append_assoc, List.mem_append, List.mem_append]
      obtain rfl | hp := List.mem_cons.mp hp
      . exact .inl hb
      . exact .inr (.inr (ih hp))

/-- A line that is cut at some of its single spaces, into at least one piece. -/
structure CutLine where
  indent : Nat
  first : Text
  later : List Text
  bare : first.head? ≠ some Text.space
  meets : (first :: later).IsChain Meets

namespace CutLine

def pieces (l : CutLine) : List Text := l.first :: l.later

/-- The line as it was: its pieces with one space between two of them. -/
def whole (l : CutLine) : Text := Text.spaces l.indent ++ List.intercalate [Text.space] l.pieces

/-- The lines that are written for it: its pieces, each with its indentation. -/
def written (l : CutLine) : List Text := l.pieces.map (Text.spaces l.indent ++ ·)

theorem indent_whole (l : CutLine) : Text.indent l.whole = l.indent := by
  refine Text.indent_spaces_append ?_ _
  obtain ⟨indent, first, later, hbare, hmeets⟩ := l
  cases later with
  | nil =>
    rw [pieces, List.intercalate_singleton]
    exact hbare
  | cons p later =>
    obtain ⟨⟨⟨b, hb, -⟩, -⟩, -⟩ := List.isChain_cons_cons.mp hmeets
    have hne : first ≠ [] := by
      rintro rfl
      cases hb
    rw [pieces, List.intercalate_cons_cons, List.append_assoc, List.head?_append_of_ne_nil _ hne]
    exact hbare

theorem newline_not_mem_of_mem_written {l : CutLine} (h : Text.newline ∉ l.whole) {line : Text}
    (hline : line ∈ l.written) : Text.newline ∉ line := by
  obtain ⟨p, hp, rfl⟩ := List.mem_map.mp hline
  rw [whole, List.mem_append, not_or] at h
  rw [List.mem_append, not_or]
  exact ⟨h.1, fun hnewline => h.2 (mem_intercalate_of_mem hp hnewline)⟩

end CutLine

variable {indent : Nat} {width : Int} {body line : Text} {i : Nat}

theorem isBreakable_of_breakAt? (h : breakAt? indent width body = some i)
    : isBreakable body i = true := by
  suffices hgo : ∀ (is : List Nat) (best : Option Nat), (∀ j ∈ best, isBreakable body j = true) →
      ∀ j ∈ breakAt?.go indent width body is best, isBreakable body j = true from
    hgo _ none (by simp) i h
  intro is
  induction is with
  | nil => exact fun best hbest => hbest
  | cons k is ih =>
    intro best hbest j hj
    rw [breakAt?.go] at hj
    split at hj
    . next hk =>
      split at hj
      . cases best with
        | none =>
          cases hj
          exact hk
        | some m => exact hbest j hj
      . exact ih (some k) (by simpa using hk) j hj
    . exact ih best hbest j hj

theorem exists_of_isBreakable (h : isBreakable body i = true)
    : body = body.take i ++ Text.space :: body.drop (i + 1) ∧
      Meets (body.take i) (body.drop (i + 1)) := by
  simp only [isBreakable, Bool.and_eq_true, decide_eq_true_eq, beq_iff_eq, bne_iff_ne] at h
  obtain ⟨⟨⟨⟨hpos, hspace⟩, hbefore⟩, hlength⟩, hafter⟩ := h
  obtain ⟨hi, hget⟩ := List.getElem?_eq_some_iff.mp hspace
  refine ⟨?_, ?_, ?_⟩
  . rw [← hget, List.getElem_cons_drop, List.take_append_drop]
  . refine ⟨body[i - 1], ?_, ?_⟩
    . rw [List.getLast?_take, if_neg (by omega), List.getElem?_eq_getElem (by omega)]
      rfl
    . rw [List.getElem?_eq_getElem (by omega)] at hbefore
      simpa using hbefore
  . refine ⟨body[i + 1], ?_, ?_⟩
    . rw [List.head?_drop, List.getElem?_eq_getElem hlength]
      rfl
    . rw [List.getElem?_eq_getElem hlength] at hafter
      simpa using hafter

theorem exists_pieces_of_go (line : Text) (indent : Nat) (width : Int) (body : Text) (fuel : Nat)
    : ∃ first later, first.head? = body.head? ∧ (first :: later).IsChain Meets ∧
        body = List.intercalate [Text.space] (first :: later) ∧
        wrapLine.go line indent width body fuel = (first :: later).map (line.take indent ++ ·) ∧
        (later ≠ [] → width < indent + Text.charCount body) := by
  induction fuel generalizing body with
  | zero => exact ⟨body, [], rfl, .singleton _, (List.intercalate_singleton).symm, rfl,
      fun h => absurd rfl h⟩
  | succ fuel ih =>
    have hwhole (hgo : wrapLine.go line indent width body (fuel + 1) = [line.take indent ++ body])
        : ∃ first later, first.head? = body.head? ∧ (first :: later).IsChain Meets ∧
          body = List.intercalate [Text.space] (first :: later) ∧
          wrapLine.go line indent width body (fuel + 1) =
          (first :: later).map (line.take indent ++ ·) ∧
          (later ≠ [] → width < indent + Text.charCount body) :=
      ⟨body, [], rfl, .singleton _, (List.intercalate_singleton).symm, hgo, fun h => absurd rfl h⟩
    by_cases hlong : (indent : Int) + Text.charCount body > width
    . cases hcut : breakAt? indent width body with
      | none => exact hwhole (by rw [wrapLine.go, if_pos hlong, hcut])
      | some i =>
        obtain ⟨hbody, hmeets⟩ := exists_of_isBreakable (isBreakable_of_breakAt? hcut)
        obtain ⟨first, later, hhead, hchain, hrest, hgo, -⟩ := ih (body.drop (i + 1))
        have hfirst : Meets (body.take i) first := ⟨hmeets.1, hhead ▸ hmeets.2⟩
        refine ⟨body.take i, first :: later, ?_, .cons_cons hfirst hchain, ?_, ?_, fun _ => hlong⟩
        . obtain ⟨b, hb, -⟩ := hmeets.1
          have hne : body.take i ≠ [] := by
            rintro hnil
            simp [hnil] at hb
          conv_rhs => rw [hbody]
          rw [List.head?_append_of_ne_nil _ hne]
        . rw [List.intercalate_cons_cons, ← hrest, List.append_assoc]
          exact hbody
        . rw [wrapLine.go, if_pos hlong, hcut]
          exact congrArg (_ :: ·) hgo
    . exact hwhole (by rw [wrapLine.go, if_neg hlong])

theorem exists_cut_of_wrapLine (line : Text) (width : Int)
    : ∃ l : CutLine, l.whole = line ∧ l.written = wrapLine line (Text.indent line) width ∧
        (l.later ≠ [] → width < Text.charCount line) := by
  obtain ⟨body, hline, hbare⟩ := Text.exists_eq_indent_append line
  have htake : line.take (Text.indent line) = Text.spaces (Text.indent line) :=
    (congrArg (List.take _) hline).trans (List.take_left' List.length_replicate)
  have hdrop : line.drop (Text.indent line) = body :=
    (congrArg (List.drop _) hline).trans (Text.drop_spaces_append _ _)
  obtain ⟨first, later, hhead, hchain, hpieces, hgo, hlong⟩ :=
    exists_pieces_of_go line (Text.indent line) width body (line.length + 1)
  refine ⟨⟨Text.indent line, first, later, hhead ▸ hbare, hchain⟩, ?_, ?_, ?_⟩
  . rw [CutLine.whole, CutLine.pieces, ← hpieces]
    exact hline.symm
  . rw [wrapLine, hdrop, hgo, htake]
    rfl
  . intro hlater
    have hcount : Text.charCount line = Text.indent line + Text.charCount body :=
      (congrArg Text.charCount hline).trans (Text.charCount_spaces_append _ _)
    rw [hcount]
    exact_mod_cast hlong hlater

theorem exists_cut_of_kept (line : Text) : ∃ l : CutLine, l.whole = line ∧ l.written = [line] ∧
    l.later = [] := by
  obtain ⟨body, hline, hbare⟩ := Text.exists_eq_indent_append line
  refine ⟨⟨Text.indent line, body, [], hbare, .singleton _⟩, ?_, ?_, rfl⟩
  . rw [CutLine.whole, CutLine.pieces, List.intercalate_singleton]
    exact hline.symm
  . rw [CutLine.written, CutLine.pieces, List.map_singleton, ← hline]

theorem exists_cuts_of_kept (lines : List Text)
    : ∃ ls : List CutLine, ls.map CutLine.whole = lines ∧ ls.flatMap CutLine.written = lines ∧
        ∀ l ∈ ls, l.later = [] := by
  induction lines with
  | nil => exact ⟨[], rfl, rfl, by simp⟩
  | cons line lines ih =>
    obtain ⟨l, hwhole, hwritten, hlater⟩ := exists_cut_of_kept line
    obtain ⟨ls, hwholes, hwrittens, hlaters⟩ := ih
    refine ⟨l :: ls, ?_, ?_, ?_⟩
    . rw [List.map_cons, hwhole, hwholes]
    . rw [List.flatMap_cons, hwritten, hwrittens]
      rfl
    . rw [List.forall_mem_cons]
      exact ⟨hlater, hlaters⟩

theorem exists_cut_of_wrapStep (width : Int) (state : WrapState) (line : Text)
    : ∃ l : CutLine, l.whole = line ∧ l.written = (wrapStep width state line).1 ∧
        (l.later ≠ [] → width < Text.charCount line) := by
  have hkept : ∃ l : CutLine, l.whole = line ∧ l.written = [line] ∧
    (l.later ≠ [] → width < Text.charCount line) := by
    obtain ⟨l, hwhole, hwritten, hlater⟩ := exists_cut_of_kept line
    exact ⟨l, hwhole, hwritten, fun h => absurd hlater h⟩
  cases state with
  | outside => exact hkept
  | inside header content =>
    simp only [wrapStep]
    split
    . exact hkept
    split
    . exact hkept
    split
    . next hindent =>
      rw [beq_iff_eq] at hindent
      rw [← hindent]
      exact exists_cut_of_wrapLine line width
    . exact hkept

theorem exists_cuts_of_wrapLines (width : Int) (state : WrapState) (lines : List Text)
    : ∃ ls : List CutLine, ls.map CutLine.whole = lines ∧
      ls.flatMap CutLine.written = wrapLines width state lines ∧
        ∀ l ∈ ls, l.later ≠ [] → width < Text.charCount l.whole := by
  induction lines generalizing state with
  | nil => exact ⟨[], rfl, rfl, by simp⟩
  | cons line lines ih =>
    obtain ⟨l, hwhole, hwritten, hlong⟩ := exists_cut_of_wrapStep width state line
    obtain ⟨ls, hwholes, hwrittens, hlongs⟩ := ih (wrapStep width state line).2
    refine ⟨l :: ls, ?_, ?_, ?_⟩
    . rw [List.map_cons, hwhole, hwholes]
    . rw [List.flatMap_cons, hwritten, hwrittens]
      rfl
    . rw [List.forall_mem_cons, hwhole]
      exact ⟨hlong, hlongs⟩

/--
Wrapping cuts some lines at some of their single spaces, and gives every piece the indentation of
its line. No other byte changes, and only lines that are longer than the width are cut.
-/
theorem wrapFolded_cuts_lines (text : Text) (width : Int)
    : ∃ ls : List CutLine, Text.lines text = ls.map CutLine.whole ∧
        Text.lines (wrapFolded text width) = ls.flatMap CutLine.written ∧
        ∀ l ∈ ls, l.later ≠ [] → width < Text.charCount l.whole := by
  unfold wrapFolded
  split
  . obtain ⟨ls, hwhole, hwritten, hlong⟩ := exists_cuts_of_kept (Text.lines text)
    exact ⟨ls, hwhole.symm, hwritten.symm, fun l hl h => absurd (hlong l hl) h⟩
  . obtain ⟨ls, hwhole, hwritten, hlong⟩ :=
      exists_cuts_of_wrapLines width .outside (Text.lines text)
    refine ⟨ls, hwhole.symm, ?_, hlong⟩
    rw [← hwritten]
    apply Text.lines_unlines
    . rw [Ne, List.flatMap_eq_nil_iff]
      intro hnil
      cases ls with
      | nil => exact Text.lines_ne_nil text hwhole.symm
      | cons l ls => exact List.cons_ne_nil _ _ (hnil l List.mem_cons_self)
    . intro line hline
      obtain ⟨l, hl, hline⟩ := List.mem_flatMap.mp hline
      have hmem : l.whole ∈ Text.lines text := hwhole ▸ List.mem_map_of_mem hl
      exact CutLine.newline_not_mem_of_mem_written (Text.newline_not_mem_of_mem_lines hmem) hline

/--
The double space is no place to cut at, and a piece that is too long is cut at its first single
space.
-/
example : wrapFolded "a: >\n  bcdef g  h i\n" 4 = "a: >\n  bcdef\n  g  h\n  i\n" := by decide

end Layout
end YamlOrder
