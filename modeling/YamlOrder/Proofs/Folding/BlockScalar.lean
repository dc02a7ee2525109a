import YamlOrder.Proofs.Folding.Wrap

/-!
This module contains block scalars some of whose spaces are cut. A folded scalar joins the pieces of
a line with the spaces that were between them, so the values are the same.
-/

namespace YamlOrder
namespace Yaml
namespace Wrap

variable {w : Wrap} {c c' : Cursor} {start start' : Mark} {least indent fuel fuel' deepest n : Nat}
variable {breaks : List Char} {last last' : Mark}

theorem Here.spaces (h : w.Here c c') (hflush : w.Flush c.mark.index)
    : c'.takeWhile (· == ' ') = c.takeWhile (· == ' ') ∧
        ∀ n ≤ (c.takeWhile (· == ' ')).length, w.cut (c.mark.index + n) = none := by
  have hspaces : ∀ n ≤ (c.takeWhile (· == ' ')).length, w.cut (c.mark.index + n) = none := by
    intro n hn
    refine hflush n fun m hm => ?_
    have hlt : m < (c.rest.takeWhile (· == ' ')).length := by
      unfold Cursor.takeWhile at hn
      omega
    have hget := (List.takeWhile_prefix (· == ' ')).getElem hlt
    have hmem := List.mem_takeWhile_imp (List.getElem_mem hlt)
    have hlength := (List.takeWhile_prefix (· == ' ') (l := c.rest)).length_le
    rw [hget, beq_iff_eq] at hmem
    rw [← h.place.peek, Cursor.peek_eq, List.getD_eq_getElem?_getD,
      List.getElem?_eq_getElem (hlt.trans_le hlength),
      hmem]
    rfl
  refine ⟨?_, hspaces⟩
  have hdrop : w.chars.drop c.mark.index = c.rest.takeWhile (· == ' ') ++
    c.rest.dropWhile (· == ' ') := by
    rw [← h.place.rest]
    exact List.takeWhile_append_dropWhile.symm
  have hclear : w.Clear c.mark.index (c.mark.index + (c.rest.takeWhile (· == ' ')).length) := by
    intro k hle hlt
    rw [← Nat.add_sub_cancel' hle]
    exact hspaces _ (by unfold Cursor.takeWhile; omega)
  obtain ⟨hafter, hnext⟩ := after_of_clear hdrop hclear
  have hstop := hspaces _ (Nat.le_refl _)
  unfold Cursor.takeWhile at hstop ⊢
  have hall : ∀ ch ∈ c.rest.takeWhile (· == ' '), (ch == ' ') = true := fun ch hch =>
    List.mem_takeWhile_imp (p := (· == ' ')) hch
  rw [h.rest', hafter, List.takeWhile_append_of_pos hall]
  cases hrest : c.rest.dropWhile (· == ' ') with
  | nil =>
    rw [hrest] at hnext
    rw [after, hnext, broken, List.takeWhile_nil, List.append_nil]
  | cons ch cs =>
    have hhead := List.head?_dropWhile_not (· == ' ') c.rest
    rw [hrest] at hhead hnext
    rw [after_of_none hnext hstop, List.takeWhile_cons_of_neg (by simpa using hhead),
      List.append_nil]

/-- The same empty lines of a block scalar. -/
structure BreaksTwin (w : Wrap) (b b' : BlockBreaks) : Prop where
  here : w.Here b.cursor b'.cursor
  column : b'.cursor.mark.column = b.cursor.mark.column
  indent : b'.indent = b.indent
  breaks : b'.breaks = b.breaks
  uncut : w.cut b.cursor.mark.index = none

theorem Here.breaks_go (h : w.Here c c') (hcolumn : c'.mark.column = c.mark.column)
    (hflush : w.Flush c.mark.index) (hfuel : c.rest.length < fuel) (hfuel' : c'.rest.length < fuel')
    : Simulates w.BreaksTwin (scanBlockBreaks.go start least indent fuel breaks deepest last c)
        (scanBlockBreaks.go start' least indent fuel' breaks deepest last' c') := by
  induction fuel generalizing fuel' breaks deepest last last' c c' with
  | zero => exact absurd hfuel (Nat.not_lt_zero _)
  | succ fuel ih =>
    obtain ⟨fuel', rfl⟩ : ∃ k, fuel' = k + 1 := ⟨fuel' - 1, by omega⟩
    obtain ⟨hspaces, huncut⟩ := h.spaces hflush
    have hwidth : scanBlockBreaks.width indent c' = scanBlockBreaks.width indent c := by
      unfold scanBlockBreaks.width
      rw [hspaces, hcolumn]
    have hle := scanBlockBreaks.width_le indent c
    have hnext : w.Here (scanBlockBreaks.indented indent c)
      (scanBlockBreaks.indented indent c') := by
      rw [scanBlockBreaks.indented, scanBlockBreaks.indented, hwidth]
      refine h.skipN fun k hk hlt => ?_
      rw [← Nat.add_sub_cancel' hk]
      exact huncut _ (by unfold Cursor.takeWhile; omega)
    have hstop : w.cut (scanBlockBreaks.indented indent c).mark.index = none := by
      rw [scanBlockBreaks.indented, Cursor.index_skipN]
      exact huncut _ hle
    have hplace : (scanBlockBreaks.indented indent c').mark.column =
        (scanBlockBreaks.indented indent c).mark.column := by
      rw [scanBlockBreaks.indented, scanBlockBreaks.indented, Cursor.column_skipN,
        Cursor.column_skipN, hwidth, hcolumn]
    have hshort : (scanBlockBreaks.indented indent c).rest.length ≤ c.rest.length := by
      rw [scanBlockBreaks.indented, Cursor.rest_skipN, List.length_drop]
      exact Nat.sub_le _ _
    have hshort' : (scanBlockBreaks.indented indent c').rest.length ≤ c'.rest.length := by
      rw [scanBlockBreaks.indented, Cursor.rest_skipN, List.length_drop]
      exact Nat.sub_le _ _
    have hpeek := hnext.peek hstop
    rw [scanBlockBreaks.go_succ h.place.toWhole, scanBlockBreaks.go_succ h.whole', hplace, hpeek]
    generalize scanBlockBreaks.indented indent c = d at *
    generalize scanBlockBreaks.indented indent c' = d' at *
    split
    . exact .error _ _
    split
    . next hbreak =>
      obtain ⟨hline, hstart, hstart'⟩ := hnext.skipLine hbreak
      have hshorter := Cursor.length_skipLine_lt hbreak
      have hshorter' := Cursor.length_skipLine_lt (hpeek ▸ hbreak : isBreak d'.peek = true)
      have hsame : d'.lineBreak = d.lineBreak := by rw [Cursor.lineBreak, hpeek, Cursor.lineBreak]
      have hpos := Cursor.index_lt_skipLine hnext.place.toWhole hbreak
      rw [hsame]
      refine ih hline (hstart'.trans hstart.symm) ?_ (by omega) (by omega)
      exact flush_of_break (hnext.place.isBreak_skipLine hbreak) (by omega)
    . exact .ok ⟨hnext, hplace, rfl, rfl, hstop⟩

theorem Here.emptyLines (h : w.Here c c') (hbreak : isBreak c.peek = true)
    : Simulates w.BreaksTwin (scanBlockBreaks start least indent c.skipLine)
        (scanBlockBreaks start' least indent c'.skipLine) := by
  obtain ⟨hline, hstart, hstart'⟩ := h.skipLine hbreak
  have hpos := Cursor.index_lt_skipLine h.place.toWhole hbreak
  refine hline.breaks_go (hstart'.trans hstart.symm) ?_ (Nat.lt_succ_self _) (Nat.lt_succ_self _)
  exact flush_of_break (h.place.isBreak_skipLine hbreak) (by omega)

end Wrap

section Step

variable {start : Mark} {literal leadingBlank : Bool} {chomping : Chomping} {fuel n : Nat}
  {c : Cursor}
variable {value firstBreak : List Char} {b : BlockBreaks} {ch : Char} {x content r : List Char}

/-- What stands for the line break before a line of a block scalar. -/
def blockJoint (literal leadingBlank : Bool) (firstBreak : List Char) (b : BlockBreaks)
    : List Char :=
  if joinsLines literal leadingBlank (isBlank b.cursor.peek) firstBreak then
    if b.breaks.isEmpty then [' '] else []
  else
    firstBreak

theorem scanBlockLines.go_line (hcolumn : b.cursor.mark.column = b.indent)
    (hend : isEnd b.cursor.peek = false)
    : go start literal chomping (fuel + 1) value firstBreak leadingBlank b =
        (do
          let next ← scanBlockBreaks start 0 b.indent b.cursor.skipToBreak.skipLine
          go start literal chomping fuel
            (value ++ blockJoint literal leadingBlank firstBreak b ++ b.breaks ++
              b.cursor.takeWhile (!isBreakOrEnd ·))
            b.cursor.skipToBreak.lineBreak (isBlank b.cursor.peek) next) := by
  rw [go]
  dsimp only
  rw [hcolumn, hend, beq_self_eq_true, Bool.not_false, Bool.and_true, if_pos rfl]
  rfl

theorem scanBlockBreaks_of_spaces (start : Mark) (hc : c.Whole)
    (hrest : c.rest = List.replicate n ' ' ++ ch :: x) (hcolumn : c.mark.column = 0) (hpos : 0 < n)
    (hblank : isBlank ch = false) (hbreak : isBreak ch = false)
    : scanBlockBreaks start 0 n c = .ok ⟨[], n, c.mark, c.skipN n⟩ := by
  have hspace := beq_space_of_isBlank hblank
  have hspaces : c.takeWhile (· == ' ') = List.replicate n ' ' := by
    rw [Cursor.takeWhile, hrest, List.takeWhile_append_of_pos (by simp),
      List.takeWhile_cons_of_neg (by simp [hspace]),
      List.append_nil]
  have hne : (n == 0) = false := by simpa using Nat.ne_of_gt hpos
  have hwidth : scanBlockBreaks.width n c = n := by
    simp [scanBlockBreaks.width, hspaces, hne, hcolumn]
  have hpeek : (c.skipN n).peek = ch := by
    rw [Cursor.peek_eq, Cursor.rest_skipN, hrest, List.drop_left' (List.length_replicate)]
    rfl
  have hplace : (c.skipN n).mark.column = n := by rw [Cursor.column_skipN, hcolumn, Nat.zero_add]
  rw [scanBlockBreaks, scanBlockBreaks.go_succ hc, scanBlockBreaks.indented, hwidth, hpeek, hbreak,
    hplace, hne]
  simp [scanBlockBreaks.finish, hne]

theorem Cursor.skipToBreak_of_rest (hc : c.Whole) (hrest : c.rest = content ++ ch :: x)
    (hplain : ∀ d ∈ content, isBreakOrEnd d = false) (hch : isBreakOrEnd ch = true)
    : c.takeWhile (!isBreakOrEnd ·) = content ∧ c.skipToBreak = c.skipN content.length := by
  have hline : c.takeWhile (!isBreakOrEnd ·) = content := by
    rw [takeWhile, hrest, List.takeWhile_append_of_pos fun d hd => by
      rw [hplain d hd, Bool.not_false],
      List.takeWhile_cons_of_neg (by simp [hch]), List.append_nil]
  refine ⟨hline, ?_⟩
  rw [takeWhile] at hline
  rw [skipToBreak, skipWhile, hline, (hc.skipN _).need]

theorem Cursor.newlines_skipN (hpeek : isBlank c.peek = false) (n : Nat)
    : (c.skipN (n + 1)).newlines = 0 := by
  have hskip : c.skip.newlines = 0 := by simp [skip, hpeek]
  rw [skipN]
  generalize c.skip = d at hskip
  induction n generalizing d with
  | zero => exact hskip
  | succ n ih =>
    refine ih d.skip ?_
    simp [skip, hskip]

theorem scanBlockLines.go_cut (start : Mark) (chomping : Chomping) (fuel : Nat) {ch' : Char}
    {cs : List Char} (hc : c.Whole) (hpos : 0 < n) (hcolumn : c.mark.column = n)
    (hrest : c.rest = ch :: cs ++ '\n' :: (List.replicate n ' ' ++ ch' :: x))
    (hplain : ∀ d ∈ ch :: cs, isBreakOrEnd d = false) (hblank : isBlank ch = false)
    (hblank' : isBlank ch' = false) (hbreak' : isBreak ch' = false)
    : ∃ last' d, d.Whole ∧ d.rest = ch' :: x ∧ d.mark.column = n ∧
      c.mark.index + cs.length + 2 ≤ d.mark.index ∧
        c.mark.line ≤ d.mark.line ∧
        ∀ value firstBreak leadingBlank breaks last,
          go start false chomping (fuel + 1) value firstBreak leadingBlank ⟨breaks, n, last, c⟩ =
            go start false chomping fuel
              (value ++ blockJoint false leadingBlank firstBreak ⟨breaks, n, last, c⟩ ++
                breaks ++ ch :: cs)
              ['\n'] false ⟨[], n, last', d⟩ := by
  obtain ⟨hline, hskip⟩ := Cursor.skipToBreak_of_rest hc hrest hplain rfl
  have hpeek : c.peek = ch := Cursor.peek_of_rest hrest
  have hend : isEnd ch = false := by
    have := hplain ch List.mem_cons_self
    rw [isBreakOrEnd, Bool.or_eq_false_iff] at this
    exact this.2
  -- the end of the line
  generalize he : c.skipToBreak = e at hskip
  have hwhole : e.Whole := hskip ▸ hc.skipN _
  have herest : e.rest = '\n' :: (List.replicate n ' ' ++ ch' :: x) := by
    rw [hskip, Cursor.rest_skipN, hrest, List.drop_left]
  have hepeek : e.peek = '\n' := Cursor.peek_of_rest herest
  have hpair : e.atPair = false := by
    rw [Cursor.atPair, hepeek]
    rfl
  have hnext := hwhole.skipLine_eq (by rw [hepeek]; rfl)
  rw [hpair, if_neg Bool.false_ne_true] at hnext
  have hspaces : e.skipLine.rest = List.replicate n ' ' ++ ch' :: x := by
    rw [hnext, herest]
    rfl
  have hbreaks := scanBlockBreaks_of_spaces start hwhole.skipLine hspaces (by rw [hnext]) hpos
    hblank' hbreak'
  refine ⟨e.skipLine.mark, e.skipLine.skipN n, hwhole.skipLine.skipN n, ?_, ?_, ?_, ?_, ?_⟩
  . rw [Cursor.rest_skipN, hspaces]
    exact List.drop_left' List.length_replicate
  . rw [Cursor.column_skipN, hnext, Nat.zero_add]
  . rw [Cursor.index_skipN, hnext, hskip, Cursor.index_skipN]
    simp only [List.length_cons]
    omega
  . rw [Cursor.line_skipN, hnext, hskip, Cursor.line_skipN]
    exact Nat.le_succ _
  . intro value firstBreak leadingBlank breaks last
    have hfirst : e.lineBreak = ['\n'] := by
      rw [Cursor.lineBreak, hepeek]
      rfl
    rw [go_line hcolumn (by rw [hpeek, hend])]
    dsimp only
    rw [he, hbreaks, hline, hpeek, hblank, hfirst]
    rfl

end Step

namespace Wrap

/-- A reader at the end of a line that starts at another one and is read up to an index. -/
structure Ended (w : Wrap) (c : Cursor) (i length : Nat) (d : Cursor) : Prop where
  whole : d.Whole
  rest : d.rest = w.after (i + length)
  newlines : d.newlines = 0
  index_le : c.mark.index + length ≤ d.mark.index
  line_le : c.mark.line ≤ d.mark.line

variable {w : Wrap} {c : Cursor} {start : Mark} {chomping : Chomping} {fuel n i k : Nat}
  {content r : List Char}

theorem none_of_not_blank {ch : Char} {cs : List Char} (h : w.chars.drop i = ch :: cs)
    (hblank : isBlank ch = false)
    : w.cut i = none := by
  by_contra hne
  obtain ⟨m, hm⟩ := Option.ne_none_iff_exists'.mp hne
  have hspace := w.space i m hm
  rw [List.getD_eq_getElem?_getD, ← List.head?_drop, h, List.head?_cons, Option.getD_some] at hspace
  rw [hspace] at hblank
  cases hblank

theorem exists_first_cut (hdrop : w.chars.drop i = content ++ r)
    (h : ¬ w.Clear i (i + content.length))
    : ∃ piece more m, content = piece ++ ' ' :: more ∧ w.Clear i (i + piece.length) ∧
        w.cut (i + piece.length) = some m := by
  induction content generalizing i with
  | nil => exact absurd (fun k hle hlt => absurd hle (Nat.not_le_of_lt hlt)) h
  | cons ch cs ih =>
    rw [List.cons_append] at hdrop
    cases hcut : w.cut i with
    | some m =>
      have hspace := w.space i m hcut
      rw [List.getD_eq_getElem?_getD, ← List.head?_drop, hdrop, List.head?_cons,
        Option.getD_some] at hspace
      exact ⟨[], cs, m, by rw [hspace, List.nil_append],
        fun k hle hlt => absurd hle (Nat.not_le_of_lt hlt), hcut⟩
    | none =>
      have hclear : ¬ w.Clear (i + 1) (i + 1 + cs.length) := by
        refine fun hclear => h fun k hle hlt => ?_
        obtain rfl | hlt' := Nat.eq_or_lt_of_le hle
        . exact hcut
        . rw [List.length_cons] at hlt
          exact hclear k hlt' (by omega)
      obtain ⟨piece, more, m, rfl, hbefore, hcut'⟩ := ih (drop_succ hdrop) hclear
      have hindex : i + (ch :: piece).length = i + 1 + piece.length := by
        rw [List.length_cons]
        omega
      refine ⟨ch :: piece, more, m, rfl, fun k hle hlt => ?_, hindex ▸ hcut'⟩
      obtain rfl | hlt' := Nat.eq_or_lt_of_le hle
      . exact hcut
      . exact hbefore k hlt' (hindex ▸ hlt)

/--
A line of a folded scalar with some indentation, from an index to a line break. Each space of it
that is cut gets that indentation, and no blank comes after it.
-/
structure Content (w : Wrap) (n i : Nat) (content r : List Char) : Prop where
  drop : w.chars.drop i = content ++ r
  plain : ∀ ch ∈ content, isBreakOrEnd ch = false
  ends : r.head?.any isBreak = true
  opens : content.head?.any (!isBlank ·) = true
  cuts : ∀ k m, i ≤ k → k < i + content.length → w.cut k = some m →
    m = n ∧ content[k - i + 1]?.any (!isBlank ·) = true

/-- The line at a reader is read in one round or more, and all that is read counts as one line. -/
def ReadsLine (w : Wrap) (start : Mark) (chomping : Chomping) (fuel n i : Nat) (content : List Char)
    (c : Cursor)
    : Prop :=
  ∃ rounds d, w.Ended c i content.length d ∧ d.rest.length < rounds ∧
    ∀ value firstBreak leadingBlank breaks last,
      scanBlockLines.go start false chomping fuel value firstBreak leadingBlank
      ⟨breaks, n, last, c⟩ = (do
        let next ← scanBlockBreaks start 0 n d.skipLine
        scanBlockLines.go start false chomping rounds
          (value ++ blockJoint false leadingBlank firstBreak ⟨breaks, n, last, c⟩ ++
            breaks ++ content)
          d.lineBreak false next)

namespace Content

variable {piece more : List Char} {m : Nat}

theorem exists_cons (h : w.Content n i content r)
    : ∃ ch cs, content = ch :: cs ∧ isBlank ch = false ∧ isBreak ch = false ∧ isEnd ch = false := by
  have hopens := h.opens
  cases content with
  | nil => cases hopens
  | cons ch cs =>
    have hplain := h.plain ch List.mem_cons_self
    rw [isBreakOrEnd, Bool.or_eq_false_iff] at hplain
    exact ⟨ch, cs, rfl, by simpa using hopens, hplain⟩

theorem later (h : w.Content n i (piece ++ ' ' :: more) r)
    (hcut : w.cut (i + piece.length) = some m)
    : m = n ∧ w.Content n (i + piece.length + 1) more r := by
  have hindex (k : Nat) : (piece ++ ' ' :: more)[piece.length + (k + 1)]? = more[k]? := by
    rw [List.getElem?_append_right (Nat.le_add_right _ _), Nat.add_sub_cancel_left,
      List.getElem?_cons_succ]
  have hlength : (piece ++ ' ' :: more).length = piece.length + 1 + more.length := by
    simp only [List.length_append, List.length_cons]
    omega
  obtain ⟨rfl, hopens⟩ := h.cuts _ m (Nat.le_add_right _ _) (by omega) hcut
  refine ⟨rfl, ?_, fun ch hch => ?_, h.ends, ?_, fun k m' hle hlt hk => ?_⟩
  . have hdrop := h.drop
    rw [List.append_assoc] at hdrop
    rw [Nat.add_assoc, ← List.drop_drop, hdrop, ← List.drop_drop, List.drop_left]
    rfl
  . exact h.plain ch (List.mem_append_right _ (List.mem_cons_of_mem _ hch))
  . rwa [Nat.add_sub_cancel_left, hindex 0, ← List.head?_eq_getElem?] at hopens
  . obtain ⟨rfl, hnext⟩ := h.cuts k m' (by omega) (by omega) hk
    have hk' : k - i + 1 = piece.length + (k - (i + piece.length + 1) + 1 + 1) := by omega
    rw [hk', hindex] at hnext
    exact ⟨rfl, hnext⟩

theorem readsLine_of_clear (start : Mark) (chomping : Chomping) (h : w.Content n i content r)
    (hclear : w.Clear i (i + content.length)) (hc : c.Whole) (hrest : c.rest = w.after i)
    (hcolumn : c.mark.column = n) (hfuel : c.rest.length < fuel)
    : w.ReadsLine start chomping fuel n i content c := by
  obtain ⟨fuel, rfl⟩ : ∃ k, fuel = k + 1 := ⟨fuel - 1, by omega⟩
  obtain ⟨ch, cs, rfl, hblank, -, hend⟩ := h.exists_cons
  have hends := h.ends
  obtain ⟨d, x, rfl⟩ : ∃ d x, r = d :: x := by
    cases r with
    | nil => cases hends
    | cons d x => exact ⟨d, x, rfl⟩
  have hd : isBreak d = true := by simpa using hends
  obtain ⟨hafter, hnext⟩ := after_of_clear h.drop hclear
  have hchar : w.chars.getD (i + (ch :: cs).length) endChar = d := by
    rw [List.getD_eq_getElem?_getD, ← List.head?_drop, hnext]
    rfl
  have hstop := (w.none_of_break (hchar ▸ hd)).1
  rw [hafter, after_of_none hnext hstop] at hrest
  have hpeek : c.peek = ch := Cursor.peek_of_rest hrest
  obtain ⟨hline, hskip⟩ := Cursor.skipToBreak_of_rest hc hrest h.plain
    (by rw [isBreakOrEnd, hd, Bool.true_or])
  refine ⟨fuel, c.skipN (ch :: cs).length, ⟨hc.skipN _, ?_, ?_, ?_, ?_⟩, ?_, ?_⟩
  . rw [Cursor.rest_skipN, hrest, List.drop_left, after_of_none hnext hstop]
  . exact Cursor.newlines_skipN (by rw [hpeek, hblank]) _
  . rw [Cursor.index_skipN]
  . rw [Cursor.line_skipN]
  . have hlength := congrArg List.length hrest
    rw [List.length_append] at hlength
    simp only [Cursor.rest_skipN, List.length_drop, List.length_cons] at *
    omega
  . intro value firstBreak leadingBlank breaks last
    rw [scanBlockLines.go_line hcolumn (by rw [hpeek, hend])]
    dsimp only
    rw [hline, hskip, hpeek, hblank]

theorem readsLine_of_cut (start : Mark) (chomping : Chomping)
    (h : w.Content n i (piece ++ ' ' :: more) r) (hpos : 0 < n)
    (hbefore : w.Clear i (i + piece.length)) (hcut : w.cut (i + piece.length) = some m)
    (hc : c.Whole) (hrest : c.rest = w.after i) (hcolumn : c.mark.column = n)
    (hfuel : c.rest.length < fuel + 1)
    (hmore : ∀ d, d.Whole → d.rest = w.after (i + piece.length + 1) → d.mark.column = n →
      d.rest.length < fuel →
      w.ReadsLine start chomping fuel n (i + piece.length + 1) more d)
    : w.ReadsLine start chomping (fuel + 1) n i (piece ++ ' ' :: more) c := by
  obtain ⟨rfl, hlater⟩ := h.later hcut
  obtain ⟨ch', more, rfl, hblank', hbreak', -⟩ := hlater.exists_cons
  obtain ⟨ch, piece, rfl, hblank⟩ : ∃ ch cs, piece = ch :: cs ∧ isBlank ch = false := by
    have hopens := h.opens
    cases piece with
    | nil => simp [isBlank] at hopens
    | cons ch cs => exact ⟨ch, cs, rfl, by simpa using hopens⟩
  have hdrop := h.drop
  rw [List.append_assoc, List.cons_append] at hdrop
  obtain ⟨hafter, hnext⟩ := after_of_clear hdrop hbefore
  have hlaterRest := after_of_none hlater.drop (none_of_not_blank hlater.drop hblank')
  rw [hafter, after_of_some hnext hcut, hlaterRest] at hrest
  obtain ⟨last', d, hd, hdrest, hdcolumn, hindex, hline, hstep⟩ :=
    scanBlockLines.go_cut start chomping fuel hc hpos hcolumn hrest
      (fun e he => h.plain e (List.mem_append_left _ he)) hblank hblank' hbreak'
  have hshort : d.rest.length < fuel := by
    rw [hdrest]
    rw [hrest] at hfuel
    simp only [List.length_append, List.length_cons, List.length_replicate] at hfuel ⊢
    omega
  obtain ⟨rounds, e, he, hrounds, hrun⟩ := hmore d hd (hdrest.trans hlaterRest.symm) hdcolumn hshort
  have hlength : (ch :: piece ++ ' ' :: ch' :: more).length =
    (ch :: piece).length + 1 + (ch' :: more).length := by
    simp only [List.length_append, List.length_cons]
    omega
  refine ⟨rounds, e, ⟨he.whole, ?_, he.newlines, ?_, hline.trans he.line_le⟩, hrounds, ?_⟩
  . rw [he.rest, hlength]
    congr 1
    omega
  . have := he.index_le
    rw [List.length_cons] at hlength
    omega
  . intro value firstBreak leadingBlank breaks last
    have hjoint : blockJoint false false ['\n'] ⟨[], m, last', d⟩ = [' '] := by
      rw [blockJoint, Cursor.peek_of_rest hdrest, hblank']
      rfl
    rw [hstep, hrun, hjoint]
    simp only [List.append_assoc, List.nil_append, List.cons_append]

theorem readsLine (start : Mark) (chomping : Chomping) (h : w.Content n i content r) (hpos : 0 < n)
    (hc : c.Whole) (hrest : c.rest = w.after i) (hcolumn : c.mark.column = n)
    (hfuel : c.rest.length < fuel)
    : w.ReadsLine start chomping fuel n i content c := by
  induction fuel generalizing content i c with
  | zero => exact absurd hfuel (Nat.not_lt_zero _)
  | succ fuel ih =>
    by_cases hclear : w.Clear i (i + content.length)
    . exact h.readsLine_of_clear start chomping hclear hc hrest hcolumn hfuel
    . obtain ⟨piece, more, m, rfl, hbefore, hcut⟩ := exists_first_cut h.drop hclear
      refine h.readsLine_of_cut start chomping hpos hbefore hcut hc hrest hcolumn hfuel ?_
      exact fun d hd hdrest hdcolumn hshort => ih (h.later hcut).2 hd hdrest hdcolumn hshort

end Content

end Wrap

end Yaml

namespace Yaml

theorem Cursor.suffix_skipN (n : Nat) (c : Cursor) : (c.skipN n).rest <:+ c.rest := by
  rw [rest_skipN]
  exact List.drop_suffix _ _

theorem scanBlockBreaks.suffix_go {start : Mark} {least indent fuel deepest : Nat}
    {breaks : List Char} {last : Mark} {c : Cursor} {b : BlockBreaks}
    (h : go start least indent fuel breaks deepest last c = .ok b)
    : b.cursor.rest <:+ c.rest := by
  induction fuel generalizing breaks deepest last c with
  | zero =>
    cases h
    exact List.suffix_refl _
  | succ fuel ih =>
    unfold go at h
    dsimp only at h
    generalize (if indent == 0 then _ else _) = n at h
    have hskip : (((c.need 1).skipN n).need 1).rest <:+ c.rest :=
      ((Cursor.suffix_need 1 _).trans (Cursor.suffix_skipN n _)).trans (Cursor.suffix_need 1 c)
    generalize ((c.need 1).skipN n).need 1 = d at h hskip
    split at h
    . cases h
    split at h
    . exact (ih h).trans (d.suffix_skipLine.trans hskip)
    . cases h
      exact hskip

namespace Wrap

variable {w : Wrap} {c c' : Cursor} {start start' : Mark} {least indent : Nat}

theorem none_of_end {i : Nat} (h : isEnd (w.chars.getD i endChar) = true) : w.Flush i := by
  have hchar : w.chars.getD i endChar ≠ ' ' := by
    intro hspace
    rw [hspace] at h
    cases h
  intro n hn
  obtain rfl : n = 0 := by
    by_contra hne
    exact hchar (hn 0 (Nat.pos_of_ne_zero hne))
  by_contra hcut
  obtain ⟨m, hcut⟩ := Option.ne_none_iff_exists'.mp hcut
  exact hchar (w.space _ m hcut)

theorem none_of_breakOrEnd {i : Nat} (h : isBreakOrEnd (w.chars.getD i endChar) = true)
    : w.cut i = none := by
  rw [isBreakOrEnd, Bool.or_eq_true] at h
  obtain h | h := h
  . exact (w.none_of_break h).1
  . exact w.none_of_end h 0 fun m hm => absurd hm (Nat.not_lt_zero m)

end Wrap

theorem Cursor.Whole.skipToBreak {c : Cursor} (h : c.Whole)
    : c.skipToBreak = c.skipN (c.takeWhile (!isBreakOrEnd ·)).length := (h.skipN _).need 1

namespace Wrap

variable {w : Wrap} {c c' : Cursor} {start start' : Mark} {least indent fuel fuel' : Nat}
  {b b' : BlockBreaks}
variable {literal leadingBlank : Bool} {chomping : Chomping} {value firstBreak : List Char}
  {scalar : ScannedScalar}

theorem Here.skipToBreak (h : w.Here c c')
    (hclear : w.Clear c.mark.index (c.mark.index + (c.takeWhile (!isBreakOrEnd ·)).length))
    : c'.takeWhile (!isBreakOrEnd ·) = c.takeWhile (!isBreakOrEnd ·) ∧
      w.Here c.skipToBreak c'.skipToBreak := by
  have hdrop : w.chars.drop c.mark.index =
      c.takeWhile (!isBreakOrEnd ·) ++ c.rest.dropWhile (!isBreakOrEnd ·) := by
    rw [← h.place.rest]
    exact List.takeWhile_append_dropWhile.symm
  obtain ⟨hafter, hnext⟩ := after_of_clear hdrop hclear
  have hstop := Cursor.isBreakOrEnd_skipToBreak c
  have hplace : c.skipToBreak.At w.chars := h.place.skipWhile _
  rw [← Nat.add_zero 0, hplace.peek, Nat.add_zero, c.index_skipToBreak] at hstop
  have hcut := none_of_breakOrEnd hstop
  have hline : c'.takeWhile (!isBreakOrEnd ·) = c.takeWhile (!isBreakOrEnd ·) := by
    have hall : ∀ ch ∈ c.takeWhile (!isBreakOrEnd ·), (!isBreakOrEnd ch) = true := fun ch hch =>
      List.mem_takeWhile_imp (p := (!isBreakOrEnd ·)) hch
    rw [Cursor.takeWhile, h.rest', hafter, List.takeWhile_append_of_pos hall]
    cases hrest : c.rest.dropWhile (!isBreakOrEnd ·) with
    | nil =>
      rw [hrest] at hnext
      rw [after, hnext, broken, List.takeWhile_nil, List.append_nil]
    | cons ch cs =>
      have hhead := List.head?_dropWhile_not (!isBreakOrEnd ·) c.rest
      rw [hrest] at hhead hnext
      rw [after_of_none hnext hcut, List.takeWhile_cons_of_neg (by simpa using hhead),
        List.append_nil]
  refine ⟨hline, ?_⟩
  rw [h.place.toWhole.skipToBreak, h.whole'.skipToBreak, hline]
  exact h.skipN hclear

theorem Here.nextBreaks (h : w.Here c c') (start start' : Mark) (least indent : Nat)
    (hcolumn : isBreak c.peek = false → c'.mark.column = c.mark.column)
    (hends : isBreakOrEnd c.peek = true)
    : Simulates w.BreaksTwin (scanBlockBreaks start least indent c.skipLine)
        (scanBlockBreaks start' least indent c'.skipLine) := by
  cases hbreak : isBreak c.peek with
  | true => exact h.emptyLines hbreak
  | false =>
    have hend : isEnd c.peek = true := by simpa [isBreakOrEnd, hbreak] using hends
    have hflush : w.Flush c.mark.index := by
      rw [← Nat.add_zero 0, h.place.peek, Nat.add_zero] at hend
      exact none_of_end hend
    have hpeek : isBreak c'.peek = false := by
      rw [h.peek (hflush 0 fun m hm => absurd hm (Nat.not_lt_zero m)), hbreak]
    rw [h.place.toWhole.skipLine_of_not_break hbreak, h.whole'.skipLine_of_not_break hpeek]
    exact h.breaks_go (hcolumn hbreak) hflush (Nat.lt_succ_self _) (Nat.lt_succ_self _)

theorem Here.lineBreak (h : w.Here c.skipToBreak c') : c'.lineBreak = c.skipToBreak.lineBreak := by
  have hstop := Cursor.isBreakOrEnd_skipToBreak c
  rw [← Nat.add_zero 0, h.place.peek, Nat.add_zero] at hstop
  rw [Cursor.lineBreak, h.peek (none_of_breakOrEnd hstop)]
  rfl

/-- The same block scalar. -/
structure ScalarTwin (w : Wrap) (s s' : ScannedScalar) : Prop where
  kind : s'.token.kind = s.token.kind
  here : w.Here s.cursor s'.cursor
  column : s'.cursor.mark.column = s.cursor.mark.column

theorem BreaksTwin.finish (h : w.BreaksTwin b b')
    : w.ScalarTwin (scanBlockLines.finish start literal chomping value firstBreak b)
        (scanBlockLines.finish start' literal chomping value firstBreak b') := by
  refine ⟨?_, h.here, h.column⟩
  unfold scanBlockLines.finish
  rw [h.breaks]

/-- The second reader gets to the end of a line that the first one is at, and has read the same. -/
def LineTwin (w : Wrap) (start : Mark) (literal : Bool) (chomping : Chomping) (fuel : Nat)
    (b b' : BlockBreaks)
    : Prop :=
  ∃ rounds d, w.Here b.cursor.skipToBreak d ∧
    (isBreak b.cursor.skipToBreak.peek = false → d.mark.column = b.cursor.skipToBreak.mark.column) ∧
    d.rest.length < rounds ∧
    ∀ value firstBreak leadingBlank,
      scanBlockLines.go start literal chomping fuel value firstBreak leadingBlank b' = (do
        let next ← scanBlockBreaks start 0 b.indent d.skipLine
        scanBlockLines.go start literal chomping rounds
          (value ++ blockJoint literal leadingBlank firstBreak b ++ b.breaks ++
            b.cursor.takeWhile (!isBreakOrEnd ·))
          b.cursor.skipToBreak.lineBreak (isBlank b.cursor.peek) next)

theorem BreaksTwin.blockJoint_eq (hb : w.BreaksTwin b b') (literal leadingBlank : Bool)
    (firstBreak : List Char)
    : blockJoint literal leadingBlank firstBreak b' =
      blockJoint literal leadingBlank firstBreak b := by
  rw [blockJoint, hb.here.peek hb.uncut, hb.breaks]
  rfl

theorem BreaksTwin.line_of_clear {indent : Nat} (hb : w.BreaksTwin b b') (start : Mark)
    (literal : Bool) (chomping : Chomping) (hat : b.At w.chars indent c)
    (hcolumn : b.cursor.mark.column = b.indent) (hend : isEnd b.cursor.peek = false)
    (hclear : w.Clear b.cursor.mark.index
      (b.cursor.mark.index + (b.cursor.takeWhile (!isBreakOrEnd ·)).length))
    (hfuel : b'.cursor.rest.length < fuel) : w.LineTwin start literal chomping fuel b b' := by
  have hpeek := hb.here.peek hb.uncut
  obtain ⟨hline, hhere⟩ := hb.here.skipToBreak hclear
  obtain ⟨fuel, rfl⟩ : ∃ k, fuel = k + 1 := ⟨fuel - 1, by omega⟩
  have hlength : b'.cursor.skipToBreak.rest.length < b'.cursor.rest.length := by
    obtain ⟨x, hx⟩ := Cursor.exists_rest_of_peek hpeek (ne_endChar_of_not_isEnd hend)
    have hlt := Cursor.index_lt_skipToBreak hend hat.not_break
    rw [b.cursor.index_skipToBreak] at hlt
    rw [hb.here.whole'.skipToBreak, hline, Cursor.rest_skipN, List.length_drop, hx,
      List.length_cons]
    omega
  refine ⟨fuel, b'.cursor.skipToBreak, hhere, fun _ => ?_, by omega, ?_⟩
  . rw [hb.here.whole'.skipToBreak, hat.cursor.toWhole.skipToBreak, Cursor.column_skipN,
      Cursor.column_skipN, hline,
      hb.column]
  . intro value firstBreak leadingBlank
    have hcolumn' : b'.cursor.mark.column = b'.indent := by rw [hb.column, hcolumn, hb.indent]
    rw [scanBlockLines.go_line hcolumn' (by rw [hpeek, hend]), hb.blockJoint_eq, hline, hb.indent,
      hb.breaks, hpeek,
      hhere.lineBreak]

theorem content_of_takes {indent k m : Nat} (hat : b.At w.chars indent c)
    (hbreak : isBreak b.cursor.skipToBreak.peek = true)
    (htaken : FoldedLine.takes ⟨b.cursor.mark.index, b.indent,
      b.cursor.takeWhile (!isBreakOrEnd ·)⟩ k m = true)
    (htakes : ∀ k m, b.cursor.mark.index ≤ k →
      k < b.cursor.mark.index + (b.cursor.takeWhile (!isBreakOrEnd ·)).length → w.cut k = some m →
        FoldedLine.takes ⟨b.cursor.mark.index, b.indent,
          b.cursor.takeWhile (!isBreakOrEnd ·)⟩ k m = true)
    : w.Content b.indent b.cursor.mark.index (b.cursor.takeWhile (!isBreakOrEnd ·))
        (b.cursor.rest.dropWhile (!isBreakOrEnd ·)) where
  drop := by
    rw [← hat.cursor.rest]
    exact List.takeWhile_append_dropWhile.symm
  plain ch hch := by simpa using List.mem_takeWhile_imp hch
  ends := by
    rw [← Cursor.rest_skipWhile, ← Cursor.skipToBreak]
    obtain ⟨x, hx⟩ := Cursor.exists_rest_of_peek rfl (ne_endChar_of_isBreak hbreak)
    rw [hx, List.head?_cons, Option.any_some, hbreak]
  opens := by
    simp only [FoldedLine.takes, Bool.and_eq_true] at htaken
    exact htaken.1.1.2
  cuts k m hle hlt hcut := by
    have htaken := htakes k m hle hlt hcut
    simp only [FoldedLine.takes, Bool.and_eq_true, beq_iff_eq] at htaken
    exact ⟨htaken.1.1.1.1.symm, htaken.2⟩

theorem BreaksTwin.line_of_content {indent : Nat} {r : List Char} (hb : w.BreaksTwin b b')
    (start : Mark) (chomping : Chomping) (hat : b.At w.chars indent c)
    (hcolumn : b.cursor.mark.column = b.indent) (hbreak : isBreak b.cursor.skipToBreak.peek = true)
    (hcontent : w.Content b.indent b.cursor.mark.index (b.cursor.takeWhile (!isBreakOrEnd ·)) r)
    (hfuel : b'.cursor.rest.length < fuel) : w.LineTwin start false chomping fuel b b' := by
  obtain ⟨rounds, d, hd, hrounds, hrun⟩ :=
    hcontent.readsLine start chomping hat.indent_pos hb.here.whole'
    hb.here.rest' (hb.column.trans hcolumn) hfuel
  obtain ⟨ch, cs, hline, hblank, -⟩ := hcontent.exists_cons
  have hpeek : isBlank b.cursor.peek = false := by
    have hrest : b.cursor.rest = ch :: cs ++ r := by rw [hat.cursor.rest, hcontent.drop, hline]
    rw [Cursor.peek_of_rest hrest, hblank]
  have hhere : w.Here b.cursor.skipToBreak d := by
    refine ⟨hat.cursor.skipWhile _, ?_, hd.whole, ?_, ?_, ?_⟩
    . rw [hd.rest, b.cursor.index_skipToBreak]
    . rw [b.cursor.index_skipToBreak]
      exact (Nat.add_le_add_right hb.here.index_le _).trans hd.index_le
    . rw [hat.cursor.toWhole.skipToBreak, Cursor.line_skipN]
      exact hb.here.line_le.trans hd.line_le
    . rw [hd.newlines, hat.cursor.toWhole.skipToBreak, hline, List.length_cons,
        Cursor.newlines_skipN hpeek]
      exact fun _ => Iff.rfl
  refine ⟨rounds, d, hhere, fun hnot => ?_, hrounds, ?_⟩
  . rw [hbreak] at hnot
    cases hnot
  . intro value firstBreak leadingBlank
    have hplace : b' = ⟨b'.breaks, b.indent, b'.last, b'.cursor⟩ := by rw [← hb.indent]
    have hjoint := hb.blockJoint_eq false leadingBlank firstBreak
    rw [hplace] at hjoint ⊢
    rw [hrun, hhere.lineBreak, hpeek, hjoint, hb.breaks]

theorem BreaksTwin.line {indent : Nat} (hb : w.BreaksTwin b b') (start : Mark) (literal : Bool)
    (chomping : Chomping) (hat : b.At w.chars indent c) (hcolumn : b.cursor.mark.column = b.indent)
    (hend : isEnd b.cursor.peek = false)
    (htakes : ∀ k m, b.cursor.mark.index ≤ k → k < b.cursor.skipToBreak.mark.index →
      w.cut k = some m →
      literal = false ∧ isBreak b.cursor.skipToBreak.peek = true ∧
        FoldedLine.takes ⟨b.cursor.mark.index, b.indent,
          b.cursor.takeWhile (!isBreakOrEnd ·)⟩ k m = true)
    (hfuel : b'.cursor.rest.length < fuel) : w.LineTwin start literal chomping fuel b b' := by
  rw [b.cursor.index_skipToBreak] at htakes
  by_cases hclear : w.Clear b.cursor.mark.index
      (b.cursor.mark.index + (b.cursor.takeWhile (!isBreakOrEnd ·)).length)
  . exact hb.line_of_clear start literal chomping hat hcolumn hend hclear hfuel
  . unfold Clear at hclear
    push Not at hclear
    obtain ⟨k, hle, hlt, hne⟩ := hclear
    obtain ⟨m, hcut⟩ := Option.ne_none_iff_exists'.mp hne
    obtain ⟨rfl, hbreak, htaken⟩ := htakes k m hle hlt hcut
    have hcontent := content_of_takes hat hbreak htaken fun k m hle hlt hcut =>
      (htakes k m hle hlt hcut).2.2
    exact hb.line_of_content start chomping hat hcolumn hbreak hcontent hfuel

/-- The lines of a block scalar. Those that are cut are lines of a folded scalar. -/
theorem BreaksTwin.lines {indent : Nat} (hb : w.BreaksTwin b b') (start' : Mark)
    (hat : b.At w.chars indent c)
    (hr : scanBlockLines.go start literal chomping fuel value firstBreak leadingBlank
      b = .ok scalar)
    (htakes : ∀ k m, b.cursor.mark.index ≤ k → k < scalar.cursor.mark.index → w.cut k = some m →
      literal = false ∧ ∃ l ∈ blockLines start fuel b, l.takes k m = true)
    (hfuel : b.cursor.rest.length < fuel) (hfuel' : b'.cursor.rest.length < fuel')
    : ∃ scalar', scanBlockLines.go start' literal chomping fuel' value firstBreak leadingBlank b' =
      .ok scalar' ∧
        w.ScalarTwin scalar scalar' := by
  induction fuel generalizing fuel' b b' c indent value firstBreak leadingBlank with
  | zero => exact absurd hfuel (Nat.not_lt_zero _)
  | succ fuel ih =>
    by_cases hcontent : (b.cursor.mark.column == b.indent && !isEnd b.cursor.peek) = true
    . rw [Bool.and_eq_true, beq_iff_eq, Bool.not_eq_true'] at hcontent
      obtain ⟨hcolumn, hend⟩ := hcontent
      rw [scanBlockLines.go_line hcolumn hend] at hr
      obtain ⟨next, hnext, hr⟩ := Sorter.bind_eq_ok.mp hr
      have hafter := hat.next hnext
      have hlt := Cursor.index_lt_skipToBreak hend hat.not_break
      have hnext_le := (le_of_mem_blockLines hafter hr).2.1
      have hindex := hafter.index_le
      have hfirst : ∀ k m, b.cursor.mark.index ≤ k → k < b.cursor.skipToBreak.mark.index →
        w.cut k = some m →
          literal = false ∧ isBreak b.cursor.skipToBreak.peek = true ∧
            FoldedLine.takes ⟨b.cursor.mark.index, b.indent, b.cursor.takeWhile (!isBreakOrEnd ·)⟩ k
            m = true := by
        intro k m hle hlt hcut
        obtain ⟨hliteral, l, hl, htaken⟩ := htakes k m hle (by omega) hcut
        obtain ⟨-, htaken⟩ | ⟨hge, -⟩ := hat.taken hnext hl htaken
        . exact ⟨hliteral, htaken⟩
        . omega
      obtain ⟨rounds, d, hhere, hdcolumn, hrounds, hrun⟩ :=
        hb.line start' literal chomping hat hcolumn hend hfirst hfuel'
      obtain ⟨next', hnext', hb'⟩ := hhere.nextBreaks start start' 0 b.indent hdcolumn
        (Cursor.isBreakOrEnd_skipToBreak _) next hnext
      rw [hrun, hnext']
      refine ih hb' hafter hr (fun k m hle hlt hcut => ?_) ?_ ?_
      . obtain ⟨hliteral, l, hl, htaken⟩ := htakes k m (by omega) hlt hcut
        obtain ⟨hbefore, -⟩ | ⟨-, hl⟩ := hat.taken hnext hl htaken
        . omega
        . exact ⟨hliteral, l, hl, htaken⟩
      . have hpos : 0 < b.cursor.rest.length := by
          obtain ⟨x, hx⟩ := Cursor.exists_rest_of_peek (c := b.cursor) rfl
            (ne_endChar_of_not_isEnd hend)
          rw [hx, List.length_cons]
          omega
        rw [hat.cursor.rest, List.length_drop] at hpos hfuel
        rw [hafter.cursor.rest, List.length_drop]
        omega
      . exact ((scanBlockBreaks.suffix_go hnext').trans d.suffix_skipLine).length_le.trans_lt
          hrounds
    . obtain ⟨fuel', rfl⟩ : ∃ k, fuel' = k + 1 := ⟨fuel' - 1, by omega⟩
      unfold scanBlockLines.go at hr ⊢
      dsimp only at hr ⊢
      rw [if_neg hcontent] at hr
      rw [hb.column, hb.indent, hb.here.peek hb.uncut, if_neg hcontent]
      cases hr
      exact ⟨_, rfl, hb.finish⟩

end Wrap
end Yaml
end YamlOrder
