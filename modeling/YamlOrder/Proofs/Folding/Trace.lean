import YamlOrder.Proofs.Folding.Fetch

/-!
This module contains the lines of the folded scalars in a stream, as the scanner comes across them.
-/

namespace YamlOrder
namespace Yaml

/--
A line of a folded scalar that a line break ends: where it starts after its indentation, and what it
says.
-/
structure FoldedLine where
  index : Nat
  indent : Nat
  content : List Char
  deriving Repr, DecidableEq

/--
Whether the space at an index of a folded line may be replaced by a line break and some spaces: the
line is no deeper than the scalar, nor is what comes after the space.
-/
def FoldedLine.takes (l : FoldedLine) (k n : Nat) : Bool :=
  l.indent == n && l.index < k && l.content.head?.any (!isBlank ·) &&
  l.content[k - l.index]? == some ' ' &&
    l.content[k - l.index + 1]?.any (!isBlank ·)

theorem FoldedLine.between_of_takes {l : FoldedLine} {k n : Nat} (h : l.takes k n = true)
    : l.index < k ∧ k < l.index + l.content.length := by
  simp only [takes, Bool.and_eq_true, decide_eq_true_eq, beq_iff_eq] at h
  obtain ⟨⟨⟨⟨-, hlt⟩, -⟩, hspace⟩, -⟩ := h
  obtain ⟨hbehind, -⟩ := List.getElem?_eq_some_iff.mp hspace
  exact ⟨hlt, by omega⟩

/-- The lines of a block scalar after its header. -/
def blockLines (start : Mark) : Nat → BlockBreaks → List FoldedLine
  | 0, _ => []
  | fuel + 1, b =>
    if b.cursor.mark.column == b.indent && !isEnd b.cursor.peek &&
      isBreak b.cursor.skipToBreak.peek then
      ⟨b.cursor.mark.index, b.indent, b.cursor.takeWhile (!isBreakOrEnd ·)⟩ ::
        match scanBlockBreaks start 0 b.indent b.cursor.skipToBreak.skipLine with
        | .error _ => []
        | .ok next => blockLines start fuel next
    else
      []

/-- A block scalar whose header has been read. -/
structure BlockOpening where
  scanner : Scanner
  chomping : Chomping
  indent : Nat
  comment : Option Comment
  cursor : Cursor

/-- The place of the first line. -/
def BlockOpening.breaks (o : BlockOpening) : Except Fault BlockBreaks :=
  scanBlockBreaks o.scanner.mark (o.scanner.indent + 1).toNat o.indent o.cursor.skipLine

/-- The scanner after the block scalar. -/
def BlockOpening.close (o : BlockOpening) (scalar : ScannedScalar) : Scanner :=
  { o.scanner with
    keyAllowed := true
    cursor := scalar.cursor
    comments := o.scanner.comments ++ o.comment.toList }.push scalar.token

namespace Scanner

/-- The comment on the line of a header, and the end of that line. -/
def headerComment (start : Mark) (c : Cursor) : Option Comment × Cursor :=
  let r := if c.skipBlanks.peek == '#' then scanLineComment start c.skipBlanks
  else (none, c.skipBlanks)
  (r.1, if r.2.peek == '#' then r.2.skipToBreak else r.2)

/-- Read the header of a block scalar and a comment after it. -/
def openBlock (s : Scanner) : Except Fault BlockOpening := do
  let s ← s.removeKey
  let (chomping, increment, cursor) ← scanBlockHeader s.mark s.cursor.skip
  let (comment, cursor) := headerComment s.mark cursor
  if !isBreakOrEnd cursor.peek then
    throw (cursor.problem s.mark .noCommentOrBreak)
  let indent := if increment == 0 then 0 else s.indent.toNat + increment
  return { scanner := s, chomping, indent, comment, cursor }

theorem fetchBlockScalar_eq (s : Scanner) (literal : Bool)
    : s.fetchBlockScalar literal = (do
        let o ← s.openBlock
        let b ← o.breaks
        let scalar ← scanBlockLines o.scanner.mark literal o.chomping b
        return o.close scalar) := by
  unfold fetchBlockScalar openBlock headerComment
  -- with a condition there would be a decision to carry along, which is another one in each form of
  -- the condition
  simp -zeta only [← Bool.cond_eq_ite]
  simp only [bind_assoc]
  refine bind_congr fun t => bind_congr fun ⟨chomping, increment, c⟩ => ?_
  dsimp only
  generalize (bif c.skipBlanks.peek == '#' then scanLineComment t.mark c.skipBlanks
    else (none, c.skipBlanks)) = r
  generalize (bif r.2.peek == '#' then r.2.skipToBreak else r.2) = d
  cases isBreakOrEnd d.peek
  . rfl
  . rfl

/-- Whether a folded scalar starts here. -/
def startsFolded (s : Scanner) : Bool := s.cursor.peek == '>' && !s.inFlow

/-- The lines of the next token, if it is a folded scalar. -/
def nextLines (s : Scanner) : List FoldedLine :=
  if s.started && s.settled.startsFolded then
    match (do
        let o ← s.settled.openBlock
        let b ← o.breaks
        return blockLines o.scanner.mark (b.cursor.rest.length + 1) b : Except Fault
          (List FoldedLine)) with
    | .error _ => []
    | .ok lines => lines
  else
    []

/-- The lines of the folded scalars that the scanner comes across. -/
def foldedLines : Nat → Scanner → List FoldedLine
  | 0, _ => []
  | fuel + 1, s =>
    match s.ready with
    | .error _ => []
    | .ok false =>
      s.nextLines ++
        match s.fetch with
        | .error _ => []
        | .ok t => foldedLines fuel t
    | .ok true =>
      match s.tokens with
      | [] => []
      | t :: rest =>
        if t.kind == .streamEnd then []
        else
          foldedLines fuel
            { s with
              tokens := rest
              given := s.given + 1
              comments := s.comments.dropWhile (takes t) }

end Scanner

/-- The lines of the folded scalars in a text. -/
def foldedLines (text : Text) : List FoldedLine :=
  let chars := Text.toChars text
  Scanner.foldedLines (12 * chars.length + 64) { cursor := { rest := chars } }


namespace Cursor

/-- A place in a stream. -/
structure At (cs : List Char) (c : Cursor) : Prop extends c.Whole where
  rest : c.rest = cs.drop c.mark.index

namespace At

variable {cs : List Char} {c d : Cursor}

theorem peek (h : c.At cs) (k : Nat) : c.peek k = cs.getD (c.mark.index + k) endChar := by
  rw [Cursor.peek_eq, h.rest, List.getD_eq_getElem?_getD, List.getElem?_drop,
    List.getD_eq_getElem?_getD]

theorem skipN (h : c.At cs) (n : Nat) : (c.skipN n).At cs := by
  refine ⟨h.toWhole.skipN n, ?_⟩
  rw [rest_skipN, h.rest, List.drop_drop, index_skipN]

theorem skipWhile (h : c.At cs) (f : Char → Bool) : (c.skipWhile f).At cs := by
  unfold Cursor.skipWhile
  rw [(h.toWhole.skipN _).need]
  exact h.skipN _

theorem skipLine (h : c.At cs) : c.skipLine.At cs := by
  refine ⟨h.toWhole.skipLine, ?_⟩
  cases hbreak : isBreak c.peek with
  | false => rw [h.toWhole.skipLine_of_not_break hbreak, h.rest]
  | true =>
    rw [h.toWhole.skipLine_eq hbreak]
    dsimp only
    rw [h.rest, List.drop_drop]

theorem index_le_skipLine (h : c.At cs) : c.mark.index ≤ c.skipLine.mark.index := by
  cases hbreak : isBreak c.peek with
  | false => rw [h.toWhole.skipLine_of_not_break hbreak]
  | true => exact (index_lt_skipLine h.toWhole hbreak).le

theorem index_le_of_suffix (hc : c.At cs) (hd : d.At cs) (hsuffix : d.rest <:+ c.rest)
    (hne : d.rest ≠ [])
    : c.mark.index ≤ d.mark.index := by
  have hlength := hsuffix.length_le
  have hpos := List.length_pos_iff.mpr hne
  rw [hd.rest, List.length_drop] at hpos
  rw [hc.rest, hd.rest, List.length_drop, List.length_drop] at hlength
  omega

theorem le_of_suffix {g : Nat} (hc : c.At cs) (hd : d.At cs) (hsuffix : d.rest <:+ c.rest)
    (hg : d.mark.index ≤ g) (hlt : g < cs.length) : c.mark.index ≤ g := by
  refine (hc.index_le_of_suffix hd hsuffix ?_).trans hg
  rw [hd.rest, ne_eq, List.drop_eq_nil_iff]
  omega

end At

end Cursor

/-- The end of the empty lines of a block scalar that start at a place. -/
structure BlockBreaks.At (cs : List Char) (indent : Nat) (c : Cursor) (b : BlockBreaks) : Prop where
  cursor : b.cursor.At cs
  index_le : c.mark.index ≤ b.cursor.mark.index
  not_break : isBreak b.cursor.peek = false
  indent_pos : 0 < b.indent
  known : 0 < indent → b.indent = indent

/-- A line of a folded scalar that is not before an index. -/
structure FoldedLine.In (cs : List Char) (i : Nat) (l : FoldedLine) : Prop where
  index_le : i ≤ l.index
  content : ∃ r, cs.drop l.index = l.content ++ r
  plain : ∀ ch ∈ l.content, isBreakOrEnd ch = false

section Taken

variable {cs : List Char} {i k n : Nat} {l : FoldedLine}

theorem FoldedLine.In.getD_add (h : l.In cs i) (hk : k < l.content.length)
    : cs.getD (l.index + k) endChar = l.content[k] := by
  obtain ⟨r, hr⟩ := h.content
  rw [List.getD_eq_getElem?_getD, ← List.getElem?_drop, hr, List.getElem?_append_left hk,
    List.getElem?_eq_getElem hk,
    Option.getD_some]

theorem FoldedLine.In.space_of_takes (h : l.In cs i) (ht : l.takes k n = true)
    : cs.getD k endChar = ' ' ∧ ∃ j < k, isBlank (cs.getD j endChar) = false ∧
        ∀ m, j ≤ m → m ≤ k → isBreak (cs.getD m endChar) = false := by
  obtain ⟨hlt, hlength⟩ := l.between_of_takes ht
  simp only [takes, Bool.and_eq_true, beq_iff_eq] at ht
  obtain ⟨⟨⟨-, hhead⟩, hspace⟩, -⟩ := ht
  have hchar {m : Nat} (hle : l.index ≤ m) (hm : m ≤ k)
      : ∃ hm : m - l.index < l.content.length, cs.getD m endChar = l.content[m - l.index] := by
    refine ⟨by omega, ?_⟩
    rw [← h.getD_add, Nat.add_sub_cancel' hle]
  obtain ⟨hk, hget⟩ := hchar hlt.le (Nat.le_refl k)
  obtain ⟨hindex, hfirst⟩ := hchar (Nat.le_refl l.index) hlt.le
  refine ⟨?_, l.index, hlt, ?_, fun m hle hm => ?_⟩
  . rwa [hget, ← Option.some_inj, ← List.getElem?_eq_getElem]
  . rw [Nat.sub_self] at hindex
    rw [List.head?_eq_getElem?, List.getElem?_eq_getElem hindex, Option.any_some,
      Bool.not_eq_true'] at hhead
    rw [hfirst]
    simpa using hhead
  . obtain ⟨hm, hget⟩ := hchar hle hm
    rw [hget]
    have := h.plain _ (List.getElem_mem hm)
    rw [isBreakOrEnd, Bool.or_eq_false_iff] at this
    exact this.1

end Taken

section Lines

variable {cs : List Char} {start : Mark} {least indent fuel deepest : Nat}
  {breaks value firstBreak : List Char}
variable {last : Mark} {c : Cursor} {b : BlockBreaks} {l : FoldedLine} {literal leadingBlank : Bool}
variable {chomping : Chomping} {scalar : ScannedScalar}

theorem scanBlockBreaks.at_go (h : c.At cs)
    (hr : go start least indent fuel breaks deepest last c = .ok b) (hfuel : c.rest.length < fuel)
    : b.At cs indent c := by
  induction fuel generalizing breaks deepest last c with
  | zero => exact absurd hfuel (Nat.not_lt_zero _)
  | succ fuel ih =>
    have hindented : (indented indent c).At cs := h.skipN _
    have hle := Spacing.index_le_indented indent c
    rw [go_succ h.toWhole] at hr
    split at hr
    . cases hr
    split at hr
    . next hbreak =>
      have hshort : (indented indent c).rest.length ≤ c.rest.length := by
        rw [indented, Cursor.rest_skipN, List.length_drop]
        exact Nat.sub_le _ _
      have hshorter := Cursor.length_skipLine_lt hbreak
      have hnext := ih hindented.skipLine hr (by omega)
      exact { hnext with index_le := hle.trans (hindented.index_le_skipLine.trans hnext.index_le) }
    . next hbreak =>
      cases hr
      refine ⟨hindented, hle, (Bool.not_eq_true _).mp hbreak, ?_, fun hpos => ?_⟩
      . unfold finish
        dsimp only
        split
        . omega
        . next hindent => exact Nat.pos_of_ne_zero (by simpa using hindent)
      . exact if_neg (by simpa using Nat.ne_of_gt hpos)

theorem scanBlockBreaks.place (h : c.At cs) (hr : scanBlockBreaks start least indent c = .ok b)
    : b.At cs indent c :=
  scanBlockBreaks.at_go h hr (Nat.lt_succ_self _)

theorem mem_blockLines_succ
    : l ∈ blockLines start (fuel + 1) b ↔
        (b.cursor.mark.column == b.indent && !isEnd b.cursor.peek &&
          isBreak b.cursor.skipToBreak.peek) = true ∧
          (l = ⟨b.cursor.mark.index, b.indent, b.cursor.takeWhile (!isBreakOrEnd ·)⟩ ∨
            ∃ next, scanBlockBreaks start 0 b.indent b.cursor.skipToBreak.skipLine = .ok next ∧
              l ∈ blockLines start fuel next) := by
  rw [blockLines]
  split
  . next hline =>
    rw [List.mem_cons, and_iff_right hline]
    cases scanBlockBreaks start 0 b.indent b.cursor.skipToBreak.skipLine with
    | error e => simp
    | ok next => simp
  . next hline => simp [hline]

theorem BlockBreaks.At.next {next : BlockBreaks} (h : b.At cs indent c)
    (hr : scanBlockBreaks start 0 b.indent b.cursor.skipToBreak.skipLine = .ok next)
    : next.At cs b.indent b.cursor.skipToBreak := by
  have hend : b.cursor.skipToBreak.At cs := h.cursor.skipWhile _
  have hnext := scanBlockBreaks.place hend.skipLine hr
  exact { hnext with index_le := hend.index_le_skipLine.trans hnext.index_le }

theorem Cursor.index_skipToBreak (c : Cursor)
    : c.skipToBreak.mark.index = c.mark.index + (c.takeWhile (!isBreakOrEnd ·)).length := by
  rw [skipToBreak, skipWhile, mark_need, index_skipN]
  rfl

theorem in_of_mem_blockLines (h : b.At cs indent c) (hl : l ∈ blockLines start fuel b)
    : l.In cs b.cursor.mark.index := by
  induction fuel generalizing b c indent with
  | zero => cases hl
  | succ fuel ih =>
    obtain ⟨-, rfl | ⟨next, hnext, hl⟩⟩ := mem_blockLines_succ.mp hl
    . refine ⟨Nat.le_refl _, ⟨b.cursor.rest.dropWhile (!isBreakOrEnd ·), ?_⟩, fun ch hch => ?_⟩
      . rw [← h.cursor.rest]
        exact List.takeWhile_append_dropWhile.symm
      . simpa using List.mem_takeWhile_imp hch
    . have hafter := h.next hnext
      have := ih hafter hl
      have hle := b.cursor.index_skipToBreak
      exact { this with index_le := by have := this.index_le; have := hafter.index_le; omega }

theorem BlockBreaks.At.taken {next : BlockBreaks} {k n : Nat} (h : b.At cs indent c)
    (hnext : scanBlockBreaks start 0 b.indent b.cursor.skipToBreak.skipLine = .ok next)
    (hl : l ∈ blockLines start (fuel + 1) b) (htaken : l.takes k n = true)
    : k < b.cursor.skipToBreak.mark.index ∧ isBreak b.cursor.skipToBreak.peek = true ∧
          FoldedLine.takes ⟨b.cursor.mark.index, b.indent,
            b.cursor.takeWhile (!isBreakOrEnd ·)⟩ k n = true ∨
        next.cursor.mark.index ≤ k ∧ l ∈ blockLines start fuel next := by
  obtain ⟨hbefore, hbehind⟩ := FoldedLine.between_of_takes htaken
  obtain ⟨hline, rfl | ⟨next', hnext', hl⟩⟩ := mem_blockLines_succ.mp hl
  . rw [Bool.and_eq_true] at hline
    rw [b.cursor.index_skipToBreak]
    exact .inl ⟨hbehind, hline.2, htaken⟩
  . rw [hnext] at hnext'
    cases hnext'
    exact .inr ⟨(in_of_mem_blockLines (h.next hnext) hl).index_le.trans hbefore.le, hl⟩

/-- A block scalar ends after its lines. -/
theorem le_of_mem_blockLines (h : b.At cs indent c)
    (hr : scanBlockLines.go start literal chomping fuel value firstBreak leadingBlank
      b = .ok scalar)
    : scalar.cursor.At cs ∧ b.cursor.mark.index ≤ scalar.cursor.mark.index ∧
        ∀ l ∈ blockLines start fuel b, l.index + l.content.length ≤ scalar.cursor.mark.index := by
  induction fuel generalizing b c indent value firstBreak leadingBlank with
  | zero =>
    cases hr
    exact ⟨h.cursor, Nat.le_refl _, fun l hl => by cases hl⟩
  | succ fuel ih =>
    unfold scanBlockLines.go at hr
    dsimp only at hr
    split at hr
    . obtain ⟨next, hnext, hr⟩ := Sorter.bind_eq_ok.mp hr
      have hafter := h.next hnext
      have hle := hafter.index_le
      rw [b.cursor.index_skipToBreak] at hle
      obtain ⟨hat, hscalar, hlines⟩ := ih hafter hr
      refine ⟨hat, by omega, fun l hl => ?_⟩
      obtain ⟨-, rfl | ⟨next', hnext', hl⟩⟩ := mem_blockLines_succ.mp hl
      . dsimp only
        omega
      . rw [hnext] at hnext'
        cases hnext'
        exact hlines l hl
    . next hline =>
      cases hr
      refine ⟨h.cursor, Nat.le_refl _, fun l hl => ?_⟩
      have hcontent := (mem_blockLines_succ.mp hl).1
      rw [Bool.and_eq_true] at hcontent
      exact absurd hcontent.1 hline

end Lines

end Yaml
end YamlOrder
