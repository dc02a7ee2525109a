import YamlOrder.Proofs.Text.Utf8
import YamlOrder.Yaml.Printer

/-!
This module contains pages that differ in single words. What is written on both of them next stands
behind the same indentation on both, since a word never stands where an indentation is measured.
-/

namespace YamlOrder
namespace Yaml

/-- Two texts that differ in single words: `R w w'` says that `w'` can stand for `w`. -/
inductive Respelled {α : Type} (R : List α → List α → Prop) : List α → List α → Prop where
  | nil : Respelled R [] []
  | char (c : α) {u v : List α} (h : Respelled R u v) : Respelled R (c :: u) (c :: v)
  | word {w w' u v : List α} (hw : R w w') (h : Respelled R u v) : Respelled R (w ++ u) (w' ++ v)

namespace Respelled

variable {α : Type} {R S : List α → List α → Prop} {u v u' v' : List α}

theorem refl (u : List α) : Respelled R u u := by
  induction u with
  | nil => exact .nil
  | cons c u ih => exact .char c ih

theorem append (h : Respelled R u v) (h' : Respelled R u' v')
    : Respelled R (u ++ u') (v ++ v') := by
  induction h with
  | nil => exact h'
  | char c _ ih => exact .char c ih
  | word hw _ ih =>
    rw [List.append_assoc, List.append_assoc]
    exact .word hw ih

theorem mono (h : Respelled R u v) (hR : ∀ {w w'}, R w w' → S w w') : Respelled S u v := by
  induction h with
  | nil => exact .nil
  | char c _ ih => exact .char c ih
  | word hw _ ih => exact .word (hR hw) ih

theorem eq_of_forall_not (h : Respelled R u v) (hR : ∀ w w', ¬ R w w') : u = v := by
  induction h with
  | nil => rfl
  | char c _ ih => rw [ih]
  | word hw _ _ => exact absurd hw (hR _ _)

theorem eq_nil_or_exists_append (h : Respelled R u v)
    : (u = [] ∧ v = []) ∨
      (∃ c u' v', u = u' ++ [c] ∧ v = v' ++ [c] ∧ Respelled R u' v') ∨
      ∃ w w' u' v', u = u' ++ w ∧ v = v' ++ w' ∧ R w w' := by
  induction h with
  | nil => exact .inl ⟨rfl, rfl⟩
  | char c h ih =>
    right
    obtain ⟨rfl, rfl⟩ | ⟨d, u', v', rfl, rfl, h'⟩ | ⟨w, w', u', v', rfl, rfl, hw⟩ := ih
    . exact .inl ⟨c, [], [], rfl, rfl, .nil⟩
    . exact .inl ⟨d, c :: u', c :: v', rfl, rfl, .char c h'⟩
    . exact .inr ⟨w, w', c :: u', c :: v', rfl, rfl, hw⟩
  | @word w w' _ _ hw h ih =>
    right
    obtain ⟨rfl, rfl⟩ | ⟨d, u', v', rfl, rfl, h'⟩ | ⟨x, x', u', v', rfl, rfl, hx⟩ := ih
    . exact .inr ⟨w, w', [], [], by simp, by simp, hw⟩
    . exact .inl ⟨d, w ++ u', w' ++ v', by simp, by simp, .word hw h'⟩
    . exact .inr ⟨x, x', w ++ u', w' ++ v', by simp, by simp, hx⟩

theorem ofChars {R : List Char → List Char → Prop} {S : Text → Text → Prop} {u v : List Char}
    (h : Respelled R u v) (hR : ∀ {w w'}, R w w' → S (Text.ofChars w) (Text.ofChars w'))
    : Respelled S (Text.ofChars u) (Text.ofChars v) := by
  induction h with
  | nil => exact .nil
  | char c _ ih =>
    rw [Text.ofChars_cons, Text.ofChars_cons]
    exact (refl _).append ih
  | word hw _ ih =>
    rw [Text.ofChars_append, Text.ofChars_append]
    exact .word (hR hw) ih

end Respelled

variable {R : List Char → List Char → Prop} {u v w w' : List Char}

/-- A word: it has no line break, and does not begin with white space or a byte order mark. -/
structure IsWord (w : List Char) : Prop where
  head : ∃ c t, w = c :: t ∧ isBlankOrEnd c = false ∧ isByteOrderMark c = false
  line : ∀ c ∈ w, isBreak c = false

theorem IsWord.ne_nil (h : IsWord w) : w ≠ [] := by
  obtain ⟨c, t, rfl, -⟩ := h.head
  simp

namespace Printer

variable {p q : Printer} {l : Nat}

theorem putAll_eq (p : Printer) (cs : List Char)
    : p.putAll cs = { p with out := cs.reverse ++ p.out, column := p.column + cs.length } := by
  induction cs generalizing p with
  | nil => rfl
  | cons c cs ih =>
    change (p.put c).putAll cs = _
    rw [ih]
    simp only [put, List.reverse_cons, List.append_assoc, List.singleton_append, List.length_cons]
    congr 1
    omega

/-- Write a word, after which the line holds more than indentation. -/
def putWord (p : Printer) (w : List Char) : Printer := { p.putAll w with indention := false }

/--
Two pages that differ in words. They stand at the same column as long as their lines hold nothing
but indentation and indicators, and `l` flow collections are open on both.
-/
structure Twin (R : List Char → List Char → Prop) (l : Nat) (p q : Printer) : Prop where
  out : Respelled R p.out.reverse q.out.reverse
  width : q.width = p.width
  indent : q.indent = p.indent
  whitespace : q.whitespace = p.whitespace
  indention : q.indention = p.indention
  footIndent : q.footIndent = p.footIndent
  remarks : q.remarks = p.remarks
  tail : q.tail = p.tail
  keyLine : q.keyLine = p.keyLine
  level : p.flowLevel = l
  level' : q.flowLevel = l
  column : p.indention = true → q.column = p.column
  start : q.column = 0 ↔ p.column = 0

namespace Twin

theorem put (h : Twin R l p q) (c : Char) : Twin R l (p.put c) (q.put c) := by
  refine { h with out := ?_, column := fun hi => congrArg (· + 1) (h.column hi), start := ?_ }
  . simp only [Printer.put, List.reverse_cons]
    exact h.out.append (.refl [c])
  . simp [Printer.put]

theorem putAll (h : Twin R l p q) (cs : List Char) : Twin R l (p.putAll cs) (q.putAll cs) := by
  induction cs generalizing p q with
  | nil => exact h
  | cons c cs ih => exact ih (h.put c)

theorem putWord (h : Twin R l p q) (hR : R w w') (hw : w ≠ []) (hw' : w' ≠ [])
    : Twin R l (p.putWord w) (q.putWord w') := by
  simp only [Printer.putWord, putAll_eq]
  refine { h with out := ?_, indention := rfl, column := by simp, start := ?_ }
  . simp only [List.reverse_append, List.reverse_reverse]
    simpa using h.out.append (.word hR .nil)
  . simp [List.length_eq_zero_iff, hw, hw']

theorem putSame (h : Twin R l p q) (c : Char)
    : Twin R l { p.put c with indention := false } { q.put c with indention := false } :=
  { h.put c with indention := rfl, column := by simp }

theorem putBreak (h : Twin R l p q) : Twin R l p.putBreak q.putBreak := by
  refine { h with out := ?_, indention := rfl, column :=
    fun _ => rfl, start := by simp [Printer.putBreak] }
  simp only [Printer.putBreak, List.reverse_cons]
  exact h.out.append (.refl ['\n'])

theorem putBreakChar (h : Twin R l p q) (c : Char)
    : Twin R l (p.putBreakChar c) (q.putBreakChar c) := by
  unfold Printer.putBreakChar
  split
  . exact h.putBreak
  . refine { h with out := ?_, indention := rfl, column := fun _ => rfl, start := by simp }
    simp only [List.reverse_cons]
    exact h.out.append (.refl [c])

theorem separate (h : Twin R l p q) : Twin R l p.separate q.separate := by
  unfold Printer.separate
  rw [h.whitespace]
  split
  . exact h
  . exact h.put ' '

theorem indicator (h : Twin R l p q) (s : List Char) (spaced isOpening isIndention : Bool)
    : Twin R l (p.indicator s spaced isOpening isIndention)
      (q.indicator s spaced isOpening isIndention) := by
  unfold Printer.indicator
  have hput : Twin R l ((if spaced then p.separate else p).putAll s)
    ((if spaced then q.separate else q).putAll s) := by
    cases spaced with
    | true => exact h.separate.putAll s
    | false => exact h.putAll s
  refine { hput with whitespace := rfl, indention := ?_, column := ?_ }
  . exact congrArg (· && isIndention) hput.indention
  . intro hi
    exact hput.column (Bool.and_eq_true_iff.mp hi).1

theorem withFlags (h : Twin R l p q) (whitespace : Bool)
    : Twin R l { p with whitespace, indention := false }
      { q with whitespace, indention := false } :=
  { h with whitespace := rfl, indention := rfl, column := by simp }

theorem withIndent (h : Twin R l p q) (indent : Int)
    : Twin R l { p with indent } { q with indent } :=
  { h with indent := rfl }

theorem withFootIndent (h : Twin R l p q) (footIndent : Int)
    : Twin R l { p with footIndent } { q with footIndent } :=
  { h with footIndent := rfl }

theorem withWhitespace (h : Twin R l p q) (whitespace : Bool)
    : Twin R l { p with whitespace } { q with whitespace } :=
  { h with whitespace := rfl }

theorem withRemarks (h : Twin R l p q) (remarks : Remarks)
    : Twin R l { p with remarks } { q with remarks } :=
  { h with remarks := rfl }

theorem writeIndent (h : Twin R l p q) : Twin R l p.writeIndent q.writeIndent := by
  have hused : (!q.indention || q.indent.toNat < q.column ||
    (q.column == q.indent.toNat && !q.whitespace)) =
      (!p.indention || p.indent.toNat < p.column ||
      (p.column == p.indent.toNat && !p.whitespace)) := by
    rw [h.indention, h.indent, h.whitespace]
    cases hi : p.indention with
    | false => rfl
    | true => rw [h.column hi]
  unfold Printer.writeIndent
  dsimp only
  rw [hused]
  generalize hu : (!p.indention || p.indent.toNat < p.column ||
    (p.column == p.indent.toNat && !p.whitespace)) = used
  have hline : Twin R l (if used = true then p.putBreak else p)
    (if used = true then q.putBreak else q) ∧
      (if used = true then p.putBreak else p).indention = true := by
    cases used with
    | true => exact ⟨h.putBreak, rfl⟩
    | false =>
      refine ⟨h, ?_⟩
      simp only [Bool.or_eq_false_iff, Bool.not_eq_false'] at hu
      exact hu.1.1
  generalize (if used = true then p.putBreak else p) = p' at hline
  generalize (if used = true then q.putBreak else q) = q' at hline
  obtain ⟨hline, hi⟩ := hline
  rw [hline.footIndent, h.indent]
  have hgap : Twin R l (if p'.footIndent = p.indent.toNat then p'.putBreak else p')
      (if p'.footIndent = p.indent.toNat then q'.putBreak else q') ∧
      (if p'.footIndent = p.indent.toNat then p'.putBreak else p').indention = true := by
    split
    . exact ⟨hline.putBreak, rfl⟩
    . exact ⟨hline, hi⟩
  simp only [beq_iff_eq]
  generalize (if p'.footIndent = p.indent.toNat then p'.putBreak else p') = p'' at hgap
  generalize (if p'.footIndent = p.indent.toNat then q'.putBreak else q') = q'' at hgap
  rw [hgap.1.column hgap.2]
  exact { hgap.1.putAll _ with whitespace := rfl, footIndent := rfl }

theorem writeComment_go (h : Twin R l p q) (cs : List Char) (broken pound : Bool)
    : Twin R l (writeComment.go cs broken pound p) (writeComment.go cs broken pound q) := by
  induction cs generalizing broken pound p q with
  | nil =>
    unfold writeComment.go
    cases broken with
    | true => exact h.withWhitespace true
    | false => exact h.putBreak.withWhitespace true
  | cons c cs ih =>
    unfold writeComment.go
    split
    . exact ih (h.putBreakChar c) _ _
    . have hline : Twin R l (if broken = true then p.writeIndent else p)
          (if broken = true then q.writeIndent else q) := by
        cases broken with
        | true => exact h.writeIndent
        | false => exact h
      refine ih (putSame ?_ c) _ _
      split
      . exact hline.putAll _
      . exact hline

theorem writeComment (h : Twin R l p q) (comment : Text)
    : Twin R l (p.writeComment comment) (q.writeComment comment) := h.writeComment_go _ _ _

theorem markFoot (h : Twin R l p q) : Twin R l p.markFoot q.markFoot :=
  { h with footIndent := by simp only [Printer.markFoot, h.indent] }

theorem writeHead (h : Twin R l p q) : Twin R l p.writeHead q.writeHead := by
  unfold Printer.writeHead
  rw [h.tail]
  have htail : Twin R l
      (if p.tail.isEmpty = true then p
        else { p.writeIndent.writeComment p.tail with tail := [] }.markFoot)
      (if p.tail.isEmpty = true then q
        else { q.writeIndent.writeComment p.tail with tail := [] }.markFoot) := by
    split
    . exact h
    . exact markFoot { h.writeIndent.writeComment p.tail with tail := rfl }
  generalize (if p.tail.isEmpty = true then p else _) = p' at htail
  generalize (if p.tail.isEmpty = true then q else _) = q' at htail
  dsimp only
  rw [htail.remarks]
  split
  . exact htail
  . have hhead := htail.writeIndent.writeComment p'.remarks.head
    rw [hhead.remarks]
    exact hhead.withRemarks _

theorem writeLine (h : Twin R l p q) : Twin R l p.writeLine q.writeLine := by
  unfold Printer.writeLine
  rw [h.remarks]
  split
  . exact h
  . have hline := h.separate.writeComment p.remarks.line
    dsimp only
    rw [hline.remarks]
    exact hline.withRemarks _

theorem writeFoot (h : Twin R l p q) : Twin R l p.writeFoot q.writeFoot := by
  unfold Printer.writeFoot
  rw [h.remarks]
  split
  . exact h
  . have hfoot := h.writeIndent.writeComment p.remarks.foot
    dsimp only
    rw [hfoot.remarks]
    exact (hfoot.withRemarks _).markFoot

theorem writeAfter (h : Twin R l p q) : Twin R l p.writeAfter q.writeAfter := h.writeLine.writeFoot

theorem note (h : Twin R l p q) (r : Remarks) (tail : Text)
    : Twin R l (p.note r tail) (q.note r tail) := by
  refine { h with remarks := ?_, tail := ?_ }
  . simp only [Printer.note, h.remarks]
  . simp only [Printer.note, h.tail]

theorem hasTrail (h : Twin R l p q) : q.hasTrail = p.hasTrail := by
  unfold Printer.hasTrail
  rw [h.remarks, h.tail]

theorem deeper (h : Twin R l p q) (flow entry : Bool)
    : q.deeper flow entry = p.deeper flow entry := by
  unfold Printer.deeper
  rw [h.indent, h.width]

end Twin
end Printer
end Yaml
end YamlOrder
