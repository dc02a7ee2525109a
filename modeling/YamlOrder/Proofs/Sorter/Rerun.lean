import YamlOrder.Proofs.Comment.Extend
import YamlOrder.Proofs.Document.Rejoin
import YamlOrder.Proofs.Shield.LineEnd
import YamlOrder.Proofs.Sorter.Pipeline
import YamlOrder.Proofs.Tree.Settle

/-!
This module contains what a second run does to a text that has been laid out: if the text is read as
the tree that it was laid out for, with its scalars in the styles in which they were written, then
it is laid out in the same way.
-/

namespace YamlOrder
namespace Document

open Text (ended newline dropNewlines)

variable {docs docs' : List Document} {d : Document} {buffer : Text}

/-- Documents with the same delimiters, whose texts differ in the newlines at their ends. -/
def SameTexts (docs docs' : List Document) : Prop :=
  List.Forall₂
    (fun d d' => d'.delimiter = d.delimiter ∧ dropNewlines d'.text = dropNewlines d.text) docs docs'

theorem dropNewlines_dropNewlines (text : Text)
    : dropNewlines (dropNewlines text) = dropNewlines text :=
  Text.dropNewlines_eq_self (Text.getLast?_dropNewlines text)

theorem SameTexts.join_eq (h : SameTexts docs docs') : join docs' = join docs := by
  have hfold (buffer : Text) : docs'.foldl append buffer = docs.foldl append buffer := by
    induction h generalizing buffer with
    | nil => rfl
    | @cons d d' docs docs' hd _ ih =>
      have happend : append buffer d' = append buffer d := by rw [append, append, hd.1, hd.2]
      rw [List.foldl_cons, List.foldl_cons, happend, ih]
  rw [join, join, hfold]

end Document

namespace Sorter

open YamlOrder.Tree (TreeSettles scalarsOf)
open Document (Separable SameTexts)
open Text (newline dropNewlines)

variable {s : Sorter} {sorting : Sorting} {text out buffer : Text} {t t' : Yaml.Tree}
  {docs : List Document}

/-- The text that is laid out for a tree in its order, without blank lines. -/
def draft (s : Sorter) (t : Yaml.Tree) : Text :=
  Layout.wrapFolded
    ((Tree.applyStyles s.schema s.styleOptions t).render
      (Layout.effectiveIndent s.settings.indent))
    s.settings.lineWidth

theorem layout_eq_draft (hlevels : sorting.isSome = true → s.settings.emptyLinesUntilLevel ≤ 0)
    (t : Yaml.Tree)
    : s.layout sorting t = .ok (s.draft (arrange sorting t)) := by
  have hblank : ¬ (sorting.isSome && s.settings.emptyLinesUntilLevel > 0) = true := by
    rw [Bool.and_eq_true, decide_eq_true_iff]
    intro ⟨hsome, hpos⟩
    have := hlevels hsome
    omega
  unfold layout
  rw [if_neg hblank]
  rfl

theorem dropNewlines_endLine (text : Text) : dropNewlines (endLine text) = dropNewlines text := by
  unfold endLine
  dsimp only
  split
  . next h =>
    rw [List.isEmpty_iff] at h
    rw [h]
    rfl
  . rw [Text.dropNewlines_append_newline, Document.dropNewlines_dropNewlines]

/--
A text that has been laid out for a tree, and is read again: what is hidden of it can be put back,
without what is hidden it is what was written for the tree, and it is read as the tree in its
written styles.
-/
structure Rereads (s : Sorter) (t : Yaml.Tree) (text : Text) : Prop where
  nonblank : Text.isBlank text = false
  expanded : expandTabs text s.settings.indent = .ok text
  restored : (s.shield.shield text).1.restore (s.shield.shield text).2 = text
  uncommented : s.settings.comments = true →
    ∀ l ∈ Comment.linesOf (s.shield.shield text).2, Comment.isComment l = false
  written : dropNewlines (s.shield.shield text).2 = dropNewlines (s.draft t)
  read : ∃ t', s.Reads text t' ∧ TreeSettles s.schema s.styleOptions t t'

theorem Reads.unique (h : s.Reads text t) (h' : s.Reads text t') : t = t' := by
  obtain ⟨p, hp, hparse⟩ := h
  obtain ⟨p', hp', hparse'⟩ := h'
  rw [hp, Except.ok.injEq] at hp'
  rw [hp', hparse'] at hparse
  simpa using hparse.symm

theorem recomment_of_uncommented {expanded : Text}
    (h : s.settings.comments = true → ∀ l ∈ Comment.linesOf (s.shield.shield expanded).2,
      Comment.isComment l = false)
    (out : Text)
    : s.recomment (s.prepared expanded) out = out := by
  unfold recomment
  split
  . next hon =>
    rw [prepared, Comment.pairs_of_uncommented (h hon)]
    rfl
  . rfl

theorem draft_eq_of_settles (h : TreeSettles s.schema s.styleOptions t t')
    (hquotes : ∀ p ∈ scalarsOf t, ¬ p.Misquoted s.schema s.styleOptions)
    : s.draft t' = s.draft t := by
  rw [draft, draft, h.render_eq hquotes]

theorem Rereads.transform_eq (h : s.Rereads t text)
    (hlevels : sorting.isSome = true → s.settings.emptyLinesUntilLevel ≤ 0)
    (harrange : ∀ t', s.Reads text t' → arrange sorting t' = t')
    (hquotes : ∀ p ∈ scalarsOf t, ¬ p.Misquoted s.schema s.styleOptions)
    : ∃ new, s.transform sorting text = .ok new ∧ dropNewlines new = dropNewlines text := by
  obtain ⟨t', hread, hsettles⟩ := h.read
  have hp := prepare_eq h.expanded
  have hparse : Tree.parse (s.prepared text).content s.schema = .ok (some t') := by
    obtain ⟨p, hp', hparse⟩ := hread
    rw [hp, Except.ok.injEq] at hp'
    rwa [hp']
  rw [Sorter.transform_eq sorting h.nonblank hp, rebuild_of_parse hparse, layout_eq_draft hlevels,
    harrange t' hread,
    draft_eq_of_settles hsettles hquotes]
  have hback : (s.prepared text).shield.restore (s.shield.shield text).2 = text := h.restored
  have hwritten : dropNewlines ((s.prepared text).shield.restore (s.shield.shield text).2) =
      dropNewlines ((s.prepared text).shield.restore (s.draft t)) :=
    Shield.dropNewlines_restore_congr
      (Shield.oneLine_shield_ofFlags s.settings.helm s.settings.arrays s.settings.octal text)
        h.written
  refine ⟨_, rfl, ?_⟩
  dsimp only
  rw [recomment_of_uncommented h.uncommented, dropNewlines_endLine, ← hwritten, hback]

/-- What holds of a document, its tree and its new text, if it is not blank. -/
def Follows (s : Sorter) (P : Text → Yaml.Tree → Text → Prop) (d e : Document) : Prop :=
  if Text.isBlank d.text then Text.isBlank e.text = true
  else ∃ t, s.Reads d.text t ∧ P d.text t e.text

theorem transform_of_isBlank (sorting : Sorting) (h : Text.isBlank text = true)
    : s.transform sorting text = .ok text := by
  rw [transform, if_pos h]
  rfl

end Sorter
end YamlOrder
