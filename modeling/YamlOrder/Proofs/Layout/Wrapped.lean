import YamlOrder.Proofs.Folding.Run
import YamlOrder.Proofs.Layout.Cut
import YamlOrder.Proofs.Layout.Transparent

/-!
This module contains what wrapping does to the meaning of a document: nothing, as long as only lines
of folded scalars are cut. Which lines these are is guessed from their ends and their indentation,
so other ones may be cut too.
-/

namespace YamlOrder
namespace Layout

open Text (ofChars toChars)
open Yaml (broken isAllowed)

variable {i : Nat} {cs : List Char} {width : Int}

/-- Whether each space that wrapping cuts is taken by a line of a folded scalar. -/
def CutsFolded (text : Text) (width : Int) : Prop :=
  ∀ c ∈ wrapCuts text width, ∃ l ∈ Yaml.foldedLines text, l.takes c.1 c.2 = true

theorem mem_broken {cut : Nat → Option Nat} {c : Char} (h : c ∈ broken cut i cs)
    : c ∈ cs ∨ c = '\n' ∨ c = ' ' := by
  induction cs generalizing i with
  | nil => cases h
  | cons d cs ih =>
    rw [broken] at h
    split at h
    . obtain rfl | h := List.mem_cons.mp h
      . exact .inl List.mem_cons_self
      . exact (ih h).imp_left (List.mem_cons_of_mem d)
    . rw [List.mem_cons, List.mem_append] at h
      obtain rfl | h | h := h
      . exact .inr (.inl rfl)
      . exact .inr (.inr (List.eq_of_mem_replicate h))
      . exact (ih h).imp_left (List.mem_cons_of_mem d)

theorem exists_wrap {text : Text} (htext : Readable text) (hcuts : CutsFolded text width)
    : ∃ w : Yaml.Wrap, w.chars = toChars text ∧ wrapFolded text width = ofChars (w.after 0) ∧
        ∀ k m, w.cut k = some m → ∃ l ∈ Yaml.foldedLines text, l.takes k m = true := by
  have hlines : ∀ l ∈ Yaml.foldedLines text, ∃ i, l.In (toChars text) i := by
    intro l hl
    obtain ⟨_, p, -, -, hline, -⟩ :=
      Yaml.Scanner.opened_of_mem_foldedLines (.start htext.undirected) hl
    exact ⟨p, hline⟩
  have htaken : ∀ k m, (wrapCuts text width).lookup k = some m →
    ∃ l ∈ Yaml.foldedLines text, l.takes k m = true := by
    intro k m hcut
    obtain ⟨before, behind, hsplit, -⟩ := List.lookup_eq_some_iff.mp hcut
    refine hcuts (k, m) ?_
    rw [hsplit]
    exact List.mem_append_right before List.mem_cons_self
  refine ⟨.ofLines (toChars text) ((wrapCuts text width).lookup ·) _ hlines htaken, rfl, ?_, htaken⟩
  have := wrapFolded_ofChars (toChars text) width
  rwa [Text.ofChars_toChars htext.utf8] at this

theorem wrapFolded_twin {text : Text} {t : Yaml.Tree} (htext : Readable text)
    (hcuts : CutsFolded text width) (ht : Yaml.Tree.parse text = .ok (some t))
    : ∃ t', Yaml.Tree.parse (wrapFolded text width) = .ok (some t') ∧
      Yaml.Node.Twin True t.root t'.root := by
  obtain ⟨w, hchars, hout, htaken⟩ := exists_wrap htext hcuts
  have hhead : (w.after 0).head? = (toChars text).head? := hchars ▸ w.head?_after_zero
  rw [hout]
  refine exists_twin htext ?_ ?_ (hhead ▸ htext.unmarked) (fun front front' _ => ?_) ht
  . intro c hc
    obtain hc | rfl | rfl := mem_broken hc
    . rw [List.drop_zero, hchars] at hc
      exact List.all_eq_true.mp htext.allowed c hc
    . decide
    . decide
  . rw [ne_eq, ← List.head?_eq_none_iff, hhead, List.head?_eq_none_iff]
    exact toChars_ne_nil htext ht
  . rw [← hchars]
    refine w.ofSource_leads front front' ?_ ?_ ?_
    all_goals rw [hchars]
    . exact htext.undirected
    . exact htext.unmarked
    . exact htaken

/--
Wrapping that cuts only lines of folded scalars keeps the tree of a document, and with it the tags,
anchors, values and their order.
-/
theorem wrapFolded_keeps_tree {text : Text} {schema : Schema} {t : Yaml.Tree}
    (htext : Readable text) (hcuts : CutsFolded text width)
    (ht : Tree.parse text schema = .ok (some t))
    : ∃ t', Tree.parse (wrapFolded text width) schema = .ok (some t') ∧
      t'.root.bare = t.root.bare := by
  obtain ⟨t', -, -, hkeeps⟩ := exists_parse_of_twin (fun _ => wrapFolded_twin htext hcuts) ht
  exact ⟨t', hkeeps trivial⟩

/-- A folded scalar that is cut, next to a literal that is as long. -/
theorem wrapFolded_keeps_tree_nested
    : wrapFolded "a:\n  b: >-\n    cd ef gh\n  i: |\n    jk lm no\n" 9 =
          ("a:\n  b: >-\n    cd ef\n    gh\n  i: |\n    jk lm no\n" : Text) ∧
        Readable "a:\n  b: >-\n    cd ef gh\n  i: |\n    jk lm no\n" ∧
        CutsFolded "a:\n  b: >-\n    cd ef gh\n  i: |\n    jk lm no\n" 9 ∧
        ∃ t t', Tree.parse "a:\n  b: >-\n    cd ef gh\n  i: |\n    jk lm no\n" .default =
        .ok (some t) ∧
          Tree.parse "a:\n  b: >-\n    cd ef\n    gh\n  i: |\n    jk lm no\n" .default =
          .ok (some t') ∧
          t'.root.bare = t.root.bare := by
  have hout : wrapFolded "a:\n  b: >-\n    cd ef gh\n  i: |\n    jk lm no\n" 9 =
      ("a:\n  b: >-\n    cd ef\n    gh\n  i: |\n    jk lm no\n" : Text) := by
    decide +kernel
  have htext : Readable "a:\n  b: >-\n    cd ef gh\n  i: |\n    jk lm no\n" := by
    constructor
    all_goals decide +kernel
  have hcuts : CutsFolded "a:\n  b: >-\n    cd ef gh\n  i: |\n    jk lm no\n" 9 := by
    unfold CutsFolded
    decide +kernel
  have hread : Tree.parse "a:\n  b: >-\n    cd ef gh\n  i: |\n    jk lm no\n" .default = .ok (some
      { root := .mapping { tag := Yaml.Tag.map, line := 1, column := 1 } false
          [(.scalar { tag := Yaml.Tag.str, line := 1, column := 1 } "a" .plain,
            .mapping { tag := Yaml.Tag.map, line := 2, column := 3 } false
              [(.scalar { tag := Yaml.Tag.str, line := 2, column := 3 } "b" .plain,
                .scalar { tag := Yaml.Tag.str, line := 2, column := 6 } "cd ef gh" .folded),
              (.scalar { tag := Yaml.Tag.str, line := 4, column := 3 } "i" .plain,
                .scalar { tag := Yaml.Tag.str, line := 4, column := 6 } "jk lm no\n"
                .literal)])] }) :=
    Sorter.eq_ok_of_toOption (by decide +kernel)
  obtain ⟨t', hread', hbare⟩ := wrapFolded_keeps_tree htext hcuts hread
  rw [hout] at hread'
  exact ⟨hout, htext, hcuts, _, t', hread, hread', hbare⟩

/--
The lines of a literal after a folded scalar in an entry of a sequence are wrapped too, which
changes its value.
-/
theorem wrapFolded_changes_literal
    : ¬ ∀ (schema : Schema) (source : Text) (t : Yaml.Tree) (o : Tree.StyleOptions)
      (indent width : Int),
        Tree.parse source schema = .ok (some t) → 1 ≤ indent →
          ∃ read read',
            Tree.parse ((Tree.applyStyles schema o t).render (effectiveIndent indent)) schema = .ok
            (some read) ∧
            Tree.parse
            (wrapFolded ((Tree.applyStyles schema o t).render (effectiveIndent indent))
              width) schema =
              .ok (some read') ∧ read'.root.data = read.root.data := by
  intro h
  have hread : Tree.parse "- a: >-\n    b\n  c: |\n    d e\n" .default = .ok (some
      { root := .sequence { tag := Yaml.Tag.seq, line := 1, column := 1 } false
          [.mapping { tag := Yaml.Tag.map, line := 1, column := 3 } false
            [(.scalar { tag := Yaml.Tag.str, line := 1, column := 3 } "a" .plain,
              .scalar { tag := Yaml.Tag.str, line := 1, column := 6 } "b" .folded),
            (.scalar { tag := Yaml.Tag.str, line := 3, column := 3 } "c" .plain,
              .scalar { tag := Yaml.Tag.str, line := 3, column := 6 } "d e\n" .literal)]] }) :=
    Sorter.eq_ok_of_toOption (by decide +kernel)
  have hread' : Tree.parse "- a: >-\n    b\n  c: |\n    d\n    e\n" .default = .ok (some
      { root := .sequence { tag := Yaml.Tag.seq, line := 1, column := 1 } false
          [.mapping { tag := Yaml.Tag.map, line := 1, column := 3 } false
            [(.scalar { tag := Yaml.Tag.str, line := 1, column := 3 } "a" .plain,
              .scalar { tag := Yaml.Tag.str, line := 1, column := 6 } "b" .folded),
            (.scalar { tag := Yaml.Tag.str, line := 3, column := 3 } "c" .plain,
              .scalar { tag := Yaml.Tag.str, line := 3, column := 6 } "d\ne\n" .literal)]] }) :=
    Sorter.eq_ok_of_toOption (by decide +kernel)
  have hout : wrapFolded "- a: >-\n    b\n  c: |\n    d e\n" 6 =
    "- a: >-\n    b\n  c: |\n    d\n    e\n" := by
    decide +kernel
  obtain ⟨read, read', ht, ht', hdata⟩ := h .default _ _ ⟨.single, 6, false⟩ 2 6 hread (by decide)
  have hrender : (Tree.applyStyles .default ⟨.single, 6, false⟩
      { root := .sequence { tag := Yaml.Tag.seq, line := 1, column := 1 } false
          [.mapping { tag := Yaml.Tag.map, line := 1, column := 3 } false
            [(.scalar { tag := Yaml.Tag.str, line := 1, column := 3 } "a" .plain,
              .scalar { tag := Yaml.Tag.str, line := 1, column := 6 } "b" .folded),
            (.scalar { tag := Yaml.Tag.str, line := 3, column := 3 } "c" .plain,
              .scalar { tag := Yaml.Tag.str, line := 3, column := 6 } "d e\n" .literal)]] }).render
        (effectiveIndent 2) = "- a: >-\n    b\n  c: |\n    d e\n" := by
    decide +kernel
  rw [hrender, hread, Except.ok.injEq, Option.some.injEq] at ht
  rw [hrender, hout, hread', Except.ok.injEq, Option.some.injEq] at ht'
  subst ht ht'
  exact absurd hdata (by decide +kernel)

end Layout
end YamlOrder
