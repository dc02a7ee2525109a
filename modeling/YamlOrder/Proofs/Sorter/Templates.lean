import YamlOrder.Proofs.Printer.Node
import YamlOrder.Proofs.Shield.SpeltOut
import YamlOrder.Proofs.Sorter.Rerun
import YamlOrder.Proofs.Tree.Children

/-!
This module contains what the hiding of template expressions does to a document: its new text stays
the same if the document with words in the place of its expressions is read as the same tree but for
these words, and written in quotes that do not change the expressions.
-/

namespace YamlOrder
namespace Sorter

open Piece (shownText meantText subs)
open Substitution (ReadsAs StandsFor AlikeSubstitutes tokensIn inQuotes)
open Text (eq_false_of_all ofChars toChars)
open Yaml (IsWord Respelled)

variable {s : Sorter} {sorting : Sorting} {text expanded : Text} {t t' : Yaml.Tree}

/-- The sorter with template expressions hidden, or left to the reader. -/
def withTemplates (s : Sorter) (on : Bool) : Sorter :=
  { s with settings := { s.settings with helm := on } }

@[simp]
theorem rebuild_withTemplates (s : Sorter) (on : Bool) (sorting : Sorting)
    : (s.withTemplates on).rebuild sorting = s.rebuild sorting := rfl

@[simp]
theorem recomment_withTemplates (s : Sorter) (on : Bool)
    : (s.withTemplates on).recomment = s.recomment := rfl

/--
The new text of a document whose tabs are expanded and whose expressions are left to the reader.
-/
def rewritten (s : Sorter) (sorting : Sorting) (expanded : Text) : Except Error Text :=
  let p := (s.withTemplates false).prepared expanded
  (s.rebuild sorting p).map fun out => p.shield.restore (s.recomment p out)

theorem prepared_withTemplates (s : Sorter) (expanded : Text)
    : (s.withTemplates true).prepared expanded =
        { (s.withTemplates false).prepared (Substitution.helm.shield expanded).2 with
          shield := ⟨(Substitution.helm.shield expanded).1 ::
            ((s.withTemplates false).prepared
              (Substitution.helm.shield expanded).2).shield.substitutions⟩ } := rfl

theorem transform_withoutTemplates (hblank : Text.isBlank text = false)
    (hexpand : expandTabs text s.settings.indent = .ok expanded)
    : (s.withTemplates false).transform sorting text =
      (s.rewritten sorting expanded).map endLine := by
  rw [transform_eq sorting hblank (prepare_eq (s := s.withTemplates false) hexpand), rewritten]
  simp only [rebuild_withTemplates, recomment_withTemplates]
  cases s.rebuild sorting ((s.withTemplates false).prepared expanded)
  all_goals rfl

theorem transform_withTemplates (hblank : Text.isBlank text = false)
    (hexpand : expandTabs text s.settings.indent = .ok expanded)
    : (s.withTemplates true).transform sorting text =
        (s.rewritten sorting (Substitution.helm.shield expanded).2).map fun out =>
          endLine ((Substitution.helm.shield expanded).1.restore out) := by
  rw [transform_eq sorting hblank (prepare_eq (s := s.withTemplates true) hexpand),
    prepared_withTemplates, rewritten]
  simp only [rebuild_withTemplates, recomment_withTemplates]
  change (s.rebuild sorting ((s.withTemplates false).prepared
    (Substitution.helm.shield expanded).2)).map _ = _
  cases s.rebuild sorting ((s.withTemplates false).prepared (Substitution.helm.shield expanded).2)
  all_goals rfl

theorem shield_of_findAll_eq_nil (h : Pattern.helm.findAll expanded = [])
    : Substitution.helm.shield expanded = (Substitution.helm, expanded) := by
  have : Substitution.helm.pattern.findAll expanded = [] := h
  rw [Substitution.shield, this]
  rfl

theorem transform_of_findAll_eq_nil (hblank : Text.isBlank text = false)
    (hexpand : expandTabs text s.settings.indent = .ok expanded)
    (h : Pattern.helm.findAll expanded = [])
    : (s.withTemplates true).transform sorting text =
      (s.withTemplates false).transform sorting text := by
  rw [transform_withTemplates hblank hexpand, transform_withoutTemplates hblank hexpand,
    shield_of_findAll_eq_nil h]
  rfl

/-- A token of a template expression of a text, and the expression itself. -/
def Expression (expanded : Text) (w w' : List Char) : Prop :=
  IsWord w ∧ IsWord w' ∧ (Substitution.helm.shield expanded).1.StandsFor (ofChars w) (ofChars w')

/--
What is laid out for a tree that has been read of a text, with the sequences and numbers that were
hidden of it.
-/
def spelled (s : Sorter) (sorting : Sorting) (text : Text) (t : Yaml.Tree) : Text :=
  ((s.withTemplates false).prepared text).shield.restore (s.draft (arrange sorting t))

/--
A text that is read as a tree, that holds no comments to be moved, and for whose tree no line is
broken.
-/
structure Plainly (s : Sorter) (sorting : Sorting) (text : Text) (t : Yaml.Tree) : Prop where
  read : Tree.parse ((s.withTemplates false).prepared text).content s.schema = .ok (some t)
  uncommented : s.settings.comments = true →
    ∀ l ∈ ((s.withTemplates false).prepared text).lines, Comment.isComment l = false
  unbroken : s.draft (arrange sorting t) =
    (Tree.applyStyles s.schema s.styleOptions (arrange sorting t)).render
    (Layout.effectiveIndent s.settings.indent)

/--
A document with words in the place of its expressions is read as `t`, and the document itself as
`t'`, the same tree with the expressions in the place of the words. Every scalar is written in the
same style for both trees, in quotes that leave its expressions as they are. In the new texts a word
stands once, and no digit stands behind an expression.
-/
structure SpeltOut (s : Sorter) (sorting : Sorting) (expanded : Text) (t t' : Yaml.Tree)
    : Prop where
  hidden : s.Plainly sorting (Substitution.helm.shield expanded).2 t
  spelt : s.Plainly sorting expanded t'
  stores : List.Forall₂
    (fun sub sub' => List.Forall₂ (AlikeSubstitutes (Substitution.helm.shield expanded).1.StandsFor)
      sub.store sub'.store)
    ((s.withTemplates false).prepared (Substitution.helm.shield expanded).2).shield.substitutions
    ((s.withTemplates false).prepared expanded).shield.substitutions
  alike : (Tree.applyStyles s.schema s.styleOptions (arrange sorting t)).Alike (Expression expanded)
    (Tree.applyStyles s.schema s.styleOptions (arrange sorting t'))
  once : (tokensIn "helm" (s.spelled sorting (Substitution.helm.shield expanded).2 t)).Nodup
  free : Text.occursIn "yamlsort.helm." (s.spelled sorting expanded t') = false
  undigited : (Substitution.helm.shield expanded).1.Undigited (s.spelled sorting expanded t')

theorem Plainly.rewritten_eq (hlevels : sorting.isSome = true → s.settings.emptyLinesUntilLevel ≤ 0)
    (h : s.Plainly sorting text t)
    : s.rewritten sorting text = .ok (s.spelled sorting text t) := by
  have hrecomment := recomment_of_uncommented (s := s.withTemplates false) h.uncommented
  simp only [recomment_withTemplates] at hrecomment
  rw [rewritten, rebuild_of_parse h.read, layout_eq_draft hlevels]
  exact congrArg Except.ok (congrArg _ (hrecomment _))

theorem SpeltOut.respelled (hfree : Text.occursIn "yamlsort." expanded = false)
    (h : s.SpeltOut sorting expanded t t')
    : Respelled (Substitution.helm.shield expanded).1.StandsFor
        (s.spelled sorting (Substitution.helm.shield expanded).2 t)
        (s.spelled sorting expanded t') := by
  obtain ⟨u, v, hu, hv, hspelt⟩ :=
    h.alike.render (fun h => ⟨h.1, h.2.1⟩) (Layout.effectiveIndent s.settings.indent)
  rw [spelled, spelled, h.hidden.unbroken, h.spelt.unbroken, hu, hv]
  refine Shield.respelled_restore ?_ h.stores (hspelt.ofChars fun h => h.2.2)
  intro sub hsub w w' hw
  exact Shield.untouched_standsFor hfree hw hsub

theorem SpeltOut.transform_eq (hblank : Text.isBlank text = false)
    (hexpand : expandTabs text s.settings.indent = .ok expanded)
    (hfree : Text.occursIn "yamlsort." expanded = false)
    (hlevels : sorting.isSome = true → s.settings.emptyLinesUntilLevel ≤ 0)
    (h : s.SpeltOut sorting expanded t t')
    : ∃ out, (s.withTemplates false).transform sorting text = .ok out ∧
        (s.withTemplates true).transform sorting text = .ok out := by
  have hstart : ¬ Substitution.tokenStart "helm" <:+: expanded :=
    Substitution.not_tokenStart_infix hfree List.infix_rfl
  have hkind := Substitution.kind_shield .helm expanded
  have hnew : ¬ Substitution.tokenStart "helm" <:+: s.spelled sorting expanded t' := by
    rw [Shield.tokenStart_helm, ← Text.occursIn_iff, h.free]
    exact Bool.false_ne_true
  have hrestore : (Substitution.helm.shield expanded).1.restore
    (s.spelled sorting (Substitution.helm.shield expanded).2 t) =
      s.spelled sorting expanded t' := by
    refine Substitution.restore_of_respelled ?_
      (Substitution.issued_shield .helm Pattern.fences_helm rfl hstart)
      (h.respelled hfree) ?_ ?_ h.undigited
    . rw [hkind]
      decide
    . rw [hkind]
      exact h.once
    . rw [hkind]
      exact hnew
  refine ⟨endLine (s.spelled sorting expanded t'), ?_, ?_⟩
  . rw [transform_withoutTemplates hblank hexpand, h.spelt.rewritten_eq hlevels]
    rfl
  . rw [transform_withTemplates hblank hexpand, h.hidden.rewritten_eq hlevels, ← hrestore]
    rfl

/--
Hiding the template expressions of a document changes nothing if there are none, and nothing either
if the document is read in the same way with words in their place, and written in quotes that leave
the expressions as they are. A quoted value with expressions is read back, whichever quotes are
chosen for it, exactly if none of its expressions holds a character that these quotes must escape.
-/
theorem templates_transparent (hblank : Text.isBlank text = false)
    (hexpand : expandTabs text s.settings.indent = .ok expanded)
    (hfree : Text.occursIn "yamlsort." expanded = false)
    : (Pattern.helm.findAll expanded = [] →
        (s.withTemplates true).formatDocument text = (s.withTemplates false).formatDocument text) ∧
      (∀ t t', s.SpeltOut none expanded t t' →
        ∃ out, (s.withTemplates false).formatDocument text = .ok out ∧
          (s.withTemplates true).formatDocument text = .ok out) ∧
      ∀ (single : Bool) (ps : List Piece) (rest : List Char),
      (Substitution.helm.shield expanded).1.Hides ps →
        (∀ p ∈ ps, Text.isUtf8 p.meant = true) →
        (∀ p ∈ ps, ∀ c ∈ toChars p.meant, Yaml.isBreakOrEnd c = false) →
        (∀ c ∈ (toChars (shownText ps)).head?, Yaml.isByteOrderMark c = false) →
        rest.head? ≠ some '\'' →
          (ReadsAs single ((Substitution.helm.shield expanded).1.restore
            (inQuotes single (shownText ps))) rest
              (meantText ps) ↔
            ∀ t ∈ subs ps, ∀ c ∈ toChars t.value, Yaml.isDelicate single c = false) := by
  refine ⟨transform_of_findAll_eq_nil hblank hexpand,
    fun t t' h => h.transform_eq hblank hexpand hfree (by simp), ?_⟩
  intro single ps rest hps hutf8 hline hmark hrest
  have hkind := Substitution.kind_shield .helm expanded
  have hissued := Substitution.issued_shield .helm Pattern.fences_helm rfl
    (Substitution.not_tokenStart_infix hfree List.infix_rfl)
  refine Substitution.readsAs_restore_iff ?_ ?_ hissued hps hutf8 hline hmark
    (fun t ht => Substitution.getLast?_of_mem_shield_helm t (hps.stored t ht)) hrest
  . rw [hkind]
    decide
  . rw [hkind]
    decide +kernel

/-- An expression without quotes. -/
def placeholder : Text := "\x7b\x7b x \x7d\x7d"

/--
A document of one value that holds a name, in the quotes that it has or in those that it gets.
-/
def greeting (quote name : Text) : Text := "a: " ++ quote ++ "hi " ++ name ++ quote ++ "\n"

/-- The tree of the document. -/
def greetingTree (name : Text) : Yaml.Tree where
  root := .mapping { tag := Yaml.Tag.map, line := 1, column := 1 } false
    [(.scalar { tag := Yaml.Tag.str, line := 1, column := 1 } "a" .plain,
      .scalar { tag := Yaml.Tag.str, line := 1, column := 4 } ("hi " ++ name) .doubleQuoted)]

theorem shield_greeting : Substitution.helm.shield (greeting "\"" placeholder) =
    ({ Substitution.helm with store := [⟨"yamlsort.helm.0", placeholder⟩], next := 1 },
      greeting "\"" "yamlsort.helm.0") := by
  rfl

theorem plainly_greeting {name : Text} (h : name = "yamlsort.helm.0" ∨ name = placeholder)
    : ({ settings := {} } : Sorter).Plainly none (greeting "\"" name) (greetingTree name) where
  read := by
    obtain rfl | rfl := h
    all_goals exact eq_ok_of_toOption (by decide +kernel)
  uncommented := by
    obtain rfl | rfl := h
    all_goals decide
  unbroken := by
    obtain rfl | rfl := h
    all_goals decide

theorem spelled_greeting {name : Text} (h : name = "yamlsort.helm.0" ∨ name = placeholder)
    : ({ settings := {} } : Sorter).spelled none (greeting "\"" name) (greetingTree name) =
      greeting "'" name := by
  obtain rfl | rfl := h
  all_goals decide

theorem expression_greeting
    : Expression (greeting "\"" placeholder) "yamlsort.helm.0".toList
      "\x7b\x7b x \x7d\x7d".toList := by
  have hword {c : Char} {cs : List Char} (hc : Yaml.isBlankOrEnd c = false)
      (hmark : Yaml.isByteOrderMark c = false)
      (hline : (c :: cs).all (!Yaml.isBreak ·) = true) : IsWord (c :: cs) :=
    ⟨⟨c, cs, rfl, hc, hmark⟩, eq_false_of_all hline⟩
  refine ⟨hword (by decide) (by decide) (by decide), hword (by decide) (by decide) (by decide), ?_⟩
  rw [shield_greeting]
  exact ⟨_, List.mem_singleton_self _, by decide, by decide⟩

theorem spelt_greeting
    : Yaml.Printer.SpeltIn (Expression (greeting "\"" placeholder)) .singleQuoted
        (toChars ("hi " ++ "yamlsort.helm.0")) (toChars ("hi " ++ placeholder)) where
  spelt := by
    have hspecial : ∀ c ∈ "yamlsort.helm.0".toList ++ "\x7b\x7b x \x7d\x7d".toList,
        Yaml.Printer.isSpecial .singleQuoted c = false := eq_false_of_all (by decide)
    have hhidden : toChars ("hi " ++ "yamlsort.helm.0") = "hi ".toList ++
      ("yamlsort.helm.0".toList ++ []) := by
      decide
    have hspelt : toChars ("hi " ++ placeholder) = "hi ".toList ++
      ("\x7b\x7b x \x7d\x7d".toList ++ []) := by
      decide
    rw [hhidden, hspelt]
    exact (Respelled.refl _).append (.word ⟨expression_greeting, hspecial⟩ .nil)
  marked := by simp

theorem speltOut_greeting
    : ({ settings := {} } : Sorter).SpeltOut none (greeting "\"" placeholder)
      (greetingTree "yamlsort.helm.0")
        (greetingTree placeholder) where
  hidden := shield_greeting ▸ plainly_greeting (.inl rfl)
  spelt := plainly_greeting (.inr rfl)
  stores := by
    rw [shield_greeting]
    exact .cons .nil .nil
  alike := by
    refine ⟨⟨⟨rfl, rfl, rfl⟩, rfl, by decide, ?_, ?_, trivial⟩, rfl, rfl⟩
    . exact ⟨⟨rfl, rfl, rfl⟩, rfl, .refl _, fun _ _ => rfl⟩
    . refine ⟨⟨rfl, rfl, rfl⟩, by decide, ?_⟩
      convert spelt_greeting using 1
      decide
  once := by
    rw [shield_greeting, spelled_greeting (.inl rfl)]
    decide
  free := by
    rw [spelled_greeting (.inr rfl)]
    decide
  undigited := by
    rw [shield_greeting, spelled_greeting (.inr rfl)]
    decide +kernel

theorem hides_greeting : (Substitution.helm.shield (greeting "\"" placeholder)).1.Hides
    [.hidden ⟨"yamlsort.helm.0", placeholder⟩] := by
  rw [shield_greeting]
  exact ⟨⟨⟨0, by decide⟩, by decide, by decide, trivial⟩, by decide, by decide,
    by simp [subs]⟩

/-- An expression without quotes survives in single quotes. -/
theorem templates_transparent_greeting
    : Text.isBlank (greeting "\"" placeholder) = false ∧
      expandTabs (greeting "\"" placeholder) ({ settings := {} } : Sorter).settings.indent =
        .ok (greeting "\"" placeholder) ∧
      Text.occursIn "yamlsort." (greeting "\"" placeholder) = false ∧
      (∃ out, (({ settings := {} } : Sorter).withTemplates false).formatDocument
            (greeting "\"" placeholder) = .ok out ∧
          (({ settings := {} } : Sorter).withTemplates true).formatDocument
            (greeting "\"" placeholder) = .ok out) ∧
      ReadsAs true ((Substitution.helm.shield (greeting "\"" placeholder)).1.restore
        (inQuotes true "yamlsort.helm.0")) [] placeholder := by
  have hblank : Text.isBlank (greeting "\"" placeholder) = false := by decide
  have hexpand : expandTabs (greeting "\"" placeholder)
    ({ settings := {} } : Sorter).settings.indent =
      .ok (greeting "\"" placeholder) := rfl
  have hfree : Text.occursIn "yamlsort." (greeting "\"" placeholder) = false := by decide
  obtain ⟨-, hsame, hquotes⟩ := templates_transparent hblank hexpand hfree
  refine ⟨hblank, hexpand, hfree, hsame _ _ speltOut_greeting, ?_⟩
  refine (hquotes true [.hidden ⟨"yamlsort.helm.0", placeholder⟩] [] hides_greeting
    (by decide) ?_ ?_
    (by simp)).mpr ?_
  . have hline : (toChars placeholder).all (!Yaml.isBreakOrEnd ·) = true := by decide
    simpa only [List.mem_singleton, forall_eq, Piece.meant] using eq_false_of_all hline
  . have hhead : (toChars (shownText [.hidden ⟨"yamlsort.helm.0", placeholder⟩])).head? =
      some 'y' := by decide
    rw [hhead]
    simp [Yaml.isByteOrderMark]
  . have hplain : (toChars placeholder).all (!Yaml.isDelicate true ·) = true := by decide
    simpa only [subs, List.mem_singleton, forall_eq] using eq_false_of_all hplain

/-- Single quotes inside of an expression end the single quotes around it. -/
theorem templates_not_transparent
    : ¬ ∀ (settings : Settings) (s : Sorter) (text out : Text), make settings false = .ok s →
        Text.occursIn "yamlsort." text = false →
        (s.withTemplates false).formatDocument text = .ok out →
          ∃ out', (s.withTemplates true).formatDocument text = .ok out' ∧
            ∃ t t', Yaml.Tree.parse out = .ok t ∧ Yaml.Tree.parse out' = .ok t' ∧
              t.map (·.root.data) = t'.map (·.root.data) := by
  intro h
  have hoff : (({ settings := {} } : Sorter).withTemplates false).formatDocument
    "a: \"\x7b\x7b 'x' \x7d\x7d\"\n" =
      .ok "a: '\x7b\x7b ''x'' \x7d\x7d'\n" := eq_ok_of_toOption (by decide +kernel)
  have hon : (({ settings := {} } : Sorter).withTemplates true).formatDocument
    "a: \"\x7b\x7b 'x' \x7d\x7d\"\n" =
      .ok "a: '\x7b\x7b 'x' \x7d\x7d'\n" := eq_ok_of_toOption (by decide +kernel)
  obtain ⟨out', hout', t, t', -, ht', -⟩ := h {} { settings := {} } _ _ rfl (by decide) hoff
  rw [hon, Except.ok.injEq] at hout'
  subst hout'
  have hfails : (Yaml.Tree.parse "a: '\x7b\x7b 'x' \x7d\x7d'\n").toOption = none := by
    decide +kernel
  rw [ht'] at hfails
  simp [Except.toOption] at hfails

end Sorter
end YamlOrder
