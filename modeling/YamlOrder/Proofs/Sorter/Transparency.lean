import YamlOrder.Proofs.Comment.Extend
import YamlOrder.Proofs.Notes.Text
import YamlOrder.Proofs.Sorter.Pipeline
import YamlOrder.Proofs.Tree.Children

/-!
This module contains how far it makes no difference whether comments are moved separately or left to
the reader: moving them separately trims the document and takes out its comment lines before it is
read, and adds comment lines to its new text, and nothing else. Where the comment lines are outside
of scalars, this changes no tree.
-/

namespace YamlOrder

namespace Sorter

open Comment (linesOf comments pairs strip Annotates Extends)
open Layout (exists_check_of_parse parse_of_bare)

variable {s : Sorter} {sorting : Sorting} {text : Text} {p : Prepared}

/-- The text without its comment lines and the white space around it. -/
def uncommented (content : Text) : Text := strip (linesOf content)

theorem uncommented_of_comments_eq_nil {content : Text} (h : comments (linesOf content) = [])
    : uncommented content = Text.trim content := by
  have hall : (linesOf content).filter (!Comment.isComment ·) = linesOf content := by
    rw [List.filter_eq_self]
    intro l hl
    have := List.filter_eq_nil_iff.mp h l hl
    simpa using this
  rw [uncommented, strip, hall, linesOf, Text.unlines_lines]

theorem prepare_withComments (hp : (s.withComments false).prepare text = .ok p)
    : (s.withComments true).prepare text = .ok { p with content := uncommented p.content } ∧
        p.lines = linesOf p.content := by
  cases hexpand : expandTabs text s.settings.indent with
  | error e =>
    have hfails : ¬ Succeeds ((s.withComments false).prepare text) := by
      unfold prepare
      rw [succeeds_bind]
      rintro ⟨expanded, hexpanded, -⟩
      rw [withComments, hexpand] at hexpanded
      cases hexpanded
    exact absurd ⟨p, hp⟩ hfails
  | ok expanded =>
    rw [prepare_eq (s := s.withComments false) hexpand, Except.ok.injEq] at hp
    subst hp
    exact ⟨prepare_eq (s := s.withComments true) hexpand, rfl⟩

/-- Two texts that are read as the same tree, apart from its comments and positions. -/
def ReadAlike (text text' : Text) : Prop :=
  ∃ t t', Yaml.Tree.parse text = .ok (some t) ∧ Yaml.Tree.parse text' = .ok (some t') ∧
    t'.root.bare = t.root.bare

/--
A document whose comment lines are outside of its scalars. Without them it can be read, and in the
same way without the white space around it.
-/
structure CommentsApart (content : Text) (schema : Schema) : Prop where
  readable : Layout.Readable (strip (Text.lines content))
  apart : Annotates (strip (Text.lines content)) content
  trimmed : ∃ t t', Tree.parse (strip (Text.lines content)) schema = .ok (some t) ∧
    Tree.parse (uncommented content) schema = .ok (some t') ∧ t'.root.bare = t.root.bare

theorem CommentsApart.exists_parse {content : Text} {schema : Schema}
    (h : CommentsApart content schema)
    : ∃ t t', Tree.parse content schema = .ok (some t) ∧
        Tree.parse (uncommented content) schema = .ok (some t') ∧ t'.root.bare = t.root.bare := by
  obtain ⟨t, t', ht, ht', hbare⟩ := h.trimmed
  obtain ⟨-, t₀, ht₀, hbare₀⟩ := h.apart.keeps_tree h.readable (exists_check_of_parse ht).1
  exact ⟨t₀, t', parse_of_bare ht ht₀ hbare₀, ht', hbare.trans hbare₀.symm⟩

/-- The answer for a new text: what was hidden is put back, and the text ends with a newline. -/
def finish (p : Prepared) (out : Text) : Text := endLine (p.shield.restore out)

theorem transform_withoutComments {t : Yaml.Tree} (sorting : Sorting)
    (hblank : Text.isBlank text = false) (hp : (s.withComments false).prepare text = .ok p)
    (ht : Tree.parse p.content s.schema = .ok (some t))
    : (s.withComments false).transform sorting text = (s.layout sorting t).map (finish p) := by
  rw [← schema_withComments s false] at ht
  rw [transform_eq sorting hblank hp, rebuild_of_parse (p := p) ht]
  rfl

theorem transform_withComments {t : Yaml.Tree} (sorting : Sorting)
    (hblank : Text.isBlank text = false) (hp : (s.withComments false).prepare text = .ok p)
    (ht : Tree.parse (uncommented p.content) s.schema = .ok (some t))
    : (s.withComments true).transform sorting text =
        (s.layout sorting t).map fun out =>
          finish p (Comment.apply (pairs (linesOf p.content)) out) := by
  obtain ⟨hon, hlines⟩ := prepare_withComments hp
  rw [← schema_withComments s true] at ht
  rw [transform_eq sorting hblank hon,
    rebuild_of_parse (p := { p with content := uncommented p.content }) ht, ← hlines]
  rfl

/--
Whether comments are moved separately makes a difference in three ways only. There is an answer
exactly if the document can be read without its comment lines and the white space around it. If it
has no comment line and the white space around it makes no difference to the reader, then the answer
is the same. And the answer is the text of what was read without comment lines, with some of the
comment lines between its lines. So if the comment lines of the document are outside of its scalars,
then the same tree is read in both cases, and there are two answers. If they are outside of the
scalars of the new text too, then the answers are read as the same tree.
-/
theorem comments_transparent (sorting : Sorting) (hfit : sorting.isSome = true → s.BlankLinesFit)
    (hblank : Text.isBlank text = false) (hp : (s.withComments false).prepare text = .ok p)
    : (Succeeds ((s.withComments true).transform sorting text) ↔
        Succeeds (Tree.parse (uncommented p.content) s.schema)) ∧
      (∀ t, comments (linesOf p.content) = [] →
        Tree.parse (Text.trim p.content) s.schema = .ok (some t) →
        Tree.parse p.content s.schema = .ok (some t) →
          (s.withComments true).transform sorting text =
            (s.withComments false).transform sorting text) ∧
      (∀ result, (s.withComments true).transform sorting text = .ok result →
        ∃ out new,
          (s.withComments true).rebuild sorting { p with content := uncommented p.content } =
            .ok out ∧
          Extends (comments (linesOf p.content)) out new ∧ result = finish p new) ∧
      (CommentsApart p.content s.schema →
        ∃ t t' out result result', Tree.parse p.content s.schema = .ok (some t) ∧
          Tree.parse (uncommented p.content) s.schema = .ok (some t') ∧
          t'.root.bare = t.root.bare ∧ s.layout sorting t' = .ok out ∧
          (s.withComments false).transform sorting text = .ok result ∧
          (s.withComments true).transform sorting text = .ok result' ∧
          ∀ u, Layout.Readable (finish p out) → Yaml.Tree.parse (finish p out) = .ok (some u) →
            Annotates (finish p out) result' →
              ReadAlike (finish p out) result' ∧
                (Annotates (finish p out) result → ReadAlike result result')) := by
  obtain ⟨hon, hlines⟩ := prepare_withComments hp
  refine ⟨?_, ?_, ?_, ?_⟩
  . rw [transform_eq sorting hblank hon, succeeds_map]
    exact succeeds_rebuild (s := s.withComments true) hfit _
  . intro t hnone htrim hcontent
    rw [← uncommented_of_comments_eq_nil hnone] at htrim
    have hpairs : pairs (linesOf p.content) = [] := Comment.pairs_of_uncommented fun l hl => by
      have := List.filter_eq_nil_iff.mp hnone l hl
      simpa using this
    rw [transform_withComments sorting hblank hp htrim,
      transform_withoutComments sorting hblank hp hcontent, hpairs]
    rfl
  . intro result hresult
    rw [transform_eq sorting hblank hon] at hresult
    obtain ⟨out, hout, rfl⟩ := exists_of_map_eq_ok hresult
    refine ⟨out, _, hout, ?_, rfl⟩
    have hextends := Comment.extends_apply (linesOf p.content)
      (fun l hl => Text.newline_not_mem_of_mem_lines hl) out
    rw [← hlines] at hextends
    exact hlines ▸ hextends
  . intro hapart
    obtain ⟨t, t', ht, ht', hbare⟩ := hapart.exists_parse
    obtain ⟨new, hnew⟩ := succeeds_layout hfit t
    obtain ⟨out, hout⟩ := succeeds_layout hfit t'
    have hoff := transform_withoutComments sorting hblank hp ht
    have hresult := transform_withComments sorting hblank hp ht'
    rw [hnew] at hoff
    rw [hout] at hresult
    refine ⟨t, t', out, _, _, ht, ht', hbare, hout, hoff, hresult, ?_⟩
    intro u hreadable hu hon
    obtain ⟨-, v, hv, hbare⟩ := hon.keeps_tree hreadable hu
    refine ⟨⟨u, v, hu, hv, hbare⟩, fun hoff => ?_⟩
    obtain ⟨-, w, hw, hbare'⟩ := hoff.keeps_tree hreadable hu
    exact ⟨w, v, hw, hv, hbare.trans hbare'.symm⟩

/-- A comment line between two pairs, which may have an empty line above them. -/
def noteBelow (blank : Bool) : Yaml.Note where
  before := (if blank then ['\n'] else []) ++ ['a', ':', ' ', '1', '\n']
  behind := ['b', ':', ' ', '2', '\n']
  spaces := 0
  content := [' ', 'c']
  paired := false
  opens := .inr ⟨(if blank then ['\n'] else []) ++ ['a', ':', ' ', '1'], by simp⟩
  plain := Text.eq_false_of_all (by decide)
  untabbed := by decide
  tame := by
    unfold Yaml.Tame
    cases blank
    all_goals decide

/-- A comment line above all that. -/
def noteAbove (blank : Bool) : Yaml.Note where
  before := []
  behind := (noteBelow blank).extended
  spaces := 0
  content := [' ', 'h', 'e', 'a', 'd']
  paired := false
  opens := .inl rfl
  plain := Text.eq_false_of_all (by decide)
  untabbed := by decide
  tame := by
    unfold Yaml.Tame
    cases blank
    all_goals decide

/-- An empty line below the first comment line. -/
def blankBelow : Yaml.Spacing where
  chars := (noteAbove false).extended
  doubled i := i == 6
  newline := by
    intro i hi
    obtain rfl := beq_iff_eq.mp hi
    rfl
  opens := by
    intro i hi
    obtain rfl := beq_iff_eq.mp hi
    exact ⟨0, 'a', _, rfl, by decide⟩

theorem annotates_notes (blank : Bool)
    : Annotates (Text.ofChars (noteBelow blank).chars)
        (Text.ofChars (noteAbove blank).extended) := by
  have hbelow : (noteBelow blank).Apart := by
    cases blank
    all_goals decide +kernel
  have habove : (noteAbove blank).Apart := by
    cases blank
    all_goals decide +kernel
  have hallowed : ∀ c ∈ [' ', 'c'], Yaml.isAllowed c.toNat = true :=
    List.all_eq_true.mp (by decide)
  have hallowed' : ∀ c ∈ [' ', 'h', 'e', 'a', 'd'], Yaml.isAllowed c.toNat = true :=
    List.all_eq_true.mp (by decide)
  exact .tail (.single (.comment (noteBelow blank) hallowed hbelow))
    (.comment (noteAbove blank) hallowed' habove)

theorem annotates_blank
    : Annotates (Text.ofChars (noteBelow false).chars) (Text.ofChars (blankBelow.after 0)) :=
  (annotates_notes false).tail (.blanks blankBelow (by decide +kernel))

/-- The tree of the pairs, of which the first one is on a certain line. -/
def pairTree (line : Nat) : Yaml.Tree where
  line := line
  root := .mapping { tag := Yaml.Tag.map, line, column := 1 } false
    [(.scalar { tag := Yaml.Tag.str, line, column := 1 } "a" .plain,
        .scalar { tag := Yaml.Tag.int, line, column := 4 } "1" .plain),
      (.scalar { tag := Yaml.Tag.str, line := line + 1, column := 1 } "b" .plain,
        .scalar { tag := Yaml.Tag.int, line := line + 1, column := 4 } "2" .plain)]

/-- The document with both comment lines and the empty line between them. -/
def notes : Text := "# head\n\na: 1\n# c\nb: 2\n"

theorem uncommented_notes : uncommented notes = "\na: 1\nb: 2" := by decide

theorem commentsApart_notes
    : CommentsApart notes ({ settings := {} } : Sorter).schema := by
  have hstrip : strip (Text.lines notes) = "\na: 1\nb: 2\n" := by decide
  have hbelow : ("\na: 1\nb: 2\n" : Text) = Text.ofChars (noteBelow true).chars := by decide
  have hnotes : notes = Text.ofChars (noteAbove true).extended := by decide
  refine ⟨?_, ?_, pairTree 2, pairTree 2, ?_, ?_, rfl⟩
  . rw [hstrip]
    constructor
    all_goals decide +kernel
  . rw [hstrip, hbelow, hnotes]
    exact annotates_notes true
  . rw [hstrip]
    exact eq_ok_of_toOption (by decide +kernel)
  . rw [uncommented_notes]
    exact eq_ok_of_toOption (by decide +kernel)

/-- A document with two comment lines, the first of which loses the empty line below it. -/
theorem comments_transparent_notes
    : Text.isBlank notes = false ∧
      (({ settings := {} } : Sorter).withComments false).formatDocument notes = .ok notes ∧
      (({ settings := {} } : Sorter).withComments true).formatDocument notes =
        .ok "# head\na: 1\n# c\nb: 2\n" ∧
      ReadAlike notes "# head\na: 1\n# c\nb: 2\n" := by
  have hexpand : expandTabs notes ({ settings := {} } : Sorter).settings.indent = .ok notes := rfl
  have hp := prepare_eq (s := ({ settings := {} } : Sorter).withComments false) hexpand
  have hblank : Text.isBlank notes = false := by decide
  obtain ⟨-, -, -, hagree⟩ := comments_transparent none (by simp) hblank hp
  have hcontent : ((({ settings := {} } : Sorter).withComments false).prepared notes).content =
    notes := by decide
  rw [hcontent] at hagree
  obtain ⟨t, t', out, result, result', -, ht', -, hout, hoff, hon, hread⟩ :=
    hagree commentsApart_notes
  have htree : Tree.parse (uncommented notes) ({ settings := {} } : Sorter).schema =
      .ok (some (pairTree 2)) := by
    rw [uncommented_notes]
    exact eq_ok_of_toOption (by decide +kernel)
  rw [htree, Except.ok.injEq, Option.some.injEq] at ht'
  subst ht'
  have hlayout : ({ settings := {} } : Sorter).layout none (pairTree 2) = .ok "a: 1\nb: 2\n" :=
    eq_ok_of_toOption (by decide +kernel)
  rw [hlayout, Except.ok.injEq] at hout
  subst hout
  have hoff' :
      (({ settings := {} } : Sorter).withComments false).formatDocument notes = .ok notes :=
    eq_ok_of_toOption (by decide +kernel)
  have hon' : (({ settings := {} } : Sorter).withComments true).formatDocument notes =
    .ok "# head\na: 1\n# c\nb: 2\n" := eq_ok_of_toOption (by decide +kernel)
  rw [formatDocument, hoff, Except.ok.injEq] at hoff'
  rw [formatDocument, hon, Except.ok.injEq] at hon'
  subst hoff' hon'
  have hnew : finish ((({ settings := {} } : Sorter).withComments false).prepared notes)
      "a: 1\nb: 2\n" = Text.ofChars (noteBelow false).chars := by decide
  have hresult :
      ("# head\na: 1\n# c\nb: 2\n" : Text) = Text.ofChars (noteAbove false).extended := by decide
  have hnotes : notes = Text.ofChars (blankBelow.after 0) := by decide
  rw [hnew] at hread
  refine ⟨hblank, hoff, hon, (hread (pairTree 1) ?_ ?_ ?_).2 ?_⟩
  . constructor
    all_goals decide +kernel
  . decide +kernel
  . rw [hresult]
    exact annotates_notes false
  . rw [hnotes]
    exact annotates_blank

/-- A literal at the end of a document loses its newline when comments are moved separately. -/
theorem comments_not_transparent
    : ¬ ∀ (settings : Settings) (s : Sorter) (text out : Text), make settings false = .ok s →
        (s.withComments false).formatDocument text = .ok out →
          ∃ out', (s.withComments true).formatDocument text = .ok out' ∧
            ∀ t t', Yaml.Tree.parse out = .ok (some t) → Yaml.Tree.parse out' = .ok (some t') →
              t.root.data = t'.root.data := by
  intro h
  have hoff : (({ settings := {} } : Sorter).withComments false).formatDocument "a: |\n  x\n" =
      .ok "a: |\n  x\n" := eq_ok_of_toOption (by decide +kernel)
  have hon : (({ settings := {} } : Sorter).withComments true).formatDocument "a: |\n  x\n" =
      .ok "a: |-\n  x\n" := eq_ok_of_toOption (by decide +kernel)
  obtain ⟨out', hout', hdata⟩ := h {} { settings := {} } _ _ rfl hoff
  rw [hon, Except.ok.injEq] at hout'
  subst hout'
  have hwith : Yaml.Tree.parse "a: |\n  x\n" = .ok (some
      { root := .mapping { tag := Yaml.Tag.map, line := 1, column := 1 } false
          [(.scalar { tag := Yaml.Tag.str, line := 1, column := 1 } "a" .plain,
            .scalar { tag := Yaml.Tag.str, line := 1, column := 4 } "x\n" .literal)] }) := by
    decide +kernel
  have hwithout : Yaml.Tree.parse "a: |-\n  x\n" = .ok (some
      { root := .mapping { tag := Yaml.Tag.map, line := 1, column := 1 } false
          [(.scalar { tag := Yaml.Tag.str, line := 1, column := 1 } "a" .plain,
            .scalar { tag := Yaml.Tag.str, line := 1, column := 4 } "x" .literal)] }) := by
    decide +kernel
  exact absurd (hdata _ _ hwith hwithout) (by decide +kernel)

end Sorter
end YamlOrder
