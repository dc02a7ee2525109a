import YamlOrder.Proofs.Layout.BlankLine
import YamlOrder.Proofs.Sorter.Pipeline
import YamlOrder.Proofs.Spacing.Fetch
import YamlOrder.Proofs.Spacing.Source
import YamlOrder.Proofs.Spacing.Tree
import YamlOrder.Proofs.Tree.Parsed

/-!
This module contains what blank lines before keys do to the meaning of a document: they change the
spaces and line breaks of scalars at most, and nothing at all unless a line within a scalar looks
like a key.
-/

namespace YamlOrder
namespace Layout

open Text (ofChars toChars)
open Yaml (Spacing isAllowed isBreak isByteOrderMark undirected spread)

variable {indent levels : Nat} {cs : List Char} {i : Nat}

/--
Whether the character at an index is a line break before a key that is nested less than `levels`
deep.
-/
def endsBeforeKey (indent levels : Nat) (cs : List Char) (i : Nat) : Bool :=
  cs[i]? == some '\n' && startsKeyBelow indent levels (ofChars (cs.drop (i + 1)))

theorem insertBlank_utf8EncodeChar {P : Text → Bool} {c : Char} (hc : c ≠ '\n') (t : Text)
    : insertBlank P (String.utf8EncodeChar c ++ t) = String.utf8EncodeChar c ++
      insertBlank P t := by
  refine insertBlank_append ?_ t
  intro hmem
  exact hc (Text.eq_of_mem_utf8EncodeChar (by decide) hmem).2

theorem insertBlank_ofChars_drop (indent levels : Nat) (cs : List Char) (i : Nat)
    : insertBlank (startsKeyBelow indent levels) (ofChars (cs.drop i)) =
        ofChars (spread (endsBeforeKey indent levels cs) i (cs.drop i)) := by
  induction hn : cs.length - i generalizing i with
  | zero =>
    rw [List.drop_eq_nil_of_le (by omega)]
    rfl
  | succ n ih =>
    have hi : i < cs.length := by omega
    have ih := ih (i + 1) (by omega)
    rw [List.drop_eq_getElem_cons hi, spread, Text.ofChars_cons]
    by_cases hc : cs[i] = '\n'
    . have hbytes : String.utf8EncodeChar '\n' = [Text.newline] := by decide
      have hends : endsBeforeKey indent levels cs i =
        startsKeyBelow indent levels (ofChars (cs.drop (i + 1))) := by
        simp [endsBeforeKey, hi, hc]
      rw [hc, hbytes, List.singleton_append, insertBlank, ih, hends]
      simp only [beq_self_eq_true, Bool.true_and]
      split
      . rw [Text.ofChars_cons, Text.ofChars_cons, hbytes]
        rfl
      . rw [Text.ofChars_cons, hbytes]
        rfl
    . have hends : endsBeforeKey indent levels cs i = false := by
        simp [endsBeforeKey, hi, hc]
      rw [insertBlank_utf8EncodeChar hc, ih, hends, if_neg (by simp), Text.ofChars_cons]

theorem exists_of_ofChars_eq {n : Nat} {b : UInt8} {u : Text} (hb : isBlankByte b = false)
    (hnumber : b ≠ 35) (h : ofChars cs = Text.spaces n ++ b :: u)
    : ∃ c rest, cs = List.replicate n ' ' ++ c :: rest ∧ c ∉ [' ', '\t', '\n', '\r', '#'] := by
  induction n generalizing cs with
  | zero =>
    cases cs with
    | nil => cases h
    | cons c cs =>
      refine ⟨c, cs, rfl, ?_⟩
      intro hc
      rw [Text.ofChars_cons] at h
      simp only [List.mem_cons, List.not_mem_nil, or_false] at hc
      obtain rfl | rfl | rfl | rfl | rfl := hc
      all_goals
        obtain ⟨rfl, -⟩ := List.cons.inj h
        first
          | exact absurd rfl hnumber
          | exact absurd hb (by decide)
  | succ n ih =>
    cases cs with
    | nil => cases h
    | cons c cs =>
      obtain ⟨b', k, hencode, -⟩ := Yaml.Source.exists_lead c
      have hspace : b' = Text.space := by
        rw [Text.ofChars_cons, hencode] at h
        exact (List.cons.inj h).1
      have hmem : Text.space ∈ String.utf8EncodeChar c := by
        rw [hencode, hspace]
        exact List.mem_cons_self
      obtain ⟨hbytes, rfl⟩ := Text.eq_of_mem_utf8EncodeChar (by decide) hmem
      rw [Text.ofChars_cons, hbytes] at h
      obtain ⟨d, rest, rfl, hd⟩ := ih (List.cons.inj h).2
      exact ⟨d, rest, rfl, hd⟩

/-- The lines that are added to a text. -/
def blankLines (indent levels : Nat) (cs : List Char) : Spacing where
  chars := cs
  doubled := endsBeforeKey indent levels cs
  newline := by
    intro i hi
    rw [endsBeforeKey, Bool.and_eq_true, beq_iff_eq] at hi
    exact hi.1
  opens := by
    intro i hi
    rw [endsBeforeKey, Bool.and_eq_true, startsKeyBelow, List.any_eq_true] at hi
    obtain ⟨-, level, -, hkey⟩ := hi
    obtain ⟨b, u, hbytes, hb, hnumber⟩ := exists_of_startsKey hkey
    exact ⟨level * indent, exists_of_ofChars_eq hb hnumber hbytes⟩

/--
What a text has to be for lines to be added without a change: valid, without a mark and directives.
-/
structure Readable (text : Text) : Prop where
  utf8 : Text.isUtf8 text = true
  allowed : (toChars text).all (fun c => isAllowed c.toNat) = true
  unmarked : (toChars text).head?.any isByteOrderMark = false
  undirected : undirected true (toChars text) = true

/-- Whether no line is added within a scalar, where it would have a part in the value. -/
def SparesScalars (indent levels : Nat) (text : Text) : Prop :=
  ∀ i ∈ (Yaml.TokenStream.ofSource (Yaml.Source.ofText text)).items,
    (blankLines indent levels (toChars text)).Spares i.token

theorem mem_spread {doubled : Nat → Bool} {c : Char} (h : c ∈ spread doubled i cs)
    : c ∈ cs ∨ c = '\n' := by
  induction cs generalizing i with
  | nil => cases h
  | cons d cs ih =>
    rw [spread] at h
    split at h
    . rw [List.mem_cons, List.mem_cons] at h
      obtain rfl | rfl | h := h
      . exact .inl List.mem_cons_self
      . exact .inr rfl
      . exact (ih h).imp_left (List.mem_cons_of_mem d)
    . rw [List.mem_cons] at h
      obtain rfl | h := h
      . exact .inl List.mem_cons_self
      . exact (ih h).imp_left (List.mem_cons_of_mem d)

theorem undirected_spread {doubled : Nat → Bool} {start : Bool}
    (h : ∀ j, doubled (i + j) = true → cs[j]? = some '\n')
    : undirected start (spread doubled i cs) = undirected start cs := by
  induction cs generalizing i start with
  | nil => rfl
  | cons ch cs ih =>
    have htail : undirected (isBreak ch) (spread doubled (i + 1) cs) = undirected (isBreak ch) cs :=
      ih fun j hj => h (j + 1) (by rwa [Nat.add_right_comm] at hj)
    rw [spread]
    split
    . next hdoubled =>
      obtain rfl : ch = '\n' := by simpa using h 0 hdoubled
      rw [undirected, undirected, undirected, htail]
      simp [isBreak]
    . rw [undirected, undirected, htail]

theorem readable_ofChars
    : Readable (ofChars cs) ↔ (∀ c ∈ cs, isAllowed c.toNat = true) ∧
        cs.head?.any isByteOrderMark = false ∧ undirected true cs = true := by
  constructor
  . rintro ⟨-, hallowed, hmark, hfree⟩
    rw [Text.toChars_ofChars] at hallowed hmark hfree
    exact ⟨List.all_eq_true.mp hallowed, hmark, hfree⟩
  . rintro ⟨hallowed, hmark, hfree⟩
    refine ⟨Text.isUtf8_ofChars cs, ?_, ?_, ?_⟩
    . rwa [Text.toChars_ofChars, List.all_eq_true]
    . rwa [Text.toChars_ofChars]
    . rwa [Text.toChars_ofChars]

theorem readable_after (p : Spacing) (htext : Readable (ofChars p.chars))
    : Readable (ofChars (p.after 0)) := by
  obtain ⟨hallowed, hmark, hfree⟩ := readable_ofChars.mp htext
  have hhead := p.head?_after 0
  rw [List.drop_zero] at hhead
  refine readable_ofChars.mpr ⟨fun c hc => ?_, by rwa [hhead], ?_⟩
  . obtain hc | rfl := mem_spread hc
    . exact hallowed c hc
    . decide
  . rw [Spacing.after, List.drop_zero, undirected_spread fun j hj => ?_]
    . exact hfree
    . rw [Nat.zero_add] at hj
      exact p.newline j hj

theorem toChars_ne_nil {text : Text} {t : Yaml.Tree} (htext : Readable text)
    (ht : Yaml.Tree.parse text = .ok (some t))
    : toChars text ≠ [] := by
  intro hempty
  have hbytes : text = [] := by rw [← Text.ofChars_toChars htext.utf8, hempty, Text.ofChars_nil]
  have hnone : Yaml.Tree.parse [] = .ok none := by decide +kernel
  rw [hbytes, hnone] at ht
  cases ht

theorem exists_twin {text : Text} {q : Prop} {t : Yaml.Tree} (htext : Readable text)
    (hallowed : ∀ c ∈ cs, isAllowed c.toNat = true) (hne : cs ≠ [])
    (hunmarked : cs.head?.any isByteOrderMark = false)
    (hleads : ∀ front front', Yaml.Source.ofText text =
      { chars := toChars text, fault := none, front } →
      Yaml.Leads q (Yaml.TokenStream.ofSource { chars := toChars text, fault := none, front }).items
        (Yaml.TokenStream.ofSource { chars := cs, fault := none, front := front' }).items)
    (ht : Yaml.Tree.parse text = .ok (some t))
    : ∃ t', Yaml.Tree.parse (ofChars cs) = .ok (some t') ∧ Yaml.Node.Twin q t.root t'.root := by
  obtain ⟨front, hsource⟩ := Yaml.Source.exists_ofText (List.all_eq_true.mp htext.allowed)
    (toChars_ne_nil htext ht)
    htext.unmarked
  obtain ⟨front', hsource'⟩ := Yaml.Source.exists_ofText hallowed hne hunmarked
  rw [Text.ofChars_toChars htext.utf8] at hsource
  have hleads := hleads front front' hsource
  rw [← hsource, ← hsource'] at hleads
  obtain ⟨b, -, -, hfault, -⟩ := Yaml.exists_builder_of_ofEvents ht
  obtain ⟨hfault', hevents⟩ := Yaml.ofTokens_keeps hleads hfault
  exact Yaml.ofEvents_twin hfault' hevents ht

theorem exists_check_of_parse {text : Text} {schema : Schema} {t : Yaml.Tree}
    (ht : Tree.parse text schema = .ok (some t))
    : Yaml.Tree.parse text = .ok (some t) ∧ Tree.check schema t = .ok () := by
  obtain ⟨read, hread, hrest⟩ := Sorter.bind_eq_ok.mp ht
  obtain ⟨_, hcheck, hpure⟩ := Sorter.bind_eq_ok.mp hrest
  cases hpure
  exact ⟨Sorter.mapError_eq_ok_iff.mp hread, hcheck⟩

/-- A tree that is the same but for its comments and positions can be used with the same schema. -/
theorem parse_of_bare {text out : Text} {schema : Schema} {t t' : Yaml.Tree}
    (ht : Tree.parse text schema = .ok (some t)) (ht' : Yaml.Tree.parse out = .ok (some t'))
    (hbare : t'.root.bare = t.root.bare) : Tree.parse out schema = .ok (some t') := by
  have hcheck := Tree.check_eq_ok_of_bare hbare (exists_check_of_parse ht).2
  exact Sorter.bind_eq_ok.mpr ⟨some t', Sorter.mapError_eq_ok_iff.mpr ht',
    Sorter.bind_eq_ok.mpr ⟨(), hcheck, rfl⟩⟩

theorem exists_parse_of_twin {text out : Text} {schema : Schema} {q : Prop} {t : Yaml.Tree}
    (htwin : ∀ t, Yaml.Tree.parse text = .ok (some t) →
      ∃ t', Yaml.Tree.parse out = .ok (some t') ∧ Yaml.Node.Twin q t.root t'.root)
    (ht : Tree.parse text schema = .ok (some t))
    : ∃ t', Yaml.Tree.parse out = .ok (some t') ∧ t'.root.skeleton = t.root.skeleton ∧
        (q → Tree.parse out schema = .ok (some t') ∧ t'.root.bare = t.root.bare) := by
  obtain ⟨t', ht', htwin⟩ := htwin t (exists_check_of_parse ht).1
  exact ⟨t', ht', htwin.skeleton, fun hq => ⟨parse_of_bare ht ht' (htwin.bare hq), htwin.bare hq⟩⟩

/-- Blank lines that are added to a stream leave its tree as it is, up to spaces within scalars. -/
theorem exists_twin_after (p : Spacing) {t : Yaml.Tree} (htext : Readable (ofChars p.chars))
    (ht : Yaml.Tree.parse (ofChars p.chars) = .ok (some t))
    : ∃ t', Yaml.Tree.parse (ofChars (p.after 0)) = .ok (some t') ∧
        Yaml.Node.Twin
          (∀ i ∈ (Yaml.TokenStream.ofSource (Yaml.Source.ofText (ofChars p.chars))).items,
            p.Spares i.token) t.root t'.root := by
  obtain ⟨-, hmark, hfree⟩ := readable_ofChars.mp htext
  obtain ⟨hallowed', hmark', -⟩ := readable_ofChars.mp (readable_after p htext)
  have hne : p.after 0 ≠ [] := by
    have hne := toChars_ne_nil htext ht
    have hhead := p.head?_after 0
    rw [List.drop_zero] at hhead
    rwa [Text.toChars_ofChars, ne_eq, ← List.head?_eq_none_iff, ← hhead,
      List.head?_eq_none_iff] at hne
  refine exists_twin htext hallowed' hne hmark' (fun front front' hsource => ?_) ht
  rw [Text.toChars_ofChars] at hsource ⊢
  refine (p.ofSource_twin front front' hfree hmark).leads fun hspares => ?_
  rwa [hsource] at hspares

theorem addBlankLines_twin {text out : Text} {t : Yaml.Tree} (hindent : 0 < indent)
    (h : addBlankLines text levels indent = some out) (htext : Readable text)
    (ht : Yaml.Tree.parse text = .ok (some t))
    : ∃ t', Yaml.Tree.parse out = .ok (some t') ∧
      Yaml.Node.Twin (SparesScalars indent levels text) t.root t'.root := by
  let p := blankLines indent levels (toChars text)
  have hchars : ofChars p.chars = text := Text.ofChars_toChars htext.utf8
  have hout : out = ofChars (p.after 0) := by
    have := insertBlank_ofChars_drop indent levels (toChars text) 0
    rw [List.drop_zero, Text.ofChars_toChars htext.utf8] at this
    rw [addBlankLines_eq hindent h, this]
    rfl
  have htwin := exists_twin_after p (hchars.symm ▸ htext) (hchars.symm ▸ ht)
  rwa [hchars, ← hout] at htwin

/--
Blank lines before keys leave the tree of a document as it is, but for the spaces and line breaks of
scalars within which a line is added, and the tags that plain ones of these get from their values.
-/
theorem addBlankLines_keeps_tree {text out : Text} {schema : Schema} {t : Yaml.Tree}
    (hindent : 0 < indent) (h : addBlankLines text levels indent = some out) (htext : Readable text)
    (ht : Tree.parse text schema = .ok (some t))
    : ∃ t', Yaml.Tree.parse out = .ok (some t') ∧ t'.root.skeleton = t.root.skeleton ∧
        (SparesScalars indent levels text →
          Tree.parse out schema = .ok (some t') ∧ t'.root.bare = t.root.bare) :=
  exists_parse_of_twin (fun _ => addBlankLines_twin hindent h htext) ht

/-- A scalar on two lines of which the second one is no key. -/
theorem addBlankLines_keeps_tree_quoted
    : 0 < 2 ∧ addBlankLines "a:\n  b: 'x\n    y'\nc: 1\n" 2 2 =
      some ("a:\n\n  b: 'x\n    y'\n\nc: 1\n" : Text) ∧
      Readable "a:\n  b: 'x\n    y'\nc: 1\n" ∧ SparesScalars 2 2 "a:\n  b: 'x\n    y'\nc: 1\n" ∧
      ∃ t t', Tree.parse "a:\n  b: 'x\n    y'\nc: 1\n" .default = .ok (some t) ∧
        Tree.parse "a:\n\n  b: 'x\n    y'\n\nc: 1\n" .default = .ok
        (some t') ∧ t'.root.bare = t.root.bare := by
  have hout : addBlankLines "a:\n  b: 'x\n    y'\nc: 1\n" 2 2 =
    some ("a:\n\n  b: 'x\n    y'\n\nc: 1\n" : Text) := by
    decide +kernel
  have htext : Readable "a:\n  b: 'x\n    y'\nc: 1\n" := by
    constructor
    all_goals decide +kernel
  have hspares : SparesScalars 2 2 "a:\n  b: 'x\n    y'\nc: 1\n" := by
    unfold SparesScalars
    decide +kernel
  have hread : Tree.parse "a:\n  b: 'x\n    y'\nc: 1\n" .default = .ok (some
      { root := .mapping { tag := Yaml.Tag.map, line := 1, column := 1 } false
          [(.scalar { tag := Yaml.Tag.str, line := 1, column := 1 } "a" .plain,
            .mapping { tag := Yaml.Tag.map, line := 2, column := 3 } false
              [(.scalar { tag := Yaml.Tag.str, line := 2, column := 3 } "b" .plain,
                .scalar { tag := Yaml.Tag.str, line := 2, column := 6 } "x y" .singleQuoted)]),
            (.scalar { tag := Yaml.Tag.str, line := 4, column := 1 } "c" .plain,
              .scalar { tag := Yaml.Tag.int, line := 4, column := 4 } "1" .plain)] }) :=
    Sorter.eq_ok_of_toOption (by decide +kernel)
  obtain ⟨t', -, -, hkeeps⟩ := addBlankLines_keeps_tree (by decide) hout htext hread
  obtain ⟨hread', hbare⟩ := hkeeps hspares
  exact ⟨by decide, hout, htext, hspares, _, t', hread, hread', hbare⟩

/-- Lines of a literal that look like keys get blank lines too, which are then part of its value. -/
theorem addBlankLines_changes_literal
    : ¬ ∀ (schema : Schema) (source out : Text) (t : Yaml.Tree) (indent : Int) (levels : Nat),
        Tree.parse source schema = .ok (some t) → 1 ≤ indent →
        addBlankLines (t.render (effectiveIndent indent)) levels
        (effectiveIndent indent) = some out →
          ∃ read read', Tree.parse (t.render (effectiveIndent indent)) schema = .ok (some read) ∧
            Tree.parse out schema = .ok (some read') ∧ read'.root.data = read.root.data := by
  intro h
  have hread : Tree.parse "a: |\n  b: 1\n  c: 2\n" .default = .ok (some
      { root := .mapping { tag := Yaml.Tag.map, line := 1, column := 1 } false
          [(.scalar { tag := Yaml.Tag.str, line := 1, column := 1 } "a" .plain,
            .scalar { tag := Yaml.Tag.str, line := 1, column := 4 } "b: 1\nc: 2\n" .literal)] }) :=
    Sorter.eq_ok_of_toOption (by decide +kernel)
  have hread' : Tree.parse "a: |\n\n  b: 1\n\n  c: 2\n" .default = .ok (some
      { root := .mapping { tag := Yaml.Tag.map, line := 1, column := 1 } false
          [(.scalar { tag := Yaml.Tag.str, line := 1, column := 1 } "a" .plain,
            .scalar { tag := Yaml.Tag.str, line := 1, column := 4 } "\nb: 1\n\nc: 2\n"
            .literal)] }) :=
    Sorter.eq_ok_of_toOption (by decide +kernel)
  have hrender : Yaml.Tree.render
      { root := .mapping { tag := Yaml.Tag.map, line := 1, column := 1 } false
          [(.scalar { tag := Yaml.Tag.str, line := 1, column := 1 } "a" .plain,
            .scalar { tag := Yaml.Tag.str, line := 1, column := 4 } "b: 1\nc: 2\n" .literal)] }
      (effectiveIndent 2) = "a: |\n  b: 1\n  c: 2\n" := by
    decide +kernel
  have hout : addBlankLines "a: |\n  b: 1\n  c: 2\n" 2 (effectiveIndent 2) =
      some ("a: |\n\n  b: 1\n\n  c: 2\n" : Text) := by
    decide +kernel
  obtain ⟨read, read', ht, ht', hdata⟩ :=
    h .default _ _ _ 2 2 hread (by decide) (hrender.symm ▸ hout)
  rw [hrender, hread, Except.ok.injEq, Option.some.injEq] at ht
  rw [hread', Except.ok.injEq, Option.some.injEq] at ht'
  subst ht ht'
  exact absurd hdata (by decide +kernel)

end Layout
end YamlOrder
