import YamlOrder.Proofs.Sorter.Pipeline

/-!
This module contains what can become of a document that is sorted: it gets a new text, or cannot be
read, or has keys that blank lines are wanted for and that are indented too deep. After validation,
only the removal of comments, which validation does not do, can make a document unreadable.
-/

namespace YamlOrder
namespace Tree

open Sorter (bind_eq_error)

variable {schema : Schema} {e : Error}

theorem exists_of_forM_eq_error {α ε : Type} {f : α → Except ε PUnit.{1}} {xs : List α} {e : ε}
    (h : xs.forM f = .error e) : ∃ x ∈ xs, f x = .error e := by
  induction xs with
  | nil => cases h
  | cons x xs ih =>
    rcases bind_eq_error.mp h with hx | ⟨_, -, hxs⟩
    . exact ⟨x, List.mem_cons_self, hx⟩
    . obtain ⟨y, hy, hye⟩ := ih hxs
      exact ⟨y, List.mem_cons_of_mem x hy, hye⟩

/-- Why a document cannot be read with a schema. -/
inductive Unreadable (schema : Schema) : Error → Prop where
  | invalidYaml (fault : Yaml.Fault) : Unreadable schema (.invalidYaml fault)
  | duplicateKey (key : Text) (line : Nat) : Unreadable schema (.duplicateKey key line)
  | unknownTag (tag : Text) (line : Nat) : Unreadable schema (.unknownTag tag line schema.name)

theorem Unreadable.cause_ne (h : Unreadable schema e) : e.cause ≠ .levelTooDeep := by
  cases h
  all_goals simp [Error.cause]

theorem unreadable_of_checkKeys {n : Yaml.Node} (h : checkKeys n = .error e)
    : Unreadable schema e := by
  unfold checkKeys at h
  split at h
  . split at h
    . cases h
      exact .duplicateKey _ _
    . cases h
  . cases h

theorem unreadable_of_checkTag {n : Yaml.Node} (h : checkTag schema n = .error e)
    : Unreadable schema e := by
  unfold checkTag at h
  split at h
  . cases h
    exact .unknownTag _ _
  . cases h

theorem unreadable_of_check {t : Yaml.Tree} (h : check schema t = .error e)
    : Unreadable schema e := by
  rcases bind_eq_error.mp h with hkeys | ⟨_, -, htags⟩
  . obtain ⟨n, -, hn⟩ := exists_of_forM_eq_error hkeys
    exact unreadable_of_checkKeys hn
  . obtain ⟨n, -, hn⟩ := exists_of_forM_eq_error htags
    exact unreadable_of_checkTag hn

theorem unreadable_of_parse {text : Text} (h : parse text schema = .error e)
    : Unreadable schema e := by
  rcases bind_eq_error.mp h with hread | ⟨t, -, h⟩
  . unfold read at hread
    cases hparse : Yaml.Tree.parse text with
    | error fault =>
      rw [hparse] at hread
      cases hread
      exact .invalidYaml fault
    | ok t =>
      rw [hparse] at hread
      cases hread
  . rcases bind_eq_error.mp h with hcheck | ⟨_, -, hpure⟩
    . cases t with
      | none => cases hcheck
      | some t => exact unreadable_of_check hcheck
    . cases hpure

end Tree

namespace Sorter

open YamlOrder.Tree (Unreadable)

variable {settings : Settings} {reverse : Bool} {s : Sorter} {text buffer : Text}
  {slot : Int} {e : Error}

theorem make_eq_ok (h : make settings reverse = .ok s)
    : s = { settings := settings.normalize, reverse } ∧ settings.normalize.validate = .ok () := by
  obtain ⟨_, hvalid, hpure⟩ := bind_eq_ok.mp h
  cases hpure
  exact ⟨rfl, hvalid⟩

theorem validate_eq_ok (h : settings.validate = .ok ())
    : 1 ≤ settings.indent ∧ 0 ≤ settings.emptyLinesUntilLevel ∧
      Schema.ofName settings.schema ∈ Schema.all := by
  unfold Settings.validate at h
  split at h
  . cases h
  . split at h
    . cases h
    . split at h
      . cases h
      . split at h
        . cases h
        . next hindent hlevels _ hschema =>
          refine ⟨by omega, by omega, ?_⟩
          have hname : ∃ schema ∈ Schema.all, schema.name == settings.schema := by
            simpa using hschema
          obtain ⟨schema, hfind⟩ := Option.isSome_iff_exists.mp (List.find?_isSome.mpr hname)
          rw [Schema.ofName, hfind]
          exact List.mem_of_find?_eq_some hfind

theorem not_blankLinesFit_iff
    : ¬ s.BlankLinesFit ↔
        Layout.maxKeyIndent <
          (s.settings.emptyLinesUntilLevel.toNat - 1) * Layout.effectiveIndent s.settings.indent :=
            by
  simp [BlankLinesFit, Layout.blankLinesFit]

theorem layout_eq_error_iff (order : Tree.Comparator × Tree.Comparator) (t : Yaml.Tree)
    : s.layout (some order) t = .error e ↔ e = .levelTooDeep ∧ ¬ s.BlankLinesFit := by
  by_cases hfit : s.BlankLinesFit
  . have hlayout : Succeeds (s.layout (some order) t) := succeeds_layout (fun _ => hfit) t
    obtain ⟨out, hout⟩ := hlayout
    simp [hout, hfit]
  . have hlevels : 0 < s.settings.emptyLinesUntilLevel := by
      refine Int.not_le.mp fun hnone => ?_
      have hzero : s.settings.emptyLinesUntilLevel.toNat = 0 := by omega
      simp [not_blankLinesFit_iff, hzero] at hfit
    have hnone : Layout.blankLinesFit s.settings.emptyLinesUntilLevel.toNat
        (Layout.effectiveIndent s.settings.indent) = false := Bool.eq_false_iff.mpr hfit
    simp [layout, hlevels, Layout.addBlankLines, hnone, hfit, eq_comm]

/-- A document has content: something is read of it that can be sorted. -/
def HasContent (s : Sorter) (text : Text) : Prop :=
  Text.isBlank text = false ∧ ∃ t, s.Reads text t

theorem rebuild_eq_error_iff (order : Tree.Comparator × Tree.Comparator) (p : Prepared)
    : s.rebuild (some order) p = .error e ↔
        Tree.parse p.content s.schema = .error e ∨
          (∃ t, Tree.parse p.content s.schema = .ok (some t)) ∧ e = .levelTooDeep ∧
          ¬ s.BlankLinesFit := by
  unfold rebuild
  rw [bind_eq_error]
  refine or_congr_right ?_
  constructor
  . rintro ⟨t, ht, herror⟩
    cases t with
    | none => cases herror
    | some t => exact ⟨⟨t, ht⟩, (layout_eq_error_iff order t).mp herror⟩
  . rintro ⟨⟨t, ht⟩, hdeep⟩
    exact ⟨some t, ht, (layout_eq_error_iff order t).mpr hdeep⟩

theorem prepare_of_indent (h : 1 ≤ s.settings.indent) (text : Text)
    : s.prepare text = .ok (s.prepared (Layout.expandTabs text s.settings.indent.toNat)) :=
  prepare_eq (if_neg (by omega))

theorem sortDocument_eq_error_iff (hindent : 1 ≤ s.settings.indent) (hlow : 0 ≤ slot)
    (hhigh : slot ≤ 3)
    : s.sortDocument text slot = .error e ↔
        (Text.isBlank text = false ∧ ∃ p, s.prepare text = .ok p ∧
          Tree.parse p.content s.schema = .error e) ∨
          s.HasContent text ∧ e = .levelTooDeep ∧ ¬ s.BlankLinesFit := by
  rw [sortDocument_eq hlow hhigh, HasContent]
  have hp := prepare_of_indent hindent text
  cases hblank : Text.isBlank text with
  | true => simp [transform, hblank, pure, Except.pure]
  | false =>
    rw [transform_eq _ hblank hp, map_eq_error, rebuild_eq_error_iff]
    simp [Reads, hp]

theorem shield_pair (helm arrays octal : Bool)
    : ((Shield.ofFlags helm arrays octal).shield "a: 1\n").2 = "a: 1\n" := by
  revert helm arrays octal
  decide +kernel

theorem expandTabs_pair (width : Nat) : Layout.expandTabs "a: 1\n" width = "a: 1\n" := rfl

theorem exists_ok_some {α ε : Type} {x : Except ε (Option α)} (h : x.toOption.join.isSome = true)
    : ∃ a, x = .ok (some a) := by
  obtain ⟨a, ha⟩ := Option.isSome_iff_exists.mp h
  exact ⟨a, eq_ok_of_toOption (Option.join_eq_some_iff.mp ha)⟩

theorem parse_pair {schema : Schema} (h : schema ∈ Schema.all) (comments : Bool)
    : ∃ t, Tree.parse (if comments then Comment.strip (Comment.linesOf "a: 1\n")
        else "a: 1\n") schema
        = .ok (some t) := by
  refine exists_ok_some ?_
  revert schema comments
  decide +kernel

theorem hasContent_pair (h : make settings reverse = .ok s) : s.HasContent "a: 1\n" := by
  obtain ⟨rfl, hvalid⟩ := make_eq_ok h
  obtain ⟨hindent, -, hschema⟩ := validate_eq_ok hvalid
  obtain ⟨t, ht⟩ := parse_pair hschema settings.comments
  refine ⟨by decide, t, _, prepare_of_indent hindent _, ?_⟩
  rw [expandTabs_pair]
  unfold prepared
  dsimp only [shield]
  rw [shield_pair]
  exact ht

/--
A document that is sorted gets a new text, or it cannot be read, or the blank lines that are wanted
reach too deep. The last happens to every document with content, and exactly with the settings that
ask for keys of more than 1000 columns of indentation.
-/
theorem sortDocument_outcome (h : make settings reverse = .ok s) (hlow : 0 ≤ slot)
    (hhigh : slot ≤ 3)
    : (∀ text, Succeeds (s.sortDocument text slot) ∨
        (∃ e, s.sortDocument text slot = .error e ∧ Unreadable s.schema e) ∨
        s.sortDocument text slot = .error .levelTooDeep) ∧
      (∀ text, s.sortDocument text slot = .error .levelTooDeep ↔ s.HasContent text ∧
        1000 < (settings.emptyLinesUntilLevel.toNat - 1) * Layout.effectiveIndent settings.indent) ∧
      ((∃ text, s.sortDocument text slot = .error .levelTooDeep) ↔
        1000 <
          (settings.emptyLinesUntilLevel.toNat - 1) * Layout.effectiveIndent settings.indent) := by
  obtain ⟨hs, hvalid⟩ := make_eq_ok h
  obtain ⟨hindent, -, hschema⟩ := validate_eq_ok hvalid
  have herror : ∀ {text e}, s.sortDocument text slot = .error e ↔ _ := fun {text e} =>
    sortDocument_eq_error_iff (s := s) (by rw [hs]; exact hindent) hlow hhigh
  have hdeep : ∀ text, s.sortDocument text slot = .error .levelTooDeep ↔ s.HasContent text ∧
      1000 < (settings.emptyLinesUntilLevel.toNat - 1) * Layout.effectiveIndent
      settings.indent := by
    intro text
    have hfit : ¬ s.BlankLinesFit ↔
        1000 < (settings.emptyLinesUntilLevel.toNat - 1) * Layout.effectiveIndent
        settings.indent := by
      rw [not_blankLinesFit_iff, hs]
      rfl
    rw [herror, hfit, eq_self, true_and, or_iff_right]
    rintro ⟨-, p, -, hp⟩
    cases Tree.unreadable_of_parse hp
  refine ⟨?_, hdeep, ?_⟩
  . intro text
    cases hsort : s.sortDocument text slot with
    | ok out => exact .inl (succeeds_ok out)
    | error e =>
      rcases herror.mp hsort with ⟨-, p, -, hp⟩ | ⟨-, rfl, -⟩
      . exact .inr (.inl ⟨e, rfl, Tree.unreadable_of_parse hp⟩)
      . exact .inr (.inr rfl)
  . constructor
    . rintro ⟨text, htext⟩
      exact ((hdeep text).mp htext).2
    . intro hlevels
      exact ⟨"a: 1\n", (hdeep _).mpr ⟨hasContent_pair h, hlevels⟩⟩

/--
Keys of 501 levels of two columns are too deep, and no document with content can be sorted with
them.
-/
theorem sortDocument_outcome_deep
    : make { emptyLinesUntilLevel := 502 } false =
      .ok { settings := { emptyLinesUntilLevel := 502 } } ∧
      ∃ text, ({ settings := { emptyLinesUntilLevel := 502 } } : Sorter).sortDocument text 0
        = .error .levelTooDeep := by
  have hmake : make { emptyLinesUntilLevel := 502 } false
      = .ok { settings := { emptyLinesUntilLevel := 502 } } := rfl
  have hlow : (0 : Int) ≤ 0 := by decide
  obtain ⟨-, -, hreach⟩ := sortDocument_outcome hmake hlow (by decide)
  exact ⟨hmake, hreach.mpr (by decide)⟩

/--
The check of the settings has no upper bound for the levels, so a sort can halt with settings that
passed it.
-/
theorem sortDocument_halts
    : ¬ ∀ (settings : Settings) (reverse : Bool) (s : Sorter) (slot : Int) (text : Text),
        make settings reverse = .ok s → 0 ≤ slot → slot ≤ 3 →
        s.sortDocument text slot ≠ .error .levelTooDeep := by
  intro h
  have hmake : make { emptyLinesUntilLevel := 502 } false
      = .ok { settings := { emptyLinesUntilLevel := 502 } } := rfl
  refine h _ _ _ 0 "a: 1\n" hmake (by decide) (by decide) ?_
  rw [sortDocument_eq_error_iff (by decide) (by decide) (by decide)]
  exact .inr ⟨hasContent_pair hmake, rfl, by decide⟩

theorem exists_of_eachDocument_eq_error {f : Text → Except Error Text} {buffer : Text}
    (h : eachDocument buffer f = .error e)
    : ∃ d ∈ Document.split buffer, ∃ e', f d.text = .error e' ∧ e.cause = e'.cause := by
  have hgo : ∀ (docs : List Document) (n : Nat),
    mapDocuments.go f (Document.split buffer) n docs = .error e →
      ∃ d ∈ docs, ∃ e', f d.text = .error e' ∧ e.cause = e'.cause := by
    intro docs
    induction docs with
    | nil =>
      intro n hn
      cases hn
    | cons d docs ih =>
      intro n hn
      rw [mapDocuments.go] at hn
      cases hd : f d.text with
      | error e' =>
        rw [hd] at hn
        refine ⟨d, List.mem_cons_self, e', hd, ?_⟩
        rw [← Except.error.inj hn]
        split
        all_goals rfl
      | ok text =>
        rw [hd] at hn
        rcases bind_eq_error.mp hn with hrest | ⟨_, -, hpure⟩
        . obtain ⟨d', hd', hfault⟩ := ih (n + 1) hrest
          exact ⟨d', List.mem_cons_of_mem d hd', hfault⟩
        . cases hpure
  rcases bind_eq_error.mp h with hdocs | ⟨_, -, hpure⟩
  . exact hgo _ 1 hdocs
  . cases hpure

theorem cause_ne_of_transform {sorting : Sorting} (hfit : sorting.isSome = true → s.BlankLinesFit)
    (h : s.transform sorting text = .error e) : e.cause ≠ .levelTooDeep := by
  unfold transform at h
  split at h
  . cases h
  . rcases bind_eq_error.mp h with hprepare | ⟨p, -, h⟩
    . rcases bind_eq_error.mp hprepare with htabs | ⟨_, -, hpure⟩
      . unfold expandTabs at htabs
        split at htabs
        . cases htabs
          simp [Error.cause]
        . cases htabs
      . cases hpure
    . rcases bind_eq_error.mp h with hrebuild | ⟨_, -, hpure⟩
      . rcases bind_eq_error.mp hrebuild with hparse | ⟨t, -, hlayout⟩
        . exact (Tree.unreadable_of_parse hparse).cause_ne
        . cases t with
          | none => cases hlayout
          | some t =>
            have herror : s.layout sorting t = .error e := hlayout
            obtain ⟨out, hout⟩ := succeeds_layout hfit t
            rw [hout] at herror
            cases herror
      . cases hpure

theorem cause_ne_of_eachDocument {f : Text → Except Error Text} {g : Text → Text} {a : Activity}
    {buffer : Text} (hf : ∀ text e, f text = .error e → e.cause ≠ .levelTooDeep)
    (h : ((eachDocument buffer f).map g).mapError (.during a) = .error e)
    : e.cause ≠ .levelTooDeep := by
  cases hdocs : eachDocument buffer f with
  | ok out =>
    rw [hdocs] at h
    cases h
  | error e' =>
    rw [hdocs] at h
    cases h
    obtain ⟨d, -, fault, hfault, hcause⟩ := exists_of_eachDocument_eq_error hdocs
    rw [Error.cause, hcause]
    exact hf d.text fault hfault

theorem cause_ne_of_format {buffer : Text} (h : s.format buffer = .error e)
    : e.cause ≠ .levelTooDeep :=
  cause_ne_of_eachDocument (fun _ _ => cause_ne_of_transform (by simp)) h

theorem parse_of_parseStrict {schema : Schema} {t : Option Yaml.Tree}
    (h : Tree.parseStrict text schema = .ok t) : Tree.parse text schema = .ok t := by
  unfold Tree.parseStrict at h
  split at h
  . exact h
  . simp [throw, throwThe, MonadExceptOf.throw, bind, Except.bind] at h

theorem readable_of_validateDocument (hblank : Text.isBlank text = false)
    (h : Succeeds (s.validateDocument text)) : (s.withComments false).Readable text := by
  unfold validateDocument at h
  rw [hblank] at h
  simp only [Bool.false_eq_true, if_false, succeeds_bind] at h
  obtain ⟨expanded, hexpanded, t, ht, -⟩ := h
  exact ⟨_, prepare_eq (s := s.withComments false) hexpanded, t, parse_of_parseStrict ht⟩

theorem readable_of_validate (h : s.validate buffer = .ok ())
    : ∀ d ∈ Document.split buffer, Text.isBlank d.text = false →
      (s.withComments false).Readable d.text := by
  have hvalid : Succeeds (s.validate buffer) := ⟨(), h⟩
  rw [validate, succeeds_mapError, succeeds_map, succeeds_eachDocument] at hvalid
  intro d hd hblank
  have := hvalid d hd
  rw [succeeds_map] at this
  exact readable_of_validateDocument hblank this

/--
After validation, a buffer is formatted and sorted by each of the four orders exactly if its
documents can still be read when their comments are taken out, so always if comments are left to the
reader.
-/
theorem validate_predicts_iff (h : s.validate buffer = .ok ()) (hfit : s.BlankLinesFit)
    : (∀ d ∈ Document.split buffer, Text.isBlank d.text = false →
        (s.withComments false).Readable d.text) ∧
      (Succeeds (s.format buffer) ↔
        (s.settings.comments = true →
          ∀ d ∈ Document.split buffer, Text.isBlank d.text = false →
            (s.withComments true).Readable d.text)) ∧
      ∀ slot, 0 ≤ slot → slot ≤ 3 →
        (Succeeds (s.sort buffer slot) ↔
          (s.settings.comments = true →
            ∀ d ∈ Document.split buffer, Text.isBlank d.text = false →
              (s.withComments true).Readable d.text)) := by
  have hreadable := readable_of_validate h
  have hcomments : (∀ d ∈ Document.split buffer, Text.isBlank d.text = false → s.Readable d.text) ↔
      (s.settings.comments = true →
        ∀ d ∈ Document.split buffer, Text.isBlank d.text = false →
        (s.withComments true).Readable d.text) := by
    cases hon : s.settings.comments with
    | true => simp [withComments_of_eq hon]
    | false =>
      rw [withComments_of_eq hon] at hreadable
      simpa using hreadable
  refine ⟨hreadable, ?_, ?_⟩
  . rw [succeeds_format, hcomments]
  . intro slot hlow hhigh
    rw [succeeds_sort hfit ⟨hlow, hhigh⟩, hcomments]

/-- An indented document can be formatted and sorted if its comments are left to the reader. -/
theorem validate_predicts_indented
    : ({ settings := { comments := false } } : Sorter).validate "  a: 1\n  b: 2\n" = .ok () ∧
      Succeeds (({ settings := { comments := false } } : Sorter).format "  a: 1\n  b: 2\n") ∧
      ∀ slot, 0 ≤ slot → slot ≤ 3 →
        Succeeds (({ settings := { comments := false } } : Sorter).sort "  a: 1\n  b: 2\n" slot) :=
          by
  have hvalid : ({ settings := { comments := false } } : Sorter).validate
    "  a: 1\n  b: 2\n" = .ok () :=
    eq_ok_of_toOption (by decide +kernel)
  obtain ⟨-, hformat, hsort⟩ := validate_predicts_iff hvalid (by decide)
  refine ⟨hvalid, hformat.mpr (by simp), ?_⟩
  intro slot hlow hhigh
  exact (hsort slot hlow hhigh).mpr (by simp)

/--
When comments are moved separately, the document loses the white space around it first, so only its
first line loses its indentation.
-/
theorem validate_not_predicts
    : ¬ ∀ (settings : Settings) (s : Sorter) (text : Text), make settings false = .ok s →
      s.BlankLinesFit →
        s.validate text = .ok () →
          Succeeds (s.format text) ∧ ∀ slot, 0 ≤ slot → slot ≤ 3 → Succeeds (s.sort text slot) := by
  intro h
  have hvalid : ({ settings := {} } : Sorter).validate "  a: 1\n  b: 2\n" = .ok () :=
    eq_ok_of_toOption (by decide +kernel)
  have hfails : (({ settings := {} } : Sorter).format "  a: 1\n  b: 2\n").toOption = none := by
    decide +kernel
  obtain ⟨⟨out, hout⟩, -⟩ := h {} { settings := {} } _ rfl (by decide) hvalid
  rw [hout] at hfails
  simp [Except.toOption] at hfails

end Sorter
end YamlOrder
