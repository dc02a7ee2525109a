import YamlOrder.Sorter

/-!
This module contains when a sorter has an answer: a buffer is formatted or sorted if each of its
documents is, and a document is if what remains of it without its comments can be read.
-/

namespace YamlOrder
namespace Sorter

variable {α β ε ε' : Type} {s : Sorter} {sorting : Sorting} {text buffer : Text} {slot : Int}

/-- A computation has an answer. -/
def Succeeds (x : Except ε α) : Prop := ∃ a, x = .ok a

@[simp]
theorem succeeds_ok (a : α) : Succeeds (.ok a : Except ε α) := ⟨a, rfl⟩

@[simp]
theorem not_succeeds_error (e : ε) : ¬ Succeeds (.error e : Except ε α) := by
  rintro ⟨a, ha⟩
  cases ha

theorem eq_ok_of_toOption {ε α : Type} {x : Except ε α} {a : α} (h : x.toOption = some a)
    : x = .ok a := by
  cases x with
  | error e => simp [Except.toOption] at h
  | ok b => simpa [Except.toOption] using h

@[simp]
theorem succeeds_map (f : α → β) (x : Except ε α) : Succeeds (x.map f) ↔ Succeeds x := by
  cases x with
  | error e => simp [Except.map]
  | ok a => simp [Except.map]

@[simp]
theorem succeeds_mapError (f : ε → ε') (x : Except ε α) : Succeeds (x.mapError f) ↔ Succeeds x := by
  cases x with
  | error e => exact iff_of_false (not_succeeds_error (f e)) (not_succeeds_error e)
  | ok a => exact iff_of_true (succeeds_ok a) (succeeds_ok a)

theorem mapError_eq_ok_iff {f : ε → ε'} {x : Except ε α} {a : α}
    : x.mapError f = .ok a ↔ x = .ok a := by
  cases x with
  | error e => exact iff_of_false (by rintro ⟨⟩) (by rintro ⟨⟩)
  | ok b =>
    constructor
    all_goals
      rintro ⟨⟩
      rfl

theorem exists_of_map_eq_ok {f : α → β} {x : Except ε α} {b : β} (h : x.map f = .ok b)
    : ∃ a, x = .ok a ∧ f a = b := by
  cases x with
  | error e => simp [Except.map] at h
  | ok a => exact ⟨a, rfl, by simpa [Except.map] using h⟩

theorem succeeds_bind (x : Except ε α) (f : α → Except ε β)
    : Succeeds (x >>= f) ↔ ∃ a, x = .ok a ∧ Succeeds (f a) := by
  cases x with
  | error e => simp [bind, Except.bind]
  | ok a => simp [bind, Except.bind]

theorem bind_eq_ok {x : Except ε α} {f : α → Except ε β} {b : β}
    : x >>= f = .ok b ↔ ∃ a, x = .ok a ∧ f a = .ok b := by
  cases x with
  | error e => simp [bind, Except.bind]
  | ok a => simp [bind, Except.bind]

theorem bind_eq_error {x : Except ε α} {f : α → Except ε β} {e : ε}
    : x >>= f = .error e ↔ x = .error e ∨ ∃ a, x = .ok a ∧ f a = .error e := by
  cases x with
  | error e' => simp [bind, Except.bind]
  | ok a => simp [bind, Except.bind]

theorem map_eq_error {x : Except ε α} {f : α → β} {e : ε} : x.map f = .error e ↔ x = .error e := by
  cases x with
  | error e' => simp [Except.map]
  | ok a => simp [Except.map]

theorem succeeds_go (f : Text → Except Error Text) (all docs : List Document) (n : Nat)
    : Succeeds (mapDocuments.go f all n docs) ↔ ∀ d ∈ docs, Succeeds (f d.text) := by
  induction docs generalizing n with
  | nil => simp [mapDocuments.go]
  | cons d docs ih =>
    rw [mapDocuments.go]
    cases hd : f d.text with
    | error e => simp [hd]
    | ok text =>
      simp only [succeeds_bind, List.mem_cons, forall_eq_or_imp, hd, succeeds_ok, true_and,
        ← ih (n + 1)]
      exact ⟨fun ⟨rest, hrest, _⟩ => ⟨rest, hrest⟩,
        fun ⟨rest, hrest⟩ => ⟨rest, hrest, succeeds_ok _⟩⟩

theorem succeeds_eachDocument (f : Text → Except Error Text) (buffer : Text)
    : Succeeds (eachDocument buffer f) ↔ ∀ d ∈ Document.split buffer, Succeeds (f d.text) := by
  unfold eachDocument
  rw [succeeds_bind, ← succeeds_go f (Document.split buffer) (Document.split buffer) 1]
  exact ⟨fun ⟨docs, hdocs, _⟩ => ⟨docs, hdocs⟩, fun ⟨docs, hdocs⟩ => ⟨docs, hdocs, succeeds_ok _⟩⟩

/-- The sorter with comments moved separately, or left to the reader. -/
def withComments (s : Sorter) (on : Bool) : Sorter :=
  { s with settings := { s.settings with comments := on } }

theorem withComments_of_eq {on : Bool} (h : s.settings.comments = on) : s.withComments on = s := by
  rw [withComments, ← h]

@[simp]
theorem schema_withComments (s : Sorter) (on : Bool) : (s.withComments on).schema = s.schema := rfl

/-- The blank lines that the settings ask for can be inserted. -/
def BlankLinesFit (s : Sorter) : Prop :=
  Layout.blankLinesFit s.settings.emptyLinesUntilLevel.toNat
  (Layout.effectiveIndent s.settings.indent) = true

instance : Decidable s.BlankLinesFit := inferInstanceAs (Decidable (_ = true))

theorem succeeds_layout (h : sorting.isSome = true → s.BlankLinesFit) (t : Yaml.Tree)
    : Succeeds (s.layout sorting t) := by
  unfold layout
  dsimp only
  split
  . next hsorting =>
    have hfit : s.BlankLinesFit := h (Bool.and_eq_true_iff.mp hsorting).1
    unfold BlankLinesFit at hfit
    rw [Layout.addBlankLines, if_pos hfit]
    exact succeeds_ok _
  . exact succeeds_ok _

/-- What is prepared of a document whose tabs are expanded. -/
def prepared (s : Sorter) (expanded : Text) : Prepared where
  shield := (s.shield.shield expanded).1
  lines := Comment.linesOf (s.shield.shield expanded).2
  content :=
    if s.settings.comments then Comment.strip (Comment.linesOf (s.shield.shield expanded).2)
    else (s.shield.shield expanded).2

theorem prepare_eq {expanded : Text} (h : expandTabs text s.settings.indent = .ok expanded)
    : s.prepare text = .ok (s.prepared expanded) := by
  rw [prepare, h]
  rfl

/-- What remains of a document without its comments, if they are moved separately, can be read. -/
def Readable (s : Sorter) (text : Text) : Prop :=
  ∃ p, s.prepare text = .ok p ∧ Succeeds (Tree.parse p.content s.schema)

/-- What is read of a document once it has been prepared. -/
def Reads (s : Sorter) (text : Text) (t : Yaml.Tree) : Prop :=
  ∃ p, s.prepare text = .ok p ∧ Tree.parse p.content s.schema = .ok (some t)

theorem succeeds_rebuild (h : sorting.isSome = true → s.BlankLinesFit) (p : Prepared)
    : Succeeds (s.rebuild sorting p) ↔ Succeeds (Tree.parse p.content s.schema) := by
  unfold rebuild
  rw [succeeds_bind]
  constructor
  . intro ⟨t, ht, _⟩
    exact ⟨t, ht⟩
  . intro ⟨t, ht⟩
    refine ⟨t, ht, ?_⟩
    cases t with
    | none => exact succeeds_ok _
    | some t => exact succeeds_layout h t

theorem rebuild_of_parse {p : Prepared} {t : Yaml.Tree}
    (h : Tree.parse p.content s.schema = .ok (some t))
    : s.rebuild sorting p = s.layout sorting t := by
  rw [rebuild, h]
  rfl

theorem transform_eq (sorting : Sorting) {p : Prepared} (hblank : Text.isBlank text = false)
    (hp : s.prepare text = .ok p)
    : s.transform sorting text =
        (s.rebuild sorting p).map fun out => endLine (p.shield.restore (s.recomment p out)) := by
  rw [transform, hblank, hp]
  rfl

theorem succeeds_transform (h : sorting.isSome = true → s.BlankLinesFit) (text : Text)
    : Succeeds (s.transform sorting text) ↔ (Text.isBlank text = false → s.Readable text) := by
  unfold transform
  cases hblank : Text.isBlank text with
  | true => simp [pure, Except.pure]
  | false =>
    simp only [Bool.false_eq_true, if_false, forall_const, Readable, succeeds_bind,
      ← succeeds_rebuild h]
    exact exists_congr fun p => and_congr_right fun _ =>
      ⟨fun ⟨out, hout, _⟩ => ⟨out, hout⟩, fun ⟨out, hout⟩ => ⟨out, hout, succeeds_ok _⟩⟩

theorem succeeds_format (s : Sorter) (buffer : Text)
    : Succeeds (s.format buffer) ↔
        ∀ d ∈ Document.split buffer, Text.isBlank d.text = false → s.Readable d.text := by
  rw [format, succeeds_mapError, succeeds_map, succeeds_eachDocument]
  exact forall₂_congr fun d _ => succeeds_transform (by simp) d.text

theorem sortDocument_eq (hlow : 0 ≤ slot) (hhigh : slot ≤ 3) (text : Text)
    : s.sortDocument text slot = s.transform (some (s.comparators slot)) text := by
  have hvalid : (slot < 0 || slot > 3) = false := by
    simp only [Bool.or_eq_false_iff, decide_eq_false_iff_not]
    omega
  rw [sortDocument, hvalid]
  rfl

/--
A buffer is sorted by one of the four orders if all its documents that are not blank can be read.
-/
theorem succeeds_sort (h : s.BlankLinesFit) (hslot : 0 ≤ slot ∧ slot ≤ 3) (buffer : Text)
    : Succeeds (s.sort buffer slot) ↔
        ∀ d ∈ Document.split buffer, Text.isBlank d.text = false → s.Readable d.text := by
  rw [sort, succeeds_mapError, succeeds_map, succeeds_eachDocument]
  refine forall₂_congr fun d _ => ?_
  rw [sortDocument_eq hslot.1 hslot.2]
  exact succeeds_transform (fun _ => h) d.text

end Sorter
end YamlOrder
