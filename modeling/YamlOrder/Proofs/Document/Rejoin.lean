import YamlOrder.Proofs.Document.Parts
import YamlOrder.Sorter

/-!
This module contains that cutting a buffer undoes putting it together, for documents whose texts do
not look like delimiters or directives.
-/

namespace YamlOrder
namespace Document

open Text (ended newline carriageReturn lines unlines dropNewlines)

variable {docs rest : List Document} {d : Document} {text l : Text} {ls : List Text}

/--
A text that can stand in a buffer as one document: none of its lines is a delimiter line or a
directive, its line ends are newlines, and the last line before the newlines at its end, if there is
one, is not blank.
-/
structure Compact (text : Text) : Prop where
  delimiter : ∀ l ∈ lines text, delimiterRest? l = none
  directive : ∀ l ∈ lines text, isDirective l = false
  carriageReturn : carriageReturn ∉ text
  content : dropNewlines text = [] ∨ EndsSolid (lines (dropNewlines text))

/-- Documents that can be told apart in a buffer. -/
structure Separable (docs : List Document) : Prop where
  nonempty : docs ≠ []
  delimited : Delimited docs
  compact : ∀ d ∈ docs, Compact d.text
  opening : ∀ d rest, docs = d :: rest → rest ≠ [] → d.delimiter = [] → Text.isBlank d.text = false

/--
The documents without the newlines at the ends of their texts. The last text ends with one newline,
if it is not empty.
-/
def settled : List Document → List Document
  | [] => []
  | [d] => [{ d with text := closeLine (dropNewlines d.text) }]
  | d :: e :: rest => { d with text := dropNewlines d.text } :: settled (e :: rest)

theorem mem_lines_of_mem_bodyLines (h : l ∈ bodyLines text) : l ∈ lines text := by
  obtain ⟨n, hn⟩ := Text.exists_lines_eq_dropNewlines_append text
  rw [bodyLines] at h
  split at h
  . simp at h
  . rw [hn]
    exact List.mem_append_left _ h

theorem mem_allLines (h : l ∈ allLines docs) : l = [] ∨ l = marker ∨ ∃ d ∈ docs,
    l ∈ bodyLines d.text := by
  cases docs with
  | nil => simp [allLines] at h
  | cons d rest =>
    rw [allLines, List.append_assoc, List.mem_append, List.mem_append, List.mem_flatMap] at h
    obtain h | h | ⟨e, he, h⟩ := h
    . split at h
      . simp at h
      . exact .inr (.inl (by simpa using h))
    . exact .inr (.inr ⟨d, List.mem_cons_self, h⟩)
    . rw [laterLines, List.mem_append, List.mem_cons] at h
      obtain h | h | h := h
      . exact .inl (List.mem_replicate.mp h).2
      . exact .inr (.inl h)
      . exact .inr (.inr ⟨e, List.mem_cons_of_mem _ he, h⟩)

theorem Compact.endsSolid (h : Compact text) : EndsSolid (bodyLines text) := by
  rw [bodyLines]
  split
  . exact endsSolid_nil
  . next hne => exact h.content.resolve_left hne

theorem Compact.delimiterRest? (h : Compact text) : ∀ l ∈ bodyLines text, delimiterRest? l = none :=
  fun l hl => h.delimiter l (mem_lines_of_mem_bodyLines hl)

theorem endsSolid_marker : EndsSolid [marker] := by
  intro l hl
  obtain rfl : marker = l := by simpa using hl
  decide

theorem endsSolid_allLines (h : ∀ d ∈ docs, Compact d.text) : EndsSolid (allLines docs) := by
  cases docs with
  | nil => exact endsSolid_nil
  | cons d rest =>
    simp only [List.mem_cons, forall_eq_or_imp] at h
    have hlater : EndsSolid (rest.flatMap laterLines) := by
      have hrest := h.2
      induction rest with
      | nil => exact endsSolid_nil
      | cons e rest ih =>
        simp only [List.mem_cons, forall_eq_or_imp] at hrest
        rw [List.flatMap_cons]
        refine .append (endsSolid_append_of_ne_nil (by simp) ?_ _) (ih ⟨h.1, hrest.2⟩ hrest.2)
        exact endsSolid_marker.append hrest.1.endsSolid
    refine .append (.append ?_ h.1.endsSolid) hlater
    split
    . exact endsSolid_nil
    . exact endsSolid_marker

theorem unlines_bodyLines (text : Text) : unlines (bodyLines text) = dropNewlines text := by
  rw [bodyLines]
  split
  . next h => exact h.symm
  . exact Text.unlines_lines _

theorem unlines_bodyLines_append (text : Text)
    : unlines (bodyLines text ++ [[]]) = closeLine (dropNewlines text) := by
  rw [Text.unlines_append (by simp), Text.unlines_singleton, List.append_nil]
  exact (@closeLine_append [] rfl text).symm

theorem Compact.rdropWhile_bodyLines (h : Compact text) (n : Nat)
    : (bodyLines text ++ List.replicate n []).rdropWhile Text.isBlank = bodyLines text := by
  induction n with
  | zero =>
    rw [List.replicate_zero, List.append_nil, List.rdropWhile_eq_self_iff]
    intro hne
    simpa using h.endsSolid _ (List.getLast?_eq_some_getLast hne)
  | succ n ih =>
    rw [List.replicate_succ', ← List.append_assoc, List.rdropWhile_concat_pos _ _ _ (by decide), ih]

theorem Compact.trailingBlanks_bodyLines (h : Compact text) (n : Nat)
    : trailingBlanks (bodyLines text ++ List.replicate n []) = n := by
  have hlength := length_rdropWhile_add_trailingBlanks (bodyLines text ++ List.replicate n [])
  rw [h.rdropWhile_bodyLines, List.length_append, List.length_replicate] at hlength
  omega

theorem ofParts_parts (delimiter : Text) (htext : Compact text) (hrest : ∀ d ∈ rest, Compact d.text)
    (hlater : ∀ d ∈ rest, ∃ n, d.delimiter = separator n)
    : ofParts delimiter (parts (bodyLines text ++ (rest.flatMap laterLines ++ [[]]))).1
          (parts (bodyLines text ++ (rest.flatMap laterLines ++ [[]]))).2
        = settled (⟨delimiter, text⟩ :: rest) := by
  induction rest generalizing delimiter text with
  | nil =>
    rw [parts_append htext.delimiterRest?, settled, ← unlines_bodyLines_append]
    rfl
  | cons e rest ih =>
    simp only [List.mem_cons, forall_eq_or_imp] at hrest hlater
    obtain ⟨⟨n, he⟩, hlater⟩ := hlater
    -- the lines up to the next marker are those of the first text, and the empty ones of the
    -- separator behind it
    have hlines : bodyLines text ++ ((e :: rest).flatMap laterLines ++ [[]])
        = (bodyLines text ++ List.replicate n [])
          ++ marker :: (bodyLines e.text ++ (rest.flatMap laterLines ++ [[]])) := by
      simp [laterLines, blanksBefore_of_separator he]
    have hblock : ∀ l ∈ bodyLines text ++ List.replicate n [], delimiterRest? l = none := by
      intro l hl
      obtain hl | hl := List.mem_append.mp hl
      . exact htext.delimiterRest? l hl
      . rw [(List.mem_replicate.mp hl).2]
        rfl
    rw [hlines, parts_append hblock, parts_cons_nil delimiterRest?_marker, List.append_nil,
      ofParts_cons,
      htext.rdropWhile_bodyLines, htext.trailingBlanks_bodyLines, unlines_bodyLines,
      ih _ hrest.1 hrest.2 hlater, ← he,
      settled]

theorem dropNewlines_ne_nil (h : Text.isBlank text = false) : dropNewlines text ≠ [] := by
  intro hnil
  obtain ⟨n, hn⟩ := Text.exists_lines_eq_dropNewlines_append text
  have hlines : lines text = List.replicate (n + 1) [] := by
    rw [hn, hnil]
    rfl
  rw [← Text.unlines_lines text, Text.isBlank_unlines, hlines] at h
  simp [Text.isBlank, Text.trim, Text.trimLeft, Text.trimRight, Text.dropChars] at h

theorem Compact.all_isBlank (h : Compact text) (hblank : Text.isBlank text = false)
    : (bodyLines text).all Text.isBlank = false := by
  rw [← Text.isBlank_unlines]
  apply h.endsSolid.isBlank_unlines
  intro hnil
  apply dropNewlines_ne_nil hblank
  rw [← unlines_bodyLines, hnil]
  rfl

theorem newline_not_mem_allLines (docs : List Document) : ∀ l ∈ allLines docs, newline ∉ l := by
  intro l hl
  obtain rfl | rfl | ⟨d, -, hl⟩ := mem_allLines hl
  . simp
  . decide
  . exact Text.newline_not_mem_of_mem_lines (mem_lines_of_mem_bodyLines hl)

theorem Separable.isDirective (h : Separable docs)
    : ∀ l ∈ allLines docs, isDirective l = false := by
  intro l hl
  obtain rfl | rfl | ⟨d, hd, hl⟩ := mem_allLines hl
  . rfl
  . rfl
  . exact (h.compact d hd).directive l (mem_lines_of_mem_bodyLines hl)

theorem Separable.carriageReturn_not_mem (h : Separable docs)
    : carriageReturn ∉ ended (allLines docs) := by
  intro hmem
  obtain ⟨l, hl, hmem⟩ := List.mem_flatMap.mp hmem
  obtain hmem | hmem := List.mem_append.mp hmem
  . obtain rfl | rfl | ⟨d, hd, hl⟩ := mem_allLines hl
    . simp at hmem
    . exact absurd hmem (by decide)
    . exact (h.compact d hd).carriageReturn
        (Text.subset_of_mem_lines (mem_lines_of_mem_bodyLines hl) hmem)
  . exact absurd hmem (by decide)

theorem Separable.join_eq (h : Separable docs) : join docs = ended (allLines docs) := by
  rw [Document.join_eq h.delimited,
    (endsSolid_allLines h.compact).endText_ended (newline_not_mem_allLines docs)]
  intro d rest hdocs hrest hdelimiter
  exact dropNewlines_ne_nil (h.opening d rest hdocs hrest hdelimiter)

theorem Separable.stripDirectives_join (h : Separable docs)
    : stripDirectives (lines (Text.normalizeNewlines (join docs))) = allLines docs ++ [[]] := by
  rw [h.join_eq, Text.normalizeNewlines_of_not_mem h.carriageReturn_not_mem,
    Text.lines_ended (newline_not_mem_allLines docs)]
  apply stripDirectives_eq_self
  intro l hl
  obtain hl | hl := List.mem_append.mp hl
  . exact h.isDirective l hl
  . obtain rfl := List.mem_singleton.mp hl
    rfl

theorem Separable.split_eq_settled (h : Separable docs) : split (join docs) = settled docs := by
  cases docs with
  | nil => exact absurd rfl h.nonempty
  | cons d rest =>
    have hls := h.stripDirectives_join
    have hlater : ∀ d ∈ rest, ∃ n, d.delimiter = separator n := h.delimited.later
    have hcompact : Compact d.text := h.compact d List.mem_cons_self
    have hrest : ∀ d ∈ rest, Compact d.text := fun e he => h.compact e (List.mem_cons_of_mem _ he)
    obtain ⟨delimiter, text⟩ := d
    obtain rfl | rfl := h.delimited.first _ rfl
    -- without a delimiter at the start the first text is not blank, so that it is not taken for one
    . have hlines : allLines (⟨[], text⟩ :: rest) ++ [[]] = bodyLines text ++
        (rest.flatMap laterLines ++ [[]]) := by
        simp [allLines]
      rw [hlines] at hls
      rw [split_of_not_meetsDelimiter hls]
      . exact ofParts_parts [] hcompact hrest hlater
      . rw [meetsDelimiter_eq, parts_append hcompact.delimiterRest?, List.all_append]
        cases rest with
        | nil => exact Bool.and_false _
        | cons e rest => rw [hcompact.all_isBlank (h.opening _ _ rfl (by simp) rfl), Bool.false_and,
            Bool.false_and]
    . have hlines : allLines (⟨marker ++ [newline], text⟩ :: rest) ++ [[]]
          = marker :: (bodyLines text ++ (rest.flatMap laterLines ++ [[]])) := by
        simp [allLines]
      rw [hlines] at hls
      have hmeets : meetsDelimiter
        (marker :: (bodyLines text ++ (rest.flatMap laterLines ++ [[]]))) = true := by
        rw [meetsDelimiter_eq, parts_cons_nil delimiterRest?_marker]
        rfl
      obtain ⟨next, later, hparts, hsplit⟩ := split_of_meetsDelimiter hls hmeets
      rw [parts_cons_nil delimiterRest?_marker, List.cons.injEq] at hparts
      rw [hsplit, ← hparts.1, ← hparts.2, ofParts_parts _ hcompact hrest hlater]

/--
Cutting a buffer undoes putting it together, up to the newlines at the ends of texts. So the new
text of a buffer holds the documents that its own were transformed to.
-/
theorem split_join (h : Separable docs)
    : split (join docs) = settled docs ∧
      ∀ buffer f, Sorter.mapDocuments f (split buffer) = .ok docs →
        ∃ out, Sorter.eachDocument buffer f = .ok out ∧ split out = settled docs := by
  refine ⟨h.split_eq_settled, ?_⟩
  intro buffer f hdocs
  refine ⟨join docs, ?_, h.split_eq_settled⟩
  rw [Sorter.eachDocument, hdocs]
  rfl

/-- Documents with empty texts among them, and with newlines behind every text. -/
def spaced : List Document :=
  [⟨"---\n", "\n\n"⟩, ⟨"\n\n---\n", "a: 1\n\n"⟩, ⟨"\n---\n", "\n\n"⟩, ⟨"\n---\n", "\n b: 2\n\n"⟩]

theorem separable_spaced : Separable spaced where
  nonempty := by decide
  delimited := by
    constructor
    . intro d hd
      obtain rfl : ⟨"---\n", "\n\n"⟩ = d := by simpa [spaced] using hd
      exact .inr (by decide)
    . simp only [spaced, List.tail_cons, List.forall_mem_cons]
      exact ⟨⟨1, by decide⟩, ⟨0, by decide⟩, ⟨0, by decide⟩, by simp⟩
  compact := by
    simp only [spaced, List.forall_mem_cons]
    exact ⟨⟨by decide, by decide, by decide, .inl (by decide)⟩,
      ⟨by decide, by decide, by decide, .inr (by unfold EndsSolid; decide)⟩,
      ⟨by decide, by decide, by decide, .inl (by decide)⟩,
      ⟨by decide, by decide, by decide, .inr (by unfold EndsSolid; decide)⟩, by simp⟩
  opening := by
    intro d rest h _ hdelimiter
    simp only [spaced, List.cons.injEq] at h
    rw [← h.1] at hdelimiter
    exact absurd hdelimiter (by decide)

/-- Empty documents keep their places when newlines are added to all texts of a buffer. -/
theorem split_join_spaced
    : Separable spaced ∧
      Sorter.mapDocuments (fun text => .ok (text ++ "\n\n"))
      (split "---\n\n---\na: 1\n---\n---\n\n b: 2") = .ok spaced ∧
      ∃ out, Sorter.eachDocument "---\n\n---\na: 1\n---\n---\n\n b: 2"
      (fun text => .ok (text ++ "\n\n")) = .ok out ∧
        split out = [⟨"---\n", ""⟩, ⟨"\n\n---\n", "a: 1"⟩, ⟨"\n---\n", ""⟩,
          ⟨"\n---\n", "\n b: 2\n"⟩] := by
  have hdocs : Sorter.mapDocuments (fun text => .ok (text ++ "\n\n"))
      (split "---\n\n---\na: 1\n---\n---\n\n b: 2") = .ok spaced := rfl
  obtain ⟨out, hout, hsplit⟩ := (split_join separable_spaced).2 _ _ hdocs
  exact ⟨separable_spaced, hdocs, out, hout, hsplit.trans (by decide)⟩

end Document
end YamlOrder
