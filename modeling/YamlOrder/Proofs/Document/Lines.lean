import YamlOrder.Document
import YamlOrder.Proofs.Text.Blank
import YamlOrder.Proofs.Text.Lines

/-!
This module contains the lines of documents: a buffer of documents holds the blank lines and the
marker of each delimiter, and the lines of each text without the empty ones at its end.
-/

namespace YamlOrder
namespace Document

open Text (ended newline lines unlines dropNewlines)

variable {d : Document} {docs rest : List Document} {buffer text : Text} {ls : List Text} {n : Nat}

/-- The delimiter of a document behind others, with blank lines before the marker. -/
def separator (blanks : Nat) : Text := List.replicate (blanks + 1) newline ++ marker ++ [newline]

/-- Documents with the delimiters that documents of a buffer have. -/
structure Delimited (docs : List Document) : Prop where
  first : ∀ d ∈ docs.head?, d.delimiter = [] ∨ d.delimiter = marker ++ [newline]
  later : ∀ d ∈ docs.tail, ∃ n, d.delimiter = separator n

/-- The blank lines in the delimiter of a document behind others. -/
def blanksBefore (d : Document) : Nat := (d.delimiter.takeWhile (· == newline)).length - 1

/-- The lines of a text without the empty ones at its end. -/
def bodyLines (text : Text) : List Text :=
  if dropNewlines text = [] then [] else lines (dropNewlines text)

/-- The lines of a document behind others. -/
def laterLines (d : Document) : List Text :=
    List.replicate d.blanksBefore [] ++ marker :: bodyLines d.text

/-- The lines of documents one after the other. -/
def allLines : List Document → List Text
  | [] => []
  | d :: rest => (if d.delimiter = [] then [] else [marker]) ++ bodyLines d.text ++
      rest.flatMap laterLines

/-- A text that ends with exactly one newline. Nothing takes the place of white space. -/
def endText (text : Text) : Text :=
  if Text.isBlank (dropNewlines text) then [] else dropNewlines text ++ [newline]

/-- A buffer with a newline behind its last line. -/
def closeLine (buffer : Text) : Text :=
  if buffer.getLast?.all (· == newline) then buffer else buffer ++ [newline]

/-- Lines of which the last one, if there is one, is not blank. -/
def EndsSolid (ls : List Text) : Prop := ∀ l ∈ ls.getLast?, Text.isBlank l = false

theorem marker_eq : marker = [45, 45, 45] := by decide

theorem blanksBefore_of_separator (h : d.delimiter = separator n) : d.blanksBefore = n := by
  have htake : (separator n).takeWhile (· == newline) = List.replicate (n + 1) newline := by
    rw [separator, List.append_assoc, List.takeWhile_append_of_pos]
    . simp [marker_eq, newline]
    . simp
  rw [blanksBefore, h, htake]
  simp

theorem join_eq_endText (docs : List Document) : join docs = endText (docs.foldl append []) := rfl

theorem endText_eq_of_dropNewlines_eq {t u : Text} (h : dropNewlines t = dropNewlines u)
    : endText t = endText u := by
  rw [endText, endText, h]

theorem dropNewlines_closeLine (buffer : Text)
    : dropNewlines (closeLine buffer) = dropNewlines buffer := by
  unfold closeLine
  split
  . rfl
  . exact Text.dropNewlines_append_newline buffer

theorem closeLine_eq_self (h : buffer.getLast? = some newline) : closeLine buffer = buffer := by
  simp [closeLine, h]

theorem closeLine_eq_append (hne : buffer ≠ []) (h : buffer.getLast? ≠ some newline)
    : closeLine buffer = buffer ++ [newline] := by
  rw [List.getLast?_eq_some_getLast hne] at h
  rw [closeLine, List.getLast?_eq_some_getLast hne, if_neg (by simpa using h)]

theorem closeLine_append_ended (buffer : Text) (hls : ls ≠ [])
    : closeLine (buffer ++ ended ls) = buffer ++ ended ls := by
  apply closeLine_eq_self
  rw [← Text.unlines_append_newline hls, ← List.append_assoc, List.getLast?_concat]

theorem closeLine_append (h : closeLine buffer = buffer) (text : Text)
    : closeLine (buffer ++ dropNewlines text) = buffer ++ ended (bodyLines text) := by
  rw [bodyLines]
  split
  . next hnil => simp [hnil, h]
  . next hne =>
    rw [closeLine_eq_append (by simp [hne]), ← Text.unlines_append_newline (Text.lines_ne_nil _),
      Text.unlines_lines, List.append_assoc]
    rw [List.getLast?_append_of_ne_nil _ hne]
    exact Text.getLast?_dropNewlines text

theorem endsSolid_nil : EndsSolid [] := by simp [EndsSolid]

theorem endsSolid_append_of_ne_nil {ms : List Text} (hne : ms ≠ []) (h : EndsSolid ms)
    (ls : List Text)
    : EndsSolid (ls ++ ms) := by
  rwa [EndsSolid, List.getLast?_append_of_ne_nil _ hne]

theorem EndsSolid.append {ms : List Text} (hls : EndsSolid ls) (hms : EndsSolid ms)
    : EndsSolid (ls ++ ms) := by
  by_cases hne : ms = []
  . rwa [hne, List.append_nil]
  . exact endsSolid_append_of_ne_nil hne hms ls

theorem endsSolid_rdropWhile (ls : List Text) : EndsSolid (ls.rdropWhile Text.isBlank) := by
  intro l hl
  obtain ⟨hne, rfl⟩ := List.mem_getLast?_eq_getLast hl
  simpa using List.rdropWhile_last_not Text.isBlank ls hne

theorem EndsSolid.dropNewlines_unlines (hsolid : EndsSolid ls) (h : ∀ l ∈ ls, newline ∉ l)
    : dropNewlines (unlines ls) = unlines ls := by
  cases hl : ls.getLast? with
  | none =>
    rw [List.getLast?_eq_none_iff.mp hl]
    rfl
  | some l =>
    have hblank := hsolid l hl
    apply Text.dropNewlines_unlines h hl
    rintro rfl
    exact absurd hblank (by decide)

theorem EndsSolid.isBlank_unlines (hsolid : EndsSolid ls) (hne : ls ≠ [])
    : Text.isBlank (unlines ls) = false := by
  have hlast := List.getLast?_eq_some_getLast hne
  rw [Text.isBlank_unlines, List.all_eq_false]
  exact ⟨_, List.mem_of_getLast? hlast, by simp [hsolid _ hlast]⟩

theorem EndsSolid.bodyLines_unlines (hsolid : EndsSolid ls) (h : ∀ l ∈ ls, newline ∉ l)
    : bodyLines (unlines ls) = ls := by
  rw [bodyLines, hsolid.dropNewlines_unlines h]
  by_cases hne : ls = []
  . rw [hne]
    rfl
  . rw [if_neg, Text.lines_unlines hne h]
    intro hnil
    have hblank := hsolid.isBlank_unlines hne
    rw [hnil] at hblank
    exact absurd hblank (by decide)

theorem bodyLines_rdropWhile (h : ∀ l ∈ ls, newline ∉ l)
    : bodyLines (unlines (ls.rdropWhile Text.isBlank)) = ls.rdropWhile Text.isBlank :=
  (endsSolid_rdropWhile ls).bodyLines_unlines fun l hl =>
  h l (List.IsPrefix.mem hl <| List.rdropWhile_prefix _ _)

theorem EndsSolid.endText_ended (hsolid : EndsSolid ls) (h : ∀ l ∈ ls, newline ∉ l)
    : endText (ended ls) = ended ls := by
  by_cases hne : ls = []
  . rw [hne]
    rfl
  . rw [endText, Text.dropNewlines_ended, hsolid.dropNewlines_unlines h, hsolid.isBlank_unlines hne,
      if_neg (by simp),
      Text.unlines_append_newline hne]

theorem exists_eq_bodyLines_append (h : ∀ l ∈ ls, newline ∉ l)
    : ∃ n, ls = bodyLines (unlines ls) ++ List.replicate n [] := by
  by_cases hls : ls = []
  . exact ⟨0, by rw [hls]; rfl⟩
  . obtain ⟨n, hn⟩ := Text.exists_lines_eq_dropNewlines_append (unlines ls)
    rw [Text.lines_unlines hls h] at hn
    rw [bodyLines]
    split
    . next hnil =>
      rw [hnil] at hn
      exact ⟨n + 1, hn⟩
    . exact ⟨n, hn⟩

theorem separator_eq (n : Nat)
    : separator n = newline :: ended (List.replicate n [] ++ [marker]) := by
  simp [separator, List.replicate_succ]

theorem append_eq (hbuffer : buffer ≠ []) (h : d.delimiter = separator n)
    : append buffer d = closeLine buffer ++ ended (List.replicate n [] ++ [marker]) ++
      dropNewlines d.text := by
  -- the newline at the end of a complete buffer stands for the first one of the separator
  by_cases hlast : buffer.getLast? = some newline
  . simp [append, hlast, h, separator_eq, closeLine_eq_self, Text.dropLeading]
  . simp [append, hlast, h, separator_eq, closeLine_eq_append hbuffer]

theorem closeLine_append_document (hbuffer : buffer ≠ []) (h : ∃ n, d.delimiter = separator n)
    : closeLine (append buffer d) = closeLine buffer ++ ended d.laterLines := by
  obtain ⟨n, h⟩ := h
  rw [append_eq hbuffer h, closeLine_append (closeLine_append_ended _ (by simp)), laterLines,
    blanksBefore_of_separator h]
  simp

theorem append_ne_nil (hbuffer : buffer ≠ []) : append buffer d ≠ [] := by
  simp [append, hbuffer]

theorem closeLine_foldl (hbuffer : buffer ≠ []) (h : ∀ d ∈ docs, ∃ n, d.delimiter = separator n)
    : closeLine (docs.foldl append buffer) = closeLine buffer ++
      ended (docs.flatMap laterLines) := by
  induction docs generalizing buffer with
  | nil => simp
  | cons d docs ih =>
    simp only [List.mem_cons, forall_eq_or_imp] at h
    rw [List.foldl_cons, ih (append_ne_nil hbuffer) h.2, closeLine_append_document hbuffer h.1,
      List.flatMap_cons,
      Text.ended_append, List.append_assoc]

theorem closeLine_append_nil (h : d.delimiter = [] ∨ d.delimiter = marker ++ [newline])
    : closeLine (append [] d)
        = ended ((if d.delimiter = [] then [] else [marker]) ++ bodyLines d.text) := by
  have happend : append [] d = d.delimiter ++ dropNewlines d.text := rfl
  rw [happend]
  obtain h | h := h
  . rw [h, closeLine_append rfl, if_pos rfl]
    rfl
  . have hmarker : marker ++ [newline] = [] ++ ended [marker] := by simp
    rw [h, if_neg (by simp), hmarker, closeLine_append (closeLine_append_ended [] (by simp)),
      Text.ended_append]
    rfl

/-- Documents are put together line by line. -/
theorem join_eq (h : Delimited docs)
    (hopening : ∀ d rest, docs = d :: rest → rest ≠ [] → d.delimiter = [] →
      dropNewlines d.text ≠ [])
    : join docs = endText (ended (allLines docs)) := by
  rw [join_eq_endText]
  cases docs with
  | nil => rfl
  | cons d rest =>
    have hfirst := closeLine_append_nil (h.first d rfl)
    apply endText_eq_of_dropNewlines_eq
    rw [← dropNewlines_closeLine, allLines, Text.ended_append, ← hfirst, List.foldl_cons]
    cases rest with
    | nil => simp
    | cons e rest =>
      have hlater : ∀ d ∈ e :: rest, ∃ n, d.delimiter = separator n := h.later
      rw [closeLine_foldl _ hlater]
      -- before an empty buffer the separator would keep its first newline, and a line would be
      -- added
      intro hnil
      obtain ⟨hdelimiter, htext⟩ := List.append_eq_nil_iff.mp hnil
      exact hopening d (e :: rest) rfl (by simp) hdelimiter htext

end Document
end YamlOrder
