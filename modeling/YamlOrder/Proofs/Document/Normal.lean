import YamlOrder.Proofs.Document.Parts

/-!
This module contains the normal form of a buffer: what it is after it was cut into documents and
these were put together again.
-/

namespace YamlOrder
namespace Document

open Text (ended newline lines unlines dropNewlines)

variable {buffer : Text} {ls : List Text} {later : List (List Text)}

/--
The lines of a buffer as they are written again. A marker has a line of its own, and so has what
follows it. Blank lines directly before a delimiter line are empty.
-/
def rewritten : List Text → List Text
  | [] => []
  | line :: rest =>
    match delimiterRest? line with
    | some [] => marker :: rewritten rest
    | some after => marker :: after :: rewritten rest
    | none => (if Text.isBlank line && meetsDelimiter rest then [] else line) :: rewritten rest

/--
The normal form of a buffer without directives. Blank lines before a delimiter at its start are left
out.
-/
def normalForm (buffer : Text) : Text :=
  let ls := lines (Text.normalizeNewlines buffer)
  endText (unlines (rewritten (if meetsDelimiter ls then ls.dropWhile Text.isBlank else ls)))

/--
The lines of parts, with a marker between two of them and empty lines for the blank ones before it.
-/
def partLines : List Text → List (List Text) → List Text
  | ls, [] => ls
  | ls, next :: later =>
    ls.rdropWhile Text.isBlank ++ List.replicate (trailingBlanks ls) [] ++
      marker :: partLines next later

theorem rdropWhile_cons (line : Text) (ls : List Text)
    : (line :: ls).rdropWhile Text.isBlank
        = if ls.all Text.isBlank then (if Text.isBlank line then [] else [line])
          else line :: ls.rdropWhile Text.isBlank := by
  rw [List.rdropWhile, List.reverse_cons, List.dropWhile_append]
  by_cases hall : ls.all Text.isBlank = true
  . have hnil : ls.reverse.dropWhile Text.isBlank = [] := by simpa using hall
    rw [hnil, if_pos List.isEmpty_nil, if_pos hall, List.dropWhile_cons]
    split
    all_goals rfl
  . have hne : (ls.reverse.dropWhile Text.isBlank).isEmpty = false := by simpa using hall
    rw [hne, if_neg (by simp), if_neg hall, List.reverse_append]
    rfl

theorem emptied_cons (line : Text) (ls : List Text)
    : (line :: ls).rdropWhile Text.isBlank ++ List.replicate
      (trailingBlanks (line :: ls)) ([] : Text)
        = (if Text.isBlank line && ls.all Text.isBlank then [] else line)
          :: (ls.rdropWhile Text.isBlank ++ List.replicate (trailingBlanks ls) []) := by
  -- how many lines are blank at the end follows from how many are left before them
  have hcons := length_rdropWhile_add_trailingBlanks (line :: ls)
  have hls := length_rdropWhile_add_trailingBlanks ls
  rw [rdropWhile_cons] at hcons ⊢
  by_cases hall : ls.all Text.isBlank = true
  . have hnil : ls.rdropWhile Text.isBlank = [] := by simpa using hall
    rw [hnil] at hls ⊢
    cases hblank : Text.isBlank line with
    | true =>
      have hcount : trailingBlanks (line :: ls) = trailingBlanks ls + 1 := by
        simp only [hall, hblank, if_true, List.length_nil, List.length_cons] at hcons hls
        omega
      simp [hall, hcount, List.replicate_succ]
    | false =>
      have hcount : trailingBlanks (line :: ls) = trailingBlanks ls := by
        simp [hall, hblank] at hcons hls
        omega
      simp [hall, hcount]
  . have hcount : trailingBlanks (line :: ls) = trailingBlanks ls := by
      simp only [hall, if_false, List.length_cons, Bool.false_eq_true] at hcons
      omega
    simp [hall, hcount]

theorem partLines_cons (line : Text) (ls : List Text) (later : List (List Text))
    : partLines (line :: ls) later
        = (if Text.isBlank line && (ls.all Text.isBlank && !later.isEmpty) then [] else line)
          :: partLines ls later := by
  cases later with
  | nil => simp [partLines]
  | cons next later =>
    rw [partLines, partLines, emptied_cons]
    simp

theorem rewritten_eq (ls : List Text) : rewritten ls = partLines (parts ls).1 (parts ls).2 := by
  induction ls with
  | nil => rfl
  | cons line ls ih =>
    cases hline : delimiterRest? line with
    | none => rw [rewritten, hline, parts_cons_none hline, partLines_cons, meetsDelimiter_eq, ih]
    | some after =>
      by_cases hafter : after = []
      . subst hafter
        rw [rewritten, hline, parts_cons_nil hline, ih]
        rfl
      . have hrewritten : rewritten (line :: ls) = marker :: after :: rewritten ls := by
          cases after with
          | nil => exact absurd rfl hafter
          | cons b after => rw [rewritten, hline]
        rw [hrewritten, parts_cons_after hline hafter, ih, partLines, partLines_cons,
          isBlank_after hline hafter]
        rfl

theorem flatMap_laterLines_ofParts (blanks : Nat) (ls : List Text) (later : List (List Text))
    : (ofParts (separator blanks) ls later).flatMap laterLines
        = List.replicate blanks [] ++ allLines (ofParts (separator blanks) ls later) := by
  obtain ⟨text, rest, hrest, -⟩ := exists_ofParts_eq_cons (separator blanks) ls later
  have hne : separator blanks ≠ [] := by simp [separator]
  rw [hrest, List.flatMap_cons, laterLines, allLines, if_neg hne, blanksBefore_of_separator rfl]
  simp

theorem exists_partLines_eq (delimiter : Text) (hls : ∀ l ∈ ls, newline ∉ l)
    (hlater : ∀ p ∈ later, ∀ l ∈ p, newline ∉ l)
    : ∃ n, (if delimiter = [] then [] else [marker]) ++ partLines ls later
        = allLines (ofParts delimiter ls later) ++ List.replicate n [] := by
  -- only the last part can lose lines: the empty ones at the end of a part before a marker are in
  -- the separator
  induction later generalizing delimiter ls with
  | nil =>
    obtain ⟨n, hn⟩ := exists_eq_bodyLines_append hls
    refine ⟨n, ?_⟩
    rw [partLines, ofParts, allLines]
    conv_lhs => rw [hn]
    simp
  | cons next later ih =>
    simp only [List.mem_cons, forall_eq_or_imp] at hlater
    obtain ⟨n, hn⟩ := @ih next (separator (trailingBlanks ls)) hlater.1 hlater.2
    refine ⟨n, ?_⟩
    have hne : separator (trailingBlanks ls) ≠ [] := by simp [separator]
    rw [if_neg hne] at hn
    rw [partLines, ofParts_cons, allLines, bodyLines_rdropWhile hls, flatMap_laterLines_ofParts]
    simp only [List.append_assoc, List.singleton_append] at hn ⊢
    rw [hn]

theorem dropNewlines_opening {d : Document} {rest : List Document}
    (hnewline : ∀ l ∈ ls, newline ∉ l) (hmeets : meetsDelimiter ls = false)
    (h : ofParts [] (parts ls).1 (parts ls).2 = d :: rest) (hrest : rest ≠ [])
    : dropNewlines d.text ≠ [] := by
  rw [meetsDelimiter_eq] at hmeets
  have hfirst := (newline_not_mem_parts hnewline).1
  generalize parts ls = p at h hmeets hfirst
  obtain ⟨first, later⟩ := p
  cases later with
  | nil =>
    simp only [ofParts, List.cons.injEq] at h
    exact absurd h.2.symm hrest
  | cons next later =>
    simp only [ofParts_cons, List.cons.injEq] at h
    intro hnil
    have hbody := bodyLines_rdropWhile hfirst
    rw [bodyLines, if_pos (by rw [← hnil, ← h.1])] at hbody
    have hall : first.all Text.isBlank = true :=
      List.all_eq_true.mpr (List.rdropWhile_eq_nil_iff.mp hbody.symm)
    simp [hall] at hmeets

theorem exists_rewritten_eq (hls : stripDirectives (lines (Text.normalizeNewlines buffer)) = ls)
    (hnewline : ∀ l ∈ ls, newline ∉ l)
    : ∃ n, rewritten (if meetsDelimiter ls then ls.dropWhile Text.isBlank else ls)
        = allLines (split buffer) ++ List.replicate n [] := by
  obtain ⟨hfirst, hlater⟩ := newline_not_mem_parts hnewline
  cases hmeets : meetsDelimiter ls with
  | false =>
    rw [split_of_not_meetsDelimiter hls hmeets, if_neg (by simp), rewritten_eq]
    exact exists_partLines_eq [] hfirst hlater
  | true =>
    obtain ⟨next, later, hparts, hsplit⟩ := split_of_meetsDelimiter hls hmeets
    rw [hparts] at hlater
    simp only [List.mem_cons, forall_eq_or_imp] at hlater
    rw [hsplit, if_pos rfl, rewritten_eq, parts_dropWhile hmeets, hparts]
    exact exists_partLines_eq (marker ++ [newline]) hlater.1 hlater.2

theorem isDirective_normalizeNewlines (h : ∀ l ∈ lines buffer, isDirective l = false)
    : ∀ l ∈ lines (Text.normalizeNewlines buffer), isDirective l = false := by
  intro l hl
  obtain ⟨l', hl', hprefix⟩ := Text.exists_prefix_of_mem_lines_normalizeNewlines hl
  have hdirective := h l' hl'
  cases l with
  | nil => rfl
  | cons b l =>
    obtain ⟨u, rfl⟩ := hprefix
    exact hdirective

/--
A buffer without directives that is cut into its documents and put together again is in normal form.
-/
theorem join_split (h : ∀ l ∈ lines buffer, isDirective l = false)
    : join (split buffer) = normalForm buffer := by
  have hls := stripDirectives_eq_self (isDirective_normalizeNewlines h)
  have hnewline : ∀ l ∈ lines (Text.normalizeNewlines buffer), newline ∉ l :=
    fun _ => Text.newline_not_mem_of_mem_lines
  have hopening : ∀ d rest, split buffer = d :: rest → rest ≠ [] → d.delimiter = [] →
    dropNewlines d.text ≠ [] := by
    intro d rest hsplit hrest hdelimiter
    cases hmeets : meetsDelimiter (lines (Text.normalizeNewlines buffer)) with
    | false =>
      rw [split_of_not_meetsDelimiter hls hmeets] at hsplit
      exact dropNewlines_opening hnewline hmeets hsplit hrest
    | true =>
      obtain ⟨next, later, -, hbuffer⟩ := split_of_meetsDelimiter hls hmeets
      obtain ⟨text, others, hparts, -⟩ := exists_ofParts_eq_cons (marker ++ [newline]) next later
      rw [hbuffer, hparts, List.cons.injEq] at hsplit
      rw [← hsplit.1] at hdelimiter
      simp at hdelimiter
  obtain ⟨n, hn⟩ := exists_rewritten_eq hls hnewline
  rw [join_eq (delimited_split buffer) hopening, normalForm]
  apply endText_eq_of_dropNewlines_eq
  rw [hn, ← Text.dropNewlines_ended, Text.ended_append, Text.ended_replicate_nil,
    Text.dropNewlines_append_replicate]

/-- A buffer with blank lines before each of its delimiter lines, one of which has a comment. -/
def annotated : Text := " \n--- # x\r\na: 1\n \t\n---\n---\n \nb: 2\n\n"

/--
Blank lines before the first delimiter are left out, and those before the others become empty.
-/
theorem join_split_annotated
    : (∀ l ∈ lines annotated, isDirective l = false) ∧
      join (split annotated) = normalForm annotated ∧
      normalForm annotated = "---\n# x\na: 1\n\n---\n---\n \nb: 2\n" := by
  have h : ∀ l ∈ lines annotated, isDirective l = false := by decide
  exact ⟨h, join_split h, by decide⟩

end Document
end YamlOrder
