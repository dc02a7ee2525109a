import YamlOrder.Proofs.Document.Lines

/-!
This module contains how a buffer is cut: what the lines of its parts are, and which delimiters its
documents have. Directives are nothing to it: those at the start go with the delimiter that ends
them, and all others go alone.
-/

namespace YamlOrder
namespace Document

open Text (newline carriageReturn ended lines unlines normalizeNewlines dropNewlines dropTrailing)

variable {line l after delimiter body text buffer : Text} {ls block header : List Text}
  {later : List (List Text)}

theorem stripDirectives_eq_self (h : ∀ l ∈ ls, isDirective l = false)
    : stripDirectives ls = ls := by
  -- without directives none is ever pending, while `leading` changes along the lines
  suffices hgo : ∀ leading, stripDirectives.go leading false ls = ls from hgo true
  induction ls with
  | nil => simp [stripDirectives.go]
  | cons l ls ih =>
    simp only [List.mem_cons, forall_eq_or_imp] at h
    intro leading
    simp [stripDirectives.go, h.1, ih h.2]

theorem marker_prefix_of_delimiterRest? (h : delimiterRest? line = some after)
    : marker <+: line ∧ (after = [] ∨ after = Text.trim (line.drop marker.length)) := by
  unfold delimiterRest? at h
  split at h
  . next heq => exact ⟨by rw [eq_of_beq heq], .inl (by simpa using h.symm)⟩
  . split at h
    . next hspace =>
      simp only [Bool.or_eq_true, List.isPrefixOf_iff_prefix] at hspace
      refine ⟨?_, .inr (by simpa using h.symm)⟩
      obtain hspace | htab := hspace
      . exact (List.prefix_append _ _).trans hspace
      . exact (List.prefix_append _ _).trans htab
    . simp at h

theorem isBlank_of_delimiterRest? (h : delimiterRest? line = some after)
    : Text.isBlank line = false := by
  obtain ⟨⟨t, rfl⟩, -⟩ := marker_prefix_of_delimiterRest? h
  exact Text.isBlank_of_spaceWidth_eq_zero (by simp [marker_eq])
    (by simp [marker_eq, Text.spaceWidth, Text.space, Text.tab, Text.carriageReturn])

theorem isBlank_after (h : delimiterRest? line = some after) (hne : after ≠ [])
    : Text.isBlank after = false := by
  obtain ⟨-, rfl | rfl⟩ := marker_prefix_of_delimiterRest? h
  . exact absurd rfl hne
  . exact Text.isBlank_trim hne

theorem after_subset (h : delimiterRest? line = some after) : after ⊆ line := by
  obtain ⟨-, rfl | rfl⟩ := marker_prefix_of_delimiterRest? h
  . simp
  . exact List.Subset.trans (Text.trim_subset _) (List.drop_subset _ _)

theorem delimiterRest?_marker : delimiterRest? marker = some [] := rfl

theorem parts_cons_nil (h : delimiterRest? line = some []) (rest : List Text)
    : parts (line :: rest) = ([], (parts rest).1 :: (parts rest).2) := by
  simp [parts, h]

theorem parts_cons_after (h : delimiterRest? line = some after) (hne : after ≠ [])
    (rest : List Text)
    : parts (line :: rest) = ([], (after :: (parts rest).1) :: (parts rest).2) := by
  cases after with
  | nil => exact absurd rfl hne
  | cons b after => simp [parts, h]

theorem parts_cons_none (h : delimiterRest? line = none) (rest : List Text)
    : parts (line :: rest) = (line :: (parts rest).1, (parts rest).2) := by
  simp [parts, h]

theorem parts_append (h : ∀ l ∈ block, delimiterRest? l = none) (rest : List Text)
    : parts (block ++ rest) = (block ++ (parts rest).1, (parts rest).2) := by
  induction block with
  | nil => rfl
  | cons l block ih =>
    simp only [List.mem_cons, forall_eq_or_imp] at h
    rw [List.cons_append, parts_cons_none h.1, ih h.2]
    rfl

theorem newline_not_mem_parts (h : ∀ l ∈ ls, newline ∉ l)
    : (∀ l ∈ (parts ls).1, newline ∉ l) ∧ ∀ p ∈ (parts ls).2, ∀ l ∈ p, newline ∉ l := by
  induction ls with
  | nil => simp [parts]
  | cons line ls ih =>
    simp only [List.mem_cons, forall_eq_or_imp] at h
    obtain ⟨hfirst, hlater⟩ := ih h.2
    cases hline : delimiterRest? line with
    | none =>
      rw [parts_cons_none hline]
      exact ⟨List.forall_mem_cons.mpr ⟨h.1, hfirst⟩, hlater⟩
    | some after =>
      by_cases hafter : after = []
      . rw [parts_cons_nil (hafter ▸ hline)]
        exact ⟨by simp, List.forall_mem_cons.mpr ⟨hfirst, hlater⟩⟩
      . rw [parts_cons_after hline hafter]
        have hmem : newline ∉ after := fun hmem => h.1 (after_subset hline hmem)
        exact ⟨by simp, List.forall_mem_cons.mpr ⟨List.forall_mem_cons.mpr ⟨hmem, hfirst⟩, hlater⟩⟩

theorem length_rdropWhile_add_trailingBlanks (ls : List Text)
    : (ls.rdropWhile Text.isBlank).length + trailingBlanks ls = ls.length := by
  have hsplit := congrArg List.length
    (List.rdropWhile_append_rtakeWhile (p := Text.isBlank) (l := ls))
  rwa [List.length_append, List.rtakeWhile, List.length_reverse] at hsplit

theorem take_trailingBlanks (ls : List Text)
    : ls.take (ls.length - trailingBlanks ls) = ls.rdropWhile Text.isBlank := by
  rw [← length_rdropWhile_add_trailingBlanks, Nat.add_sub_cancel]
  exact (List.prefix_iff_eq_take.mp <| List.rdropWhile_prefix Text.isBlank ls).symm

theorem ofParts_cons (delimiter : Text) (ls next : List Text) (later : List (List Text))
    : ofParts delimiter ls (next :: later)
        = ⟨delimiter, unlines (ls.rdropWhile Text.isBlank)⟩ :: ofParts
        (separator (trailingBlanks ls)) next later := by
  rw [ofParts, take_trailingBlanks]
  rfl

theorem exists_ofParts_eq_cons (delimiter : Text) (ls : List Text) (later : List (List Text))
    : ∃ text rest, ofParts delimiter ls later = ⟨delimiter, text⟩ :: rest ∧
        ∀ d ∈ rest, ∃ n, d.delimiter = separator n := by
  induction later generalizing delimiter ls with
  | nil => exact ⟨_, [], rfl, by simp⟩
  | cons next later ih =>
    obtain ⟨text, rest, hrest, hseparator⟩ := ih (separator (trailingBlanks ls)) next
    refine ⟨_, _, ofParts_cons delimiter ls next later, ?_⟩
    rw [hrest]
    exact List.forall_mem_cons.mpr ⟨⟨_, rfl⟩, hseparator⟩

theorem delimited_ofParts (h : delimiter = [] ∨ delimiter = marker ++ [newline]) (ls : List Text)
    (later : List (List Text)) : Delimited (ofParts delimiter ls later) := by
  obtain ⟨text, rest, hrest, hseparator⟩ := exists_ofParts_eq_cons delimiter ls later
  rw [hrest]
  exact ⟨by simpa using h, hseparator⟩

theorem delimited_split (buffer : Text) : Delimited (split buffer) := by
  unfold split
  split
  . split
    . exact delimited_ofParts (.inr rfl) _ _
    . exact delimited_ofParts (.inl rfl) _ _
  . exact delimited_ofParts (.inl rfl) _ _

/-- Whether a delimiter line comes next, with nothing but blank lines before it. -/
def meetsDelimiter (ls : List Text) : Bool :=
    ((ls.dropWhile Text.isBlank).head?.bind delimiterRest?).isSome

theorem meetsDelimiter_eq (ls : List Text)
    : meetsDelimiter ls = ((parts ls).1.all Text.isBlank && !(parts ls).2.isEmpty) := by
  induction ls with
  | nil => rfl
  | cons line ls ih =>
    cases hline : delimiterRest? line with
    | none =>
      rw [parts_cons_none hline]
      cases hblank : Text.isBlank line with
      | false => simp [meetsDelimiter, hblank, hline]
      | true =>
        rw [meetsDelimiter, List.dropWhile_cons_of_pos hblank, ← meetsDelimiter, ih,
          List.all_cons, hblank,
          Bool.true_and]
    | some after =>
      have hblank := isBlank_of_delimiterRest? hline
      by_cases hafter : after = []
      . rw [parts_cons_nil (hafter ▸ hline)]
        simp [meetsDelimiter, hblank, hline]
      . rw [parts_cons_after hline hafter]
        simp [meetsDelimiter, hblank, hline]

theorem parts_dropWhile (h : meetsDelimiter ls = true)
    : parts (ls.dropWhile Text.isBlank) = ([], (parts ls).2) := by
  induction ls with
  | nil => simp [meetsDelimiter] at h
  | cons line ls ih =>
    cases hline : delimiterRest? line with
    | none =>
      rw [parts_cons_none hline]
      cases hblank : Text.isBlank line with
      | false => simp [meetsDelimiter, hblank, hline] at h
      | true =>
        rw [meetsDelimiter, List.dropWhile_cons_of_pos hblank] at h
        rw [List.dropWhile_cons_of_pos hblank, ih h]
    | some after =>
      have hblank := isBlank_of_delimiterRest? hline
      rw [List.dropWhile_cons_of_neg (by simp [hblank])]
      by_cases hafter : after = []
      . rw [parts_cons_nil (hafter ▸ hline)]
      . rw [parts_cons_after hline hafter]

theorem split_of_meetsDelimiter (hls : stripDirectives (lines (Text.normalizeNewlines buffer)) = ls)
    (h : meetsDelimiter ls = true)
    : ∃ next later, (parts ls).2 = next :: later ∧
      split buffer = ofParts (marker ++ [newline]) next later := by
  rw [meetsDelimiter_eq, Bool.and_eq_true] at h
  rw [split, hls]
  generalize parts ls = p at h ⊢
  obtain ⟨first, later⟩ := p
  cases later with
  | nil => simp at h
  | cons next later => exact ⟨next, later, rfl, if_pos h.1⟩

theorem split_of_not_meetsDelimiter
    (hls : stripDirectives (lines (Text.normalizeNewlines buffer)) = ls)
    (h : meetsDelimiter ls = false) : split buffer = ofParts [] (parts ls).1 (parts ls).2 := by
  rw [meetsDelimiter_eq] at h
  rw [split, hls]
  generalize parts ls = p at h ⊢
  obtain ⟨first, later⟩ := p
  cases later with
  | nil => rfl
  | cons next later => exact if_neg (by simpa using h)

/--
A text without its directives. Where the last line goes, the whole line end before it goes with it.
-/
def withoutDirectives (text : Text) : Text :=
  let kept := unlines ((lines text).filter (!isDirective ·))
  if (lines text).getLast?.any isDirective then dropTrailing [carriageReturn] kept else kept

theorem isDirective_iff : isDirective l = true ↔ ∃ t, l = 37 :: t := by
  rw [isDirective, beq_iff_eq, List.head?_eq_some_iff]

theorem isBlank_of_isDirective (h : isDirective l = true) : Text.isBlank l = false := by
  obtain ⟨t, rfl⟩ := isDirective_iff.mp h
  exact Text.isBlank_of_spaceWidth_eq_zero (by simp) rfl

theorem isDirective_dropTrailing (l : Text)
    : isDirective (dropTrailing [carriageReturn] l) = isDirective l := by
  rw [Text.dropTrailing_singleton]
  split
  . next h =>
    obtain ⟨t, rfl⟩ := List.getLast?_eq_some_iff.mp h
    rw [List.dropLast_concat]
    cases t with
    | nil => rfl
    | cons b t => rfl
  . rfl

theorem filter_map_dropTrailing (ls : List Text)
    : (ls.map (dropTrailing [carriageReturn])).filter (!isDirective ·)
        = (ls.filter (!isDirective ·)).map (dropTrailing [carriageReturn]) := by
  rw [List.filter_map]
  congr 1
  refine List.filter_congr fun l _ => ?_
  rw [Function.comp_apply, isDirective_dropTrailing]

theorem stripDirectives.go_false (ls : List Text)
    : stripDirectives.go false false ls = ls.filter (!isDirective ·) := by
  induction ls with
  | nil => rfl
  | cons l ls ih =>
    rw [stripDirectives.go]
    cases hl : isDirective l
    all_goals simp [hl, ih]

theorem stripDirectives_of_content (h : ∀ l ∈ ls.find? (!Text.isBlank ·), isDirective l = false)
    : stripDirectives ls = ls.filter (!isDirective ·) := by
  unfold stripDirectives
  induction ls with
  | nil => rfl
  | cons l ls ih =>
    cases hblank : Text.isBlank l with
    | true =>
      have hl : isDirective l = false := by
        by_contra hdirective
        have := isBlank_of_isDirective (Bool.not_eq_false _ ▸ hdirective)
        simp [hblank] at this
      rw [List.find?_cons_of_neg (by simp [hblank])] at h
      simp [stripDirectives.go, hl, hblank, ih h]
    | false =>
      rw [List.find?_cons_of_pos (by simp [hblank])] at h
      have hl : isDirective l = false := h l rfl
      simp [stripDirectives.go, hl, hblank, stripDirectives.go_false]

theorem stripDirectives_header (hfirst : ∃ d ∈ header.head?, isDirective d = true)
    (h : ∀ l ∈ header, isDirective l = true ∨ Text.isBlank l = true) (ls : List Text)
    : stripDirectives (header ++ marker :: ls) = ls.filter (!isDirective ·) := by
  -- a directive has been met, nothing but blank lines and directives has, and its delimiter is
  -- still to come
  have hpending : ∀ rest : List Text, (∀ l ∈ rest, isDirective l = true ∨ Text.isBlank l = true) →
      stripDirectives.go true true (rest ++ marker :: ls) = ls.filter (!isDirective ·) := by
    intro rest hrest
    induction rest with
    | nil => exact stripDirectives.go_false ls
    | cons l rest ih =>
      simp only [List.mem_cons, forall_eq_or_imp] at hrest
      rw [List.cons_append, stripDirectives.go, ih hrest.2]
      obtain hl | hl := hrest.1
      all_goals simp [hl]
  obtain ⟨d, hd, hdirective⟩ := hfirst
  obtain ⟨rest, rfl⟩ := List.head?_eq_some_iff.mp hd
  simp only [List.mem_cons, forall_eq_or_imp] at h
  rw [List.cons_append, stripDirectives, stripDirectives.go, if_pos hdirective, hpending rest h.2]

theorem split_congr {buffer : Text}
    (h : stripDirectives (lines (normalizeNewlines text)) =
      stripDirectives (lines (normalizeNewlines buffer)))
    : split text = split buffer := by
  unfold split
  rw [h]

theorem isDirective_of_mem_filter (h : l ∈ ls.filter (!isDirective ·)) : isDirective l = false := by
  simpa using (List.mem_filter.mp h).2

theorem filter_eq_self (h : ∀ l ∈ lines body, isDirective l = false)
    : (lines (normalizeNewlines body)).filter (!isDirective ·) =
      lines (normalizeNewlines body) := by
  rw [List.filter_eq_self]
  intro l hl
  obtain ⟨l', hl', t, rfl⟩ := Text.exists_prefix_of_mem_lines_normalizeNewlines hl
  rw [Bool.not_eq_true']
  by_contra hdirective
  obtain ⟨u, rfl⟩ := isDirective_iff.mp (Bool.not_eq_false _ ▸ hdirective)
  exact absurd (h _ hl') (by simp [isDirective])

theorem isDirective_first_normalizeNewlines
    (h : ∀ l ∈ (lines text).find? (!Text.isBlank ·), isDirective l = false)
    : ∀ l ∈ (lines (normalizeNewlines text)).find? (!Text.isBlank ·), isDirective l = false := by
  obtain ⟨ls, last, hlines, -, -, hread⟩ := Text.exists_lines_eq_concat text
  rw [hlines, List.find?_append] at h
  have hcontent : (!Text.isBlank ·) ∘ dropTrailing [carriageReturn] = (!Text.isBlank ·) := by
    funext l
    rw [Function.comp_apply, Text.isBlank_dropTrailing]
  rw [hread, List.find?_append, List.find?_map, hcontent]
  cases hfind : ls.find? (!Text.isBlank ·) with
  | none =>
    rw [hfind] at h
    exact h
  | some l =>
    intro l' hl'
    obtain rfl : dropTrailing [carriageReturn] l = l' := by simpa using hl'
    rw [isDirective_dropTrailing]
    exact h l (by rw [hfind]; rfl)

theorem filter_ne_nil (h : ∀ l ∈ ls.find? (!Text.isBlank ·), isDirective l = false) (hne : ls ≠ [])
    : ls.filter (!isDirective ·) ≠ [] := by
  obtain ⟨l, rest, rfl⟩ := List.exists_cons_of_ne_nil hne
  cases hl : isDirective l with
  | false => simp [hl]
  | true =>
    rw [List.find?_cons_of_pos (by simp [isBlank_of_isDirective hl])] at h
    exact absurd (h l rfl) (by simp [hl])

theorem lines_withoutDirectives
    (h : ∀ l ∈ (lines text).find? (!Text.isBlank ·), isDirective l = false)
    : lines (normalizeNewlines (withoutDirectives text))
        = (lines (normalizeNewlines text)).filter (!isDirective ·) := by
  obtain ⟨ls, last, hlines, hls, hlast, hread⟩ := Text.exists_lines_eq_concat text
  have hkept : ∀ l ∈ ls.filter (!isDirective ·), newline ∉ l :=
    fun l hl => hls l (List.mem_filter.mp hl).1
  rw [withoutDirectives, hread, List.filter_append, filter_map_dropTrailing, hlines,
    List.filter_append,
    List.getLast?_concat, Option.any_some]
  cases hdirective : isDirective last with
  | false =>
    have hsingle : [last].filter (!isDirective ·) = [last] := by simp [hdirective]
    rw [hsingle]
    exact Text.lines_normalizeNewlines_concat hkept hlast
  | true =>
    have hsingle : [last].filter (!isDirective ·) = [] := by simp [hdirective]
    have hne := filter_ne_nil h (Text.lines_ne_nil text)
    rw [hlines, List.filter_append, hsingle, List.append_nil] at hne
    obtain ⟨kept, l, hkept'⟩ := (List.eq_nil_or_concat' _).resolve_left hne
    rw [hkept'] at hkept
    have hl : newline ∉ dropTrailing [carriageReturn] l :=
      Text.newline_not_mem_dropTrailing (hkept l (by simp))
    rw [hsingle, List.append_nil, List.append_nil, if_pos rfl, hkept',
      Text.dropTrailing_unlines_concat,
      Text.lines_normalizeNewlines_concat (fun m hm => hkept m (List.mem_append_left _ hm)) hl,
      List.map_append]
    rfl

theorem split_header (hfirst : ∃ d ∈ header.head?, isDirective d = true)
    (hnewline : ∀ l ∈ header, newline ∉ l)
    (hheader : ∀ l ∈ header, isDirective l = true ∨ Text.isBlank l = true)
    (hbody : ∀ l ∈ lines body, isDirective l = false)
    : split (ended (header ++ [marker]) ++ body) = split body := by
  apply split_congr
  have hmarker : newline ∉ marker := by decide
  have hread : lines (normalizeNewlines (ended (header ++ [marker]) ++ body))
      = header.map (dropTrailing [carriageReturn]) ++ marker :: lines (normalizeNewlines body) := by
    rw [Text.lines_normalizeNewlines_ended, List.map_append, List.append_assoc]
    . rfl
    . intro l hl
      obtain hl | hl := List.mem_append.mp hl
      . exact hnewline l hl
      . rwa [List.mem_singleton.mp hl]
  have hself := filter_eq_self hbody
  rw [hread, stripDirectives_header, hself]
  . refine (stripDirectives_eq_self fun l hl => ?_).symm
    exact isDirective_of_mem_filter (hself ▸ hl)
  . obtain ⟨d, hd, hdirective⟩ := hfirst
    refine ⟨_, ?_, (isDirective_dropTrailing d).trans hdirective⟩
    rw [List.head?_map, hd]
    rfl
  . simpa only [List.forall_mem_map, isDirective_dropTrailing, Text.isBlank_dropTrailing]
      using hheader

theorem split_withoutDirectives
    (h : ∀ l ∈ (lines text).find? (!Text.isBlank ·), isDirective l = false)
    : split text = split (withoutDirectives text) := by
  apply split_congr
  rw [stripDirectives_of_content (isDirective_first_normalizeNewlines h), lines_withoutDirectives h]
  exact (stripDirectives_eq_self fun l hl => isDirective_of_mem_filter hl).symm

/--
Directives are nothing to the cutting of a buffer. Those at its start, with blank lines between
them, can go together with the delimiter that ends them, and if the first line with content is none,
then all of them can go.
-/
theorem split_ignores_directives
    : (∀ (header : List Text) (body : Text), (∃ d ∈ header.head?, isDirective d = true) →
        (∀ l ∈ header, newline ∉ l) → (∀ l ∈ header, isDirective l = true ∨ Text.isBlank l = true) →
        (∀ l ∈ lines body, isDirective l = false) → split
          (ended (header ++ [marker]) ++ body) = split body) ∧
      ∀ text : Text, (∀ l ∈ (lines text).find? (!Text.isBlank ·), isDirective l = false) →
        split text = split (withoutDirectives text) :=
  ⟨fun _ _ => split_header, fun _ => split_withoutDirectives⟩

/--
A header with a blank line in it, and a directive at the end of a text whose lines end with two
bytes.
-/
theorem split_ignores_directives_mixed
    : (∀ l ∈ [("%YAML 1.2" : Text), " ", "%TAG ! !x-\r"], isDirective l = true ∨
        Text.isBlank l = true) ∧
      split "%YAML 1.2\n \n%TAG ! !x-\r\n---\n---\n\na: 1" = split "---\n\na: 1" ∧
      (∀ l ∈ (lines "\na: 1\r\n%b\r\n---\r\n%c").find? (!Text.isBlank ·), isDirective l = false) ∧
      split "\na: 1\r\n%b\r\n---\r\n%c" = split "\na: 1\r\n---" := by
  have hheader : ∀ l ∈ [("%YAML 1.2" : Text), " ", "%TAG ! !x-\r"], isDirective l = true ∨
    Text.isBlank l = true := by
    decide
  have htext : ∀ l ∈ (lines "\na: 1\r\n%b\r\n---\r\n%c").find? (!Text.isBlank ·),
    isDirective l = false := by
    decide
  exact ⟨hheader, split_ignores_directives.1 ["%YAML 1.2", " ", "%TAG ! !x-\r"] "---\n\na: 1"
    ⟨"%YAML 1.2", by decide, by decide⟩ (by decide) hheader (by decide), htext,
      split_ignores_directives.2 _ htext⟩

end Document
end YamlOrder
