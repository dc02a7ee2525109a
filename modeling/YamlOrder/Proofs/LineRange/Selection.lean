import YamlOrder.LineRange
import YamlOrder.Proofs.Sorter.Pipeline
import YamlOrder.Proofs.Text.Blank
import YamlOrder.Proofs.Text.Lines
import YamlOrder.Proofs.Text.Numeral

/-!
This module contains the ranges of lines. An operation on a range leaves the lines before and after
it alone, and the indentation that the selected lines share. A range that is written is read again,
and one that is set again and again is always the last one that could be used.
-/

namespace YamlOrder

namespace Text

theorem dropLeading_append (piece rest : Text) : dropLeading piece (piece ++ rest) = rest := by
  rw [dropLeading, if_pos (List.isPrefixOf_iff_prefix.mpr (List.prefix_append _ _)), List.drop_left]

theorem dropLeading_suffix (piece t : Text) : dropLeading piece t <:+ t := by
  unfold dropLeading
  split
  . exact List.drop_suffix _ _
  . exact List.suffix_refl _

theorem dropTrailing_append (piece t : Text) : dropTrailing piece (t ++ piece) = t := by
  rw [dropTrailing, if_pos (List.isSuffixOf_iff_suffix.mpr (List.suffix_append _ _)),
    List.length_append,
    Nat.add_sub_cancel, List.take_left]

theorem dropTrailing_newline_of_ne {t : Text} (h : t.getLast? ≠ some newline)
    : dropTrailing [newline] t = t := by
  rw [dropTrailing_singleton, if_neg h]

end Text

namespace LineRange

open Text (newline spaces)

variable {ε : Type} {r : LineRange} {text : Text} {ls : List Text} {n : Nat}

/--
The indentation that the lines with content share: that of the least indented one, or none if there
are none.
-/
def IsCommonIndent (ls : List Text) (n : Nat) : Prop :=
  (∀ l ∈ ls, Text.isBlank l = false → n ≤ Text.indent l) ∧
    ((∃ l ∈ ls, Text.isBlank l = false ∧ Text.indent l = n) ∨
      (∀ l ∈ ls, Text.isBlank l = true) ∧ n = 0)

theorem lowerIndent_of_isBlank {l : Text} (h : Text.isBlank l = true) (least : Option Nat)
    : lowerIndent least l = least := by
  rw [lowerIndent, if_pos h]

theorem lowerIndent_of_not_isBlank {l : Text} (h : Text.isBlank l = false) (least : Option Nat)
    : lowerIndent least l = some (least.elim (Text.indent l) (min · (Text.indent l))) := by
  rw [lowerIndent, if_neg (by simp [h])]

theorem exists_foldl_lowerIndent (ls : List Text) (m : Nat)
    : ∃ n, ls.foldl lowerIndent (some m) = some n ∧ n ≤ m ∧
        (∀ l ∈ ls, Text.isBlank l = false → n ≤ Text.indent l) ∧
        ((∃ l ∈ ls, Text.isBlank l = false ∧ Text.indent l = n) ∨ n = m) := by
  induction ls generalizing m with
  | nil => exact ⟨m, rfl, Nat.le_refl m, by simp, .inr rfl⟩
  | cons l ls ih =>
    rw [List.foldl_cons]
    cases hl : Text.isBlank l with
    | true =>
      obtain ⟨n, hn, hle, hshared, hreached⟩ := ih m
      rw [lowerIndent_of_isBlank hl]
      refine ⟨n, hn, hle, ?_, ?_⟩
      . rw [List.forall_mem_cons]
        exact ⟨fun h => absurd (hl.symm.trans h) (by decide), hshared⟩
      . exact hreached.imp_left fun ⟨l', hl', h⟩ => ⟨l', List.mem_cons_of_mem l hl', h⟩
    | false =>
      obtain ⟨n, hn, hle, hshared, hreached⟩ := ih (min m (Text.indent l))
      rw [lowerIndent_of_not_isBlank hl]
      refine ⟨n, hn, by omega, ?_, ?_⟩
      . rw [List.forall_mem_cons]
        exact ⟨fun _ => by omega, hshared⟩
      . obtain ⟨l', hl', h⟩ | rfl := hreached
        . exact .inl ⟨l', List.mem_cons_of_mem l hl', h⟩
        . obtain hmin | hmin := Nat.le_total m (Text.indent l)
          . exact .inr (Nat.min_eq_left hmin)
          . exact .inl ⟨l, List.mem_cons_self, hl, (Nat.min_eq_right hmin).symm⟩

theorem isCommonIndent_commonIndent (ls : List Text) : IsCommonIndent ls (commonIndent ls) := by
  unfold IsCommonIndent commonIndent
  induction ls with
  | nil => simp
  | cons l ls ih =>
    rw [List.foldl_cons, List.forall_mem_cons, List.forall_mem_cons]
    cases hl : Text.isBlank l with
    | true =>
      rw [lowerIndent_of_isBlank hl]
      refine ⟨⟨by simp, ih.1⟩, ?_⟩
      obtain ⟨l', hl', h⟩ | ⟨hblank, hzero⟩ := ih.2
      . exact .inl ⟨l', List.mem_cons_of_mem l hl', h⟩
      . exact .inr ⟨⟨rfl, hblank⟩, hzero⟩
    | false =>
      obtain ⟨n, hn, hle, hshared, hreached⟩ := exists_foldl_lowerIndent ls (Text.indent l)
      rw [lowerIndent_of_not_isBlank hl, Option.elim_none, hn, Option.getD_some]
      refine ⟨⟨fun _ => hle, hshared⟩, .inl ?_⟩
      obtain ⟨l', hl', h⟩ | rfl := hreached
      . exact ⟨l', List.mem_cons_of_mem l hl', h⟩
      . exact ⟨l, List.mem_cons_self, hl, rfl⟩

theorem take_append_selected {α : Type} (xs : List α) {i j : Nat} (h : i ≤ j)
    : xs.take i ++ (xs.take j).drop i ++ xs.drop j = xs := by
  have htake : (xs.take j).take i = xs.take i := by rw [List.take_take, Nat.min_eq_left h]
  rw [← htake, List.take_append_drop, List.take_append_drop]

theorem check_eq_ok (hfirst : 1 ≤ r.first) (hlast : r.first ≤ r.last) : r.check = .ok () := by
  rw [check, if_neg (by omega), if_neg (by omega)]

theorem exists_select (hfirst : 1 ≤ r.first) (hlast : r.first ≤ r.last)
    (hend : r.last ≤ (Text.lines (Text.normalizeNewlines text)).length)
    : ∃ s selected, r.select text = .ok s ∧
        Text.lines (Text.normalizeNewlines text) = s.before ++ selected ++ s.after ∧
        (s.before.length : Int) = r.first - 1 ∧ (selected.length : Int) = r.last - r.first + 1 ∧
        s.indent = spaces (commonIndent selected) ∧
        s.text = Text.unlines (selected.map (Text.dropLeading s.indent)) := by
  generalize hlines : Text.lines (Text.normalizeNewlines text) = ls at hend
  have hin : ¬ r.last > (ls.length : Int) := by omega
  have hselect : r.select text = .ok {
      before := ls.take (r.first.toNat - 1)
      indent := spaces (commonIndent ((ls.take r.last.toNat).drop (r.first.toNat - 1)))
      text := Text.unlines (((ls.take r.last.toNat).drop (r.first.toNat - 1)).map
        (Text.dropLeading
          (spaces (commonIndent ((ls.take r.last.toNat).drop (r.first.toNat - 1))))))
      after := ls.drop r.last.toNat } := by
    simp only [select, check_eq_ok hfirst hlast, hlines]
    rw [if_neg hin]
    rfl
  refine ⟨_, _, hselect, (take_append_selected ls (by omega)).symm, ?_, ?_, rfl, rfl⟩
  . rw [List.length_take]
    omega
  . rw [List.length_drop, List.length_take]
    omega

theorem lines_replace {s : Selection} (hbefore : ∀ l ∈ s.before, newline ∉ l)
    (hafter : ∀ l ∈ s.after, newline ∉ l) (hindent : newline ∉ s.indent) (out : Text)
    : Text.lines (s.replace out) =
        s.before ++ (Text.lines (Text.dropTrailing [newline] out)).map
        (reindent s.indent) ++ s.after := by
  unfold Selection.replace
  apply Text.lines_unlines
  . simp [Text.lines_ne_nil]
  . intro l hl
    rw [List.mem_append, List.mem_append, List.mem_map] at hl
    obtain (hl | ⟨l, hl, rfl⟩) | hl := hl
    . exact hbefore l hl
    . unfold reindent
      split
      . simp
      . rw [List.mem_append, not_or]
        exact ⟨hindent, Text.newline_not_mem_of_mem_lines hl⟩
    . exact hafter l hl

theorem reindent_dropLeading {l : Text} (hl : Text.isBlank l = false) (h : n ≤ Text.indent l)
    : reindent (spaces n) (Text.dropLeading (spaces n) l) = l ∧
      Text.dropLeading (spaces n) l ≠ [] := by
  obtain ⟨rest, rfl⟩ := Text.exists_eq_spaces_append h
  have hne : rest ≠ [] := by
    rintro rfl
    rw [List.append_nil, Text.isBlank_spaces] at hl
    cases hl
  rw [Text.dropLeading_append, reindent, if_neg (by simpa using hne)]
  exact ⟨rfl, hne⟩

theorem map_reindent_lines {selected : List Text} (out : Text) (hne : selected ≠ [])
    (hlines : ∀ l ∈ selected, newline ∉ l) (hcontent : ∀ l ∈ selected, Text.isBlank l = false)
    (hn : IsCommonIndent selected n)
    (hout : out = Text.unlines (selected.map (Text.dropLeading (spaces n))) ∨
      out = Text.unlines (selected.map (Text.dropLeading (spaces n))) ++ [newline])
    : (Text.lines (Text.dropTrailing [newline] out)).map (reindent (spaces n)) = selected := by
  have hdedented : ∀ l ∈ selected.map (Text.dropLeading (spaces n)), newline ∉ l := by
    intro l' hl' hnewline
    obtain ⟨l, hl, rfl⟩ := List.mem_map.mp hl'
    exact hlines l hl ((Text.dropLeading_suffix _ l).subset hnewline)
  have hlast : (Text.unlines (selected.map (Text.dropLeading (spaces n)))).getLast? ≠
    some newline := by
    obtain ⟨l, hl⟩ := Option.ne_none_iff_exists'.mp (List.getLast?_eq_none_iff.not.mpr hne)
    have hmem := List.mem_of_getLast? hl
    have hmap : (selected.map (Text.dropLeading (spaces n))).getLast? =
      some (Text.dropLeading (spaces n) l) := by
      rw [List.getLast?_map, hl, Option.map_some]
    have hends := (reindent_dropLeading (hcontent l hmem) (hn.1 l hmem (hcontent l hmem))).2
    rw [Text.getLast?_unlines hmap hends]
    intro hnewline
    exact hdedented _ (List.mem_map_of_mem hmem) (List.mem_of_getLast? hnewline)
  have hdrop : Text.dropTrailing [newline] out = Text.unlines
    (selected.map (Text.dropLeading (spaces n))) := by
    obtain rfl | rfl := hout
    . exact Text.dropTrailing_newline_of_ne hlast
    . exact Text.dropTrailing_append _ _
  rw [hdrop, Text.lines_unlines (by simpa using hne) hdedented, List.map_map]
  conv_rhs => rw [← List.map_id selected]
  exact List.map_congr_left fun l hl =>
    (reindent_dropLeading (hcontent l hl) (hn.1 l hl (hcontent l hl))).1

/--
An operation on a range of lines gets the selected lines without the indentation they share. The
lines before and after the range stay as they are, and the lines of its answer stand between them
with that indentation, unless they are empty. If every selected line has content and the answer is
what was asked, with a newline or not, nothing changes.
-/
theorem apply_replaces_selection (fault : RangeFault → ε) (f : Text → Except ε Text)
    (hfirst : 1 ≤ r.first) (hlast : r.first ≤ r.last)
    (hend : r.last ≤ (Text.lines (Text.normalizeNewlines text)).length)
    : ∃ before selected after n, Text.lines (Text.normalizeNewlines text) = before ++
      selected ++ after ∧
        (before.length : Int) = r.first - 1 ∧ (selected.length : Int) = r.last - r.first + 1 ∧
        IsCommonIndent selected n ∧
        (∀ out, f (Text.unlines (selected.map (Text.dropLeading (spaces n)))) = .ok out →
          ∃ result, r.apply fault f text = .ok result ∧ Text.lines result = before ++
            (Text.lines (Text.dropTrailing [newline] out)).map
            (fun l => if l = [] then [] else spaces n ++ l) ++
            after) ∧
        ((∀ l ∈ selected, Text.isBlank l = false) →
          (∃ out ∈ [[], [newline]], f (Text.unlines (selected.map (Text.dropLeading (spaces n)))) =
            .ok (Text.unlines (selected.map (Text.dropLeading (spaces n))) ++ out)) →
          r.apply fault f text = .ok (Text.normalizeNewlines text)) := by
  obtain ⟨s, selected, hselect, hlines, hbefore, hselected, hspaces, htext⟩ :=
    exists_select hfirst hlast hend
  have hindent := isCommonIndent_commonIndent selected
  have hnewline : ∀ l ∈ s.before ++ selected ++ s.after, newline ∉ l :=
    fun l hl => Text.newline_not_mem_of_mem_lines (hlines ▸ hl)
  generalize commonIndent selected = n at hindent hspaces
  rw [hspaces] at htext
  have hreplace (out : Text) : Text.lines (s.replace out) =
      s.before ++ (Text.lines (Text.dropTrailing [newline] out)).map (reindent (spaces n)) ++
      s.after := by
    rw [← hspaces]
    refine lines_replace (fun l hl => hnewline l (by simp [hl]))
      (fun l hl => hnewline l (by simp [hl])) ?_ out
    rw [hspaces]
    exact fun h => absurd (List.eq_of_mem_replicate h) (by decide)
  have happly {out : Text} (hout : f s.text = .ok out) : r.apply fault f text =
    .ok (s.replace out) := by
    rw [apply, hselect]
    show (f s.text).bind _ = _
    rw [hout]
    rfl
  rw [htext] at happly
  refine ⟨s.before, selected, s.after, n, hlines, hbefore, hselected, hindent, ?_, ?_⟩
  . intro out hout
    have hreindent : reindent (spaces n) = fun l => if l = [] then [] else spaces n ++ l := by
      funext l
      simp [reindent]
    exact ⟨_, happly hout, by rw [hreplace, hreindent]⟩
  . rintro hcontent ⟨out, hmem, hout⟩
    have hne : selected ≠ [] := by
      rintro rfl
      simp only [List.length_nil] at hselected
      omega
    have hsame := map_reindent_lines
      (Text.unlines (selected.map (Text.dropLeading (spaces n))) ++ out) hne
      (fun l hl => hnewline l (by simp [hl])) hcontent hindent (by simpa using hmem)
    rw [happly hout, ← Text.unlines_lines (s.replace _), hreplace, hsame, ← hlines,
      Text.unlines_lines]

/-- Three of five lines in reverse: the blank one has no part in the indentation, and gets none. -/
theorem apply_replaces_selection_reversed
    : (1 : Int) ≤ 2 ∧ (2 : Int) ≤ 4 ∧
      (4 : Int) ≤ (Text.lines (Text.normalizeNewlines "a:\r\n   b: 1\n\n  c: 2\nd: 3")).length ∧
      ∃ result, apply ⟨2, 4⟩ id
      (fun t => .ok (Text.unlines (Text.lines t).reverse)) "a:\r\n   b: 1\n\n  c: 2\nd: 3" =
          .ok result ∧
        Text.lines result = [("a:" : Text), "  c: 2", "", "   b: 1", "d: 3"] := by
  have hfirst : (1 : Int) ≤ 2 := by decide
  have hlast : (2 : Int) ≤ 4 := by decide
  have hend : (4 : Int) ≤
    (Text.lines (Text.normalizeNewlines "a:\r\n   b: 1\n\n  c: 2\nd: 3")).length := by
    decide
  obtain ⟨before, selected, after, n, hlines, hbefore, hselected, hindent, hreplaces, -⟩ :=
    apply_replaces_selection (r := ⟨2, 4⟩) id (fun t => .ok (Text.unlines (Text.lines t).reverse))
    hfirst hlast hend
  have hparts : Text.lines (Text.normalizeNewlines "a:\r\n   b: 1\n\n  c: 2\nd: 3") =
      [("a:" : Text)] ++ [("   b: 1" : Text), "", "  c: 2"] ++ [("d: 3" : Text)] := by
    decide
  rw [hparts] at hlines
  obtain ⟨hfront, rfl⟩ := List.append_inj hlines (by
    simp only [List.length_append, List.length_cons, List.length_nil]
    dsimp only at hselected hbefore
    omega)
  obtain ⟨rfl, rfl⟩ := List.append_inj hfront (by
    simp only [List.length_cons, List.length_nil]
    dsimp only at hbefore
    omega)
  have hn : n = 2 := by
    have hle : n ≤ 2 := hindent.1 _ (by decide : ("  c: 2" : Text) ∈ _) (by decide)
    have hge : ∀ l ∈ [("   b: 1" : Text), "", "  c: 2"], Text.isBlank l = false →
      2 ≤ Text.indent l := by decide
    obtain ⟨l, hl, hcontent, hreached⟩ | ⟨hblank, -⟩ := hindent.2
    . have := hge l hl hcontent
      omega
    . exact absurd (hblank "  c: 2" (by decide)) (by decide)
  subst hn
  obtain ⟨result, hresult, hlines⟩ := hreplaces _ rfl
  exact ⟨hfirst, hlast, hend, result, hresult, hlines.trans (by decide)⟩

variable {s : Text}

/-- A range after notations have been set one after the other. -/
def setAll (r : LineRange) (inputs : List Text) : LineRange :=
    inputs.foldl (fun r s => (r.set s).1) r

/-- A range that selects nothing, or lines that a text can have. -/
def Valid (r : LineRange) : Prop := r = {} ∨ 1 ≤ r.first ∧ r.first ≤ r.last

theorem check_eq_ok_iff : r.check = .ok () ↔ 1 ≤ r.first ∧ r.first ≤ r.last := by
  constructor
  . intro h
    unfold check at h
    split at h
    . cases h
    . split at h
      . cases h
      . omega
  . exact fun h => check_eq_ok h.1 h.2

theorem parse_eq_ok_iff : parse s = .ok r ↔ read s = .ok r ∧ 1 ≤ r.first ∧ r.first ≤ r.last := by
  rw [← check_eq_ok_iff]
  constructor
  . intro h
    obtain ⟨r', hread, h⟩ := Sorter.bind_eq_ok.mp h
    obtain ⟨⟨⟩, hcheck, hr⟩ := Sorter.bind_eq_ok.mp h
    cases hr
    exact ⟨hread, hcheck⟩
  . rintro ⟨hread, hcheck⟩
    exact Sorter.bind_eq_ok.mpr ⟨r, hread, Sorter.bind_eq_ok.mpr ⟨(), hcheck, rfl⟩⟩

theorem read_toText (hzero : r.isZero = false) (hfirst : Text.fitsInt64 r.first = true)
    (hlast : Text.fitsInt64 r.last = true) : read r.toText = .ok r := by
  have hcolon : (58 : UInt8) ∉ Text.ofInt r.first := by
    intro h
    have := Text.toNat_of_mem_ofInt h
    exact absurd this (by decide)
  have htrim (n : Int) : Text.trim (Text.ofInt n) = Text.ofInt n := by
    refine Text.trim_of_graphic fun b hb => ?_
    have := Text.toNat_of_mem_ofInt hb
    omega
  rw [toText, hzero, read, if_neg (by decide), Text.cut?_append_cons hcolon]
  simp only [htrim, Text.toInt_ofInt hfirst, Text.toInt_ofInt hlast]

theorem parse_toText (hfirst : 1 ≤ r.first) (hlast : r.first ≤ r.last)
    (hfits : Text.fitsInt64 r.last = true)
    : parse r.toText = .ok r := by
  have hzero : r.isZero = false := by
    rw [isZero, Bool.and_eq_false_iff]
    exact .inl (by simpa using by omega)
  have hfits' : Text.fitsInt64 r.first = true := by
    simp only [Text.fitsInt64, Bool.and_eq_true, decide_eq_true_eq] at hfits ⊢
    omega
  exact parse_eq_ok_iff.mpr ⟨read_toText hzero hfits' hfits, hfirst, hlast⟩

theorem set_cases (r : LineRange) (s : Text)
    : (∃ r', parse s = .ok r' ∧ r.set s = (r', .ok ())) ∨
        ∃ fault, parse s = .error fault ∧ r.set s = (r, .error fault) := by
  unfold set
  cases h : parse s with
  | ok r' => exact .inl ⟨r', rfl, rfl⟩
  | error fault => exact .inr ⟨fault, rfl, rfl⟩

theorem setAll_eq (r : LineRange) (inputs : List Text)
    : setAll r inputs = ((inputs.filterMap fun s => (parse s).toOption).getLast?).getD r := by
  induction inputs generalizing r with
  | nil => rfl
  | cons s inputs ih =>
    have hcons : setAll r (s :: inputs) = setAll (r.set s).1 inputs := rfl
    rw [hcons, ih]
    obtain ⟨r', hparse, hset⟩ | ⟨fault, hparse, hset⟩ := set_cases r s
    . rw [hset, List.filterMap_cons, hparse]
      exact (congrArg (Option.getD · r) List.getLast?_cons).symm
    . rw [hset, List.filterMap_cons, hparse]
      rfl

theorem set_valid (h : Valid r) (s : Text) : Valid (r.set s).1 := by
  obtain ⟨r', hparse, hset⟩ | ⟨fault, -, hset⟩ := set_cases r s
  . rw [hset]
    exact .inr (parse_eq_ok_iff.mp hparse).2
  . rwa [hset]

theorem setAll_valid (h : Valid r) (inputs : List Text) : Valid (setAll r inputs) := by
  induction inputs generalizing r with
  | nil => exact h
  | cons s inputs ih => exact ih (set_valid h s)

/--
A range that is set to one notation after the other is valid at any time. It is the last one that
could be read, since any other notation changes nothing. A range of 64 bits that selects lines is
read back from its own notation.
-/
theorem setAll_last_parsed
    : (∀ inputs : List Text, Valid (setAll {} inputs) ∧
          setAll {} inputs = ((inputs.filterMap fun s => (parse s).toOption).getLast?).getD {}) ∧
        (∀ (r : LineRange) (s : Text), (∃ r', parse s = .ok r' ∧ r.set s = (r', .ok ())) ∨
          ∃ fault, parse s = .error fault ∧ r.set s = (r, .error fault)) ∧
        ∀ r : LineRange, 1 ≤ r.first → r.first ≤ r.last → Text.fitsInt64 r.last = true →
        parse r.toText = .ok r :=
  ⟨fun inputs => ⟨setAll_valid (.inl rfl) inputs, setAll_eq {} inputs⟩, set_cases,
  fun _ => parse_toText⟩

/-- Notations with spaces, a sign and zeros, the largest range, and two that cannot be used. -/
theorem setAll_last_parsed_largest
    : setAll {} ["4:7", "7:4", " +010 :\t0012", "12"] = ⟨10, 12⟩ ∧
      (1 : Int) ≤ 9223372036854775806 ∧ (9223372036854775806 : Int) ≤ 9223372036854775807 ∧
      Text.fitsInt64 9223372036854775807 = true ∧
      parse (toText ⟨9223372036854775806, 9223372036854775807⟩) =
      .ok ⟨9223372036854775806, 9223372036854775807⟩ := by
  have hlast := (setAll_last_parsed.1 ["4:7", "7:4", " +010 :\t0012", "12"]).2
  exact ⟨hlast.trans (by decide), by decide, by decide, by decide,
    setAll_last_parsed.2.2 ⟨9223372036854775806, 9223372036854775807⟩ (by decide) (by decide)
    (by decide)⟩

end LineRange
end YamlOrder
