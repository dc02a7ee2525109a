import Mathlib.Data.List.TakeWhile
import YamlOrder.Layout.Basic
import YamlOrder.Proofs.Text.Blank
import YamlOrder.Proofs.Text.Search

/-!
This module contains the rule by which blank lines are added: every line but the first one that is a
key less than `levels` levels deep gets one empty line before it, and nothing else changes. A line
is a key at one level at most, so the levels that are treated one after the other add the lines that
a single look at the text would.
-/

namespace YamlOrder
namespace Layout

variable {indent level levels : Nat} {l t u : Text} {P Q : Text → Bool}

/-- Whether a text starts with a key that is nested less than `levels` deep. -/
def startsKeyBelow (indent levels : Nat) (t : Text) : Bool :=
  (List.range levels).any fun level => startsKey indent level t

theorem head?_dropWhile_append {p : UInt8 → Bool} {b c : UInt8} (hb : p b = false) (hc : b ≠ c)
    (l u : Text)
    : (((l ++ b :: u).dropWhile p).head? == some c) = ((l.dropWhile p).head? == some c) := by
  induction l with
  | nil => simp [hb, hc]
  | cons a l ih =>
    simp only [List.cons_append, List.dropWhile_cons]
    split
    . exact ih
    . rfl

theorem startsTopKey_append (l u : Text)
    : startsTopKey (l ++ Text.newline :: u) = startsTopKey l := by
  cases l with
  | nil => rfl
  | cons b l =>
    simp only [List.cons_append, startsTopKey]
    rw [head?_dropWhile_append (by decide) (by decide)]

theorem isPrefixOf_spaces_append (n : Nat) (l u : Text)
    : (Text.spaces n).isPrefixOf (l ++ Text.newline :: u) = (Text.spaces n).isPrefixOf l := by
  induction n generalizing l with
  | zero => simp [Text.spaces]
  | succ n ih =>
    cases l with
    | nil => rfl
    | cons b l => exact congrArg (Text.space == b && ·) (ih l)

theorem startsNestedKey_append (n : Nat) (l u : Text)
    : startsNestedKey n (l ++ Text.newline :: u) = startsNestedKey n l := by
  unfold startsNestedKey
  rw [isPrefixOf_spaces_append]
  by_cases hspaces : (Text.spaces n).isPrefixOf l = true
  . obtain ⟨w, rfl⟩ := List.isPrefixOf_iff_prefix.mp hspaces
    have hlength : (Text.spaces n).length = n := List.length_replicate
    have hdrop (x : Text) : (Text.spaces n ++ x).drop n = x := by
      rw [List.drop_append_of_le_length hlength.ge, List.drop_eq_nil_of_le hlength.le,
        List.nil_append]
    have hword : (w ++ Text.newline :: u).takeWhile isWordByte = w.takeWhile isWordByte := by
      rw [List.takeWhile_append]
      split
      . next hall =>
        rw [(List.takeWhile_prefix isWordByte).eq_of_length hall,
          List.takeWhile_cons_of_neg (by decide),
          List.append_nil]
      . rfl
    dsimp only
    rw [List.append_assoc, hdrop, hdrop, head?_dropWhile_append (by decide) (by decide), hword]
  . rw [Bool.not_eq_true] at hspaces
    simp only [hspaces, Bool.false_and]

theorem startsKey_nil (indent level : Nat) : startsKey indent level [] = false := by
  unfold startsKey
  split
  . rfl
  . simp [startsNestedKey]

theorem startsKey_append (indent level : Nat) (l u : Text)
    : startsKey indent level (l ++ Text.newline :: u) = startsKey indent level l := by
  unfold startsKey
  split
  . exact startsTopKey_append l u
  . exact startsNestedKey_append _ l u

theorem exists_of_startsTopKey (h : startsTopKey t = true)
    : ∃ b u, t = b :: u ∧ isBlankByte b = false ∧ b ≠ 35 ∧ b ≠ 45 := by
  cases t with
  | nil => cases h
  | cons b t =>
    simp only [startsTopKey, Bool.and_eq_true, Bool.not_eq_true', bne_iff_ne] at h
    exact ⟨b, t, rfl, h.1.1.1, h.1.1.2, h.1.2⟩

theorem exists_of_startsNestedKey {n : Nat} (h : startsNestedKey n t = true)
    : ∃ b u, t = Text.spaces n ++ b :: u ∧ isWordByte b = true := by
  simp only [startsNestedKey, Bool.and_eq_true, bne_iff_ne] at h
  obtain ⟨⟨hspaces, hword⟩, -⟩ := h
  obtain ⟨w, rfl⟩ := List.isPrefixOf_iff_prefix.mp hspaces
  have hlength : (Text.spaces n).length = n := List.length_replicate
  rw [List.drop_append_of_le_length hlength.ge, List.drop_eq_nil_of_le hlength.le,
    List.nil_append] at hword
  cases w with
  | nil => exact absurd rfl hword
  | cons b w =>
    refine ⟨b, w, rfl, ?_⟩
    by_contra hb
    exact hword (by rw [List.takeWhile_cons_of_neg hb, List.length_nil])

theorem not_isBlankByte_of_isWordByte {b : UInt8} (h : isWordByte b = true)
    : isBlankByte b = false ∧ b ≠ 35 := by
  constructor
  . by_contra hb
    simp only [isBlankByte, Bool.not_eq_false, Bool.or_eq_true, beq_iff_eq] at hb
    obtain (((rfl | rfl) | rfl) | rfl) | rfl := hb
    all_goals cases h
  . rintro rfl
    cases h

theorem exists_of_startsKey (h : startsKey indent level t = true)
    : ∃ b u, t = Text.spaces (level * indent) ++ b :: u ∧ isBlankByte b = false ∧ b ≠ 35 := by
  unfold startsKey at h
  split at h
  . next hlevel =>
    obtain ⟨b, u, rfl, hb, hnumber, -⟩ := exists_of_startsTopKey h
    rw [beq_iff_eq] at hlevel
    exact ⟨b, u, by simp [hlevel, Text.spaces], hb, hnumber⟩
  . obtain ⟨b, u, rfl, hb⟩ := exists_of_startsNestedKey h
    obtain ⟨hblank, hnumber⟩ := not_isBlankByte_of_isWordByte hb
    exact ⟨b, u, rfl, hblank, hnumber⟩

theorem eq_of_spaces_append {m n : Nat} {b c : UInt8} {x y : Text} (hb : isBlankByte b = false)
    (hc : isBlankByte c = false) (h : Text.spaces m ++ b :: x = Text.spaces n ++ c :: y)
    : m = n := by
  have hspace : isBlankByte Text.space = true := rfl
  induction m generalizing n with
  | zero =>
    cases n with
    | zero => rfl
    | succ n =>
      simp only [Text.spaces, List.replicate_zero, List.replicate_succ, List.nil_append,
        List.cons_append,
        List.cons.injEq] at h
      rw [h.1, hspace] at hb
      cases hb
  | succ m ih =>
    cases n with
    | zero =>
      simp only [Text.spaces, List.replicate_zero, List.replicate_succ, List.nil_append,
        List.cons_append,
        List.cons.injEq] at h
      rw [← h.1, hspace] at hc
      cases hc
    | succ n =>
      simp only [Text.spaces, List.replicate_succ, List.cons_append, List.cons.injEq, true_and] at h
      rw [ih h]

theorem eq_of_startsKey {level' : Nat} (hindent : 0 < indent) (h : startsKey indent level t = true)
    (h' : startsKey indent level' t = true) : level = level' := by
  obtain ⟨b, u, rfl, hb, -⟩ := exists_of_startsKey h
  obtain ⟨b', u', heq, hb', -⟩ := exists_of_startsKey h'
  exact Nat.eq_of_mul_eq_mul_right hindent (eq_of_spaces_append hb hb' heq)

theorem insertBlank_append (hl : Text.newline ∉ l) (t : Text)
    : insertBlank P (l ++ t) = l ++ insertBlank P t := by
  induction l with
  | nil => rfl
  | cons b l ih =>
    rw [List.mem_cons, not_or] at hl
    have hb : (b == Text.newline) = false := beq_eq_false_iff_ne.mpr (Ne.symm hl.1)
    simp only [List.cons_append, insertBlank, hb, Bool.false_and, Bool.false_eq_true,
      if_false, ih hl.2]

theorem exists_line (t : Text)
    : ∃ l, Text.newline ∉ l ∧ (t = l ∨ ∃ u, t = l ++ Text.newline :: u) := by
  induction t with
  | nil => exact ⟨[], by simp, .inl rfl⟩
  | cons b t ih =>
    by_cases hb : b = Text.newline
    . exact ⟨[], by simp, .inr ⟨t, by rw [hb, List.nil_append]⟩⟩
    . obtain ⟨l, hl, hcases⟩ := ih
      refine ⟨b :: l, by simp [hl, Ne.symm hb], ?_⟩
      obtain rfl | ⟨u, rfl⟩ := hcases
      . exact .inl rfl
      . exact .inr ⟨u, rfl⟩

theorem startsKey_insertBlank (indent level : Nat) (P : Text → Bool) (t : Text)
    : startsKey indent level (insertBlank P t) = startsKey indent level t := by
  obtain ⟨l, hl, rfl | ⟨u, rfl⟩⟩ := exists_line t
  . have := insertBlank_append (P := P) hl []
    rw [List.append_nil] at this
    rw [this, insertBlank, List.append_nil]
  . have : ∃ v, insertBlank P (Text.newline :: u) = Text.newline :: v := by
      unfold insertBlank
      split
      . exact ⟨_, rfl⟩
      . exact ⟨_, rfl⟩
    obtain ⟨v, hv⟩ := this
    rw [insertBlank_append hl, hv, startsKey_append, startsKey_append]

theorem insertBlank_insertBlank (hempty : ∀ t, Q (Text.newline :: t) = false)
    (hkeep : ∀ t, Q (insertBlank P t) = Q t) (honce : ∀ t, P t = true → Q t = false) (t : Text)
    : insertBlank Q (insertBlank P t) = insertBlank (fun t => P t || Q t) t := by
  induction t with
  | nil => rfl
  | cons b t ih =>
    by_cases hb : (b == Text.newline) = true
    . cases hP : P t with
      | true => simp [insertBlank, hb, hP, hempty, hkeep, honce t hP, ih]
      | false => simp [insertBlank, hb, hP, hkeep, ih]
    . rw [Bool.not_eq_true] at hb
      simp [insertBlank, hb, ih]

theorem addBlankLines_eq {text out : Text} (hindent : 0 < indent)
    (h : addBlankLines text levels indent = some out)
    : out = insertBlank (startsKeyBelow indent levels) text := by
  unfold addBlankLines at h
  split at h
  . next hfit =>
    rw [Option.some.injEq] at h
    rw [← h]
    clear h hfit
    induction levels with
    | zero =>
      have (t : Text) : insertBlank (startsKeyBelow indent 0) t = t := by
        induction t with
        | nil => rfl
        | cons b t ih => simpa [insertBlank, startsKeyBelow] using ih
      exact (this text).symm
    | succ levels ih =>
      rw [List.range_succ, List.foldl_append, List.foldl_cons, List.foldl_nil, ih,
        insertBlank_insertBlank]
      . congr 1
        funext t
        simp [startsKeyBelow, List.range_succ]
      . intro t
        exact (startsKey_append indent levels [] t).trans (startsKey_nil indent levels)
      . exact startsKey_insertBlank indent levels _
      . intro t ht
        obtain ⟨level, hlevel, hkey⟩ := List.any_eq_true.mp ht
        by_contra hne
        rw [Bool.not_eq_false] at hne
        have := eq_of_startsKey hindent hkey hne
        rw [List.mem_range] at hlevel
        omega
  . cases h

variable {n : Nat} {line text : Text}

/--
A key of the outermost level: it does not start with a blank, `#` or `-`, and has a colon after its
first byte.
-/
def IsTopKeyLine (line : Text) : Prop :=
  ∃ b rest, line = b :: rest ∧ b ∉ [Text.tab, 12, Text.carriageReturn, Text.space, 35, 45] ∧
  58 ∈ rest

/-- A key that is indented by exactly `n` spaces: a word and a colon follow them. -/
def IsNestedKeyLine (n : Nat) (line : Text) : Prop :=
  ∃ word rest, line = Text.spaces n ++ word ++ 58 :: rest ∧ word ≠ [] ∧ ∀ b ∈ word,
  isWordByte b = true

/-- A line that is a key `level` levels deep. -/
def IsKeyLine (indent level : Nat) (line : Text) : Prop :=
  if level = 0 then IsTopKeyLine line else IsNestedKeyLine (level * indent) line

theorem head?_dropWhile_of_mem {c : UInt8} (hline : Text.newline ∉ line)
    : (line.dropWhile fun b => b != Text.newline && b != c).head? = some c ↔ c ∈ line := by
  induction line with
  | nil => simp
  | cons b line ih =>
    rw [List.mem_cons, not_or] at hline
    rw [List.dropWhile_cons, List.mem_cons]
    by_cases hb : b = c
    . simp [hb]
    . have hpass : (b != Text.newline && b != c) = true := by simp [hb, Ne.symm hline.1]
      rw [if_pos hpass, ih hline.2]
      simp [Ne.symm hb]

theorem startsTopKey_iff (hline : Text.newline ∉ line)
    : startsTopKey line = true ↔ IsTopKeyLine line := by
  cases line with
  | nil => simp [startsTopKey, IsTopKeyLine]
  | cons b rest =>
    rw [List.mem_cons, not_or] at hline
    have hhead := head?_dropWhile_of_mem (c := 58) hline.2
    have hb : b ≠ 10 := Ne.symm hline.1
    simp only [startsTopKey, Bool.and_eq_true, beq_iff_eq, hhead]
    simp [IsTopKeyLine, isBlankByte, Text.tab, Text.carriageReturn, Text.space, hb, and_assoc]

theorem startsNestedKey_iff : startsNestedKey n line = true ↔ IsNestedKeyLine n line := by
  constructor
  . intro h
    simp only [startsNestedKey, Bool.and_eq_true, beq_iff_eq, bne_iff_ne] at h
    obtain ⟨⟨hspaces, hword⟩, hcolon⟩ := h
    obtain ⟨after, rfl⟩ := List.isPrefixOf_iff_prefix.mp hspaces
    rw [Text.drop_spaces_append] at hword hcolon
    obtain ⟨rest, hrest⟩ := List.head?_eq_some_iff.mp hcolon
    refine ⟨after.takeWhile isWordByte, rest, ?_, ?_, fun b => List.mem_takeWhile_imp⟩
    . rw [List.append_assoc, ← hrest, List.takeWhile_append_dropWhile]
    . exact List.ne_nil_of_length_pos (Nat.pos_of_ne_zero hword)
  . rintro ⟨word, rest, rfl, hne, hword⟩
    have hspaces : (Text.spaces n).isPrefixOf (Text.spaces n ++ (word ++ 58 :: rest)) = true :=
      List.isPrefixOf_iff_prefix.mpr (List.prefix_append _ _)
    have hcolon : isWordByte 58 = false := by decide
    rw [startsNestedKey, List.append_assoc, hspaces, Text.drop_spaces_append,
      List.takeWhile_append_of_pos hword,
      List.dropWhile_append_of_pos hword, List.takeWhile_cons_of_neg (by simp [hcolon]),
      List.dropWhile_cons_of_neg (by simp [hcolon])]
    simp [hne]

theorem startsKey_iff (hline : Text.newline ∉ line)
    : startsKey indent level line = true ↔ IsKeyLine indent level line := by
  unfold startsKey IsKeyLine
  by_cases hlevel : level = 0
  . simp only [hlevel, beq_self_eq_true, if_true, startsTopKey_iff hline]
  . simp only [beq_eq_false_iff_ne.mpr hlevel, hlevel, Bool.false_eq_true, if_false,
      startsNestedKey_iff]

instance (line : Text) : Decidable (IsTopKeyLine line) :=
  match line with
  | [] => .isFalse fun ⟨_, _, h, _⟩ => List.cons_ne_nil _ _ h.symm
  | b :: rest =>
    decidable_of_iff (b ∉ [Text.tab, 12, Text.carriageReturn, Text.space, 35, 45] ∧ 58 ∈ rest)
      ⟨fun h => ⟨b, rest, rfl, h⟩, fun ⟨_, _, h, hrest⟩ => by cases h; exact hrest⟩

instance (n : Nat) (line : Text) : Decidable (IsNestedKeyLine n line) :=
    decidable_of_iff _ startsNestedKey_iff

instance (indent level : Nat) (line : Text) : Decidable (IsKeyLine indent level line) :=
  inferInstanceAs
  (Decidable (if level = 0 then IsTopKeyLine line else IsNestedKeyLine (level * indent) line))

theorem startsKeyBelow_iff (hline : Text.newline ∉ line)
    : startsKeyBelow indent levels line = true ↔ ∃ level < levels, IsKeyLine indent level line := by
  simp only [startsKeyBelow, List.any_eq_true, List.mem_range, startsKey_iff hline]

theorem lines_insertBlank (hP : ∀ l u, P (l ++ Text.newline :: u) = P l) {first : Text}
    {rest : List Text} (h : Text.lines text = first :: rest)
    : Text.lines (insertBlank P text) = first :: rest.flatMap fun l => if P l then [[], l]
      else [l] := by
  induction rest generalizing text first with
  | nil =>
    have htext : text = first := by rw [← Text.unlines_lines text, h, Text.unlines_singleton]
    have hfirst : Text.newline ∉ first := Text.newline_not_mem_of_mem_lines (h ▸ List.mem_cons_self)
    have hinsert := insertBlank_append (P := P) hfirst []
    rw [List.append_nil] at hinsert
    rw [htext, hinsert, insertBlank, List.append_nil, List.flatMap_nil]
    exact Text.lines_of_not_mem hfirst
  | cons second rest ih =>
    have htext : text = first ++ Text.newline :: Text.unlines (second :: rest) := by
      rw [← Text.unlines_lines text, h, Text.unlines_cons_cons]
    have hlines : ∀ l ∈ first :: second :: rest, Text.newline ∉ l :=
      fun l hl => Text.newline_not_mem_of_mem_lines (h ▸ hl)
    rw [List.forall_mem_cons] at hlines
    have hkey : P (Text.unlines (second :: rest)) = P second := by
      cases rest with
      | nil => rw [Text.unlines_singleton]
      | cons third rest => rw [Text.unlines_cons_cons, hP]
    have hrest := ih (Text.lines_unlines (by simp) hlines.2)
    rw [htext, insertBlank_append hlines.1, insertBlank, hkey, List.flatMap_cons]
    simp only [beq_self_eq_true, Bool.true_and]
    split
    . rw [Text.lines_append_newline hlines.1, ← List.nil_append (Text.newline :: insertBlank P _),
        Text.lines_append_newline (by simp), hrest]
      rfl
    . rw [Text.lines_append_newline hlines.1, hrest, List.singleton_append]

/--
The lines with the added blank lines are the lines of the text with one empty line before each of
them, the first one apart, that is a key nested less than `levels` levels deep.
-/
theorem lines_addBlankLines (hindent : 0 < indent) (hfit : (levels - 1) * indent ≤ 1000)
    (text : Text)
    : ∃ out first rest, addBlankLines text levels indent = some out ∧
      Text.lines text = first :: rest ∧
        Text.lines out = first :: rest.flatMap fun line =>
          if ∃ level < levels, IsKeyLine indent level line then [[], line] else [line] := by
  obtain ⟨first, rest, hlines⟩ := List.exists_cons_of_ne_nil (Text.lines_ne_nil text)
  have hfits : blankLinesFit levels indent = true := decide_eq_true hfit
  have hadds : ∃ out, addBlankLines text levels indent = some out := by
    rw [addBlankLines, if_pos hfits]
    exact ⟨_, rfl⟩
  obtain ⟨out, hout⟩ := hadds
  have hkeeps (l u : Text) : startsKeyBelow indent levels (l ++ Text.newline :: u) =
    startsKeyBelow indent levels l := by
    simp only [startsKeyBelow, startsKey_append]
  refine ⟨out, first, rest, hout, hlines, ?_⟩
  rw [addBlankLines_eq hindent hout, lines_insertBlank hkeeps hlines]
  congr 1
  refine List.flatMap_congr fun line hline => ?_
  have hnewline : Text.newline ∉ line :=
    Text.newline_not_mem_of_mem_lines (hlines ▸ List.mem_cons_of_mem _ hline)
  simp only [startsKeyBelow_iff hnewline]

/--
A comment, a key with a colon as its first byte, and keys of two levels of three that are treated.
-/
theorem lines_addBlankLines_nested
    : 0 < 2 ∧ (2 - 1) * 2 ≤ 1000 ∧
      ∃ out, addBlankLines "a:\n  b:\n    c: 1\n#d: 2\n::\n  e : 3\n" 2 2 = some out ∧
        Text.lines out = [("a:" : Text), "", "  b:", "    c: 1", "#d: 2", "", "::",
          "  e : 3", ""] := by
  have hindent : 0 < 2 := by decide
  have hfit : (2 - 1) * 2 ≤ 1000 := by decide
  obtain ⟨out, first, rest, hout, htext, hlines⟩ :=
    lines_addBlankLines hindent hfit ("a:\n  b:\n    c: 1\n#d: 2\n::\n  e : 3\n" : Text)
  have hsplit : Text.lines ("a:\n  b:\n    c: 1\n#d: 2\n::\n  e : 3\n" : Text)
      = [("a:" : Text), "  b:", "    c: 1", "#d: 2", "::", "  e : 3", ""] := by
    decide
  rw [hsplit, List.cons.injEq] at htext
  obtain ⟨rfl, rfl⟩ := htext
  exact ⟨hindent, hfit, out, hout, hlines.trans (by decide)⟩

end Layout
end YamlOrder
