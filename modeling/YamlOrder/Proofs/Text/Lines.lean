import Mathlib.Data.List.DropRight
import Mathlib.Data.List.Forall2
import Mathlib.Data.List.TakeWhile
import YamlOrder.Proofs.Text.Search

/-!
This module contains the theory of lines: a text is its lines with newlines between them, and what
holds no newline can only be found inside of one line. At the end are the newlines at the end of a
text, and line ends of two bytes.
-/

namespace YamlOrder
namespace Text

variable {t u a l : Text} {ls ms : List Text}

theorem not_mem_of_mem_splitOn {sep : UInt8} (h : l ∈ splitOn sep t) : sep ∉ l := by
  induction t generalizing l with
  | nil => simp_all [splitOn]
  | cons b t ih =>
    simp only [splitOn] at h
    split at h
    . cases h with
      | head => simp
      | tail _ h => exact ih h
    . next hb =>
      have hb : sep ≠ b := by
        rintro rfl
        simp at hb
      split at h
      . next hnil => exact absurd hnil (splitOn_ne_nil _ _)
      . next piece pieces hsplit =>
        rw [hsplit] at ih
        cases h with
        | head => simpa [hb] using ih List.mem_cons_self
        | tail _ h => exact ih (List.mem_cons_of_mem _ h)

theorem splitOn_of_not_mem {sep : UInt8} (h : sep ∉ t) : splitOn sep t = [t] := by
  induction t with
  | nil => rfl
  | cons b t ih =>
    simp only [List.mem_cons, not_or] at h
    have hb : (b == sep) = false := beq_eq_false_iff_ne.mpr (Ne.symm h.1)
    simp [splitOn, hb, ih h.2]

theorem splitOn_append_cons (sep : UInt8) (t u : Text)
    : splitOn sep (t ++ sep :: u) = splitOn sep t ++ splitOn sep u := by
  induction t with
  | nil => simp [splitOn]
  | cons b t ih =>
    simp only [List.cons_append, splitOn, ih]
    split
    . rfl
    . cases h : splitOn sep t with
      | nil => exact absurd h (splitOn_ne_nil _ _)
      | cons piece pieces => rfl

theorem splitOn_intercalate (sep : UInt8) {ts : List Text} (h : ts ≠ [])
    : splitOn sep (List.intercalate [sep] ts) = ts.flatMap (splitOn sep) := by
  induction ts with
  | nil => exact absurd rfl h
  | cons t ts ih =>
    cases ts with
    | nil => simp [List.intercalate]
    | cons u ts =>
      rw [List.intercalate_cons_cons, List.flatMap_cons, ← ih (by simp)]
      simp [splitOn_append_cons]

theorem newline_not_mem_of_mem_lines {t l : Text} (h : l ∈ lines t) : newline ∉ l :=
    not_mem_of_mem_splitOn h

theorem lines_ne_nil (t : Text) : lines t ≠ [] := splitOn_ne_nil _ _

theorem lines_of_not_mem (h : newline ∉ t) : lines t = [t] := splitOn_of_not_mem h

theorem lines_append_newline (h : newline ∉ l) : lines (l ++ newline :: t) = l :: lines t := by
  rw [lines, splitOn_append_cons, splitOn_of_not_mem h, List.singleton_append, lines]

theorem lines_unlines (hls : ls ≠ []) (h : ∀ l ∈ ls, newline ∉ l) : lines (unlines ls) = ls := by
  induction ls with
  | nil => exact absurd rfl hls
  | cons l ls ih =>
    simp only [List.mem_cons, forall_eq_or_imp] at h
    cases ls with
    | nil => simpa using lines_of_not_mem h.1
    | cons m ls => rw [unlines_cons_cons, lines_append_newline h.1, ih (by simp) h.2]

/-- Lines with a newline behind each of them. -/
def ended (ls : List Text) : Text := ls.flatMap (· ++ [newline])

@[simp]
theorem ended_nil : ended [] = [] := rfl

@[simp]
theorem ended_cons (l : Text) (ls : List Text) : ended (l :: ls) = l ++ newline :: ended ls := by
  simp [ended]

theorem unlines_append {ms : List Text} (hms : ms ≠ [])
    : unlines (ls ++ ms) = ended ls ++ unlines ms := by
  induction ls with
  | nil => simp
  | cons l ls ih =>
    rw [List.cons_append, unlines_cons (by simp [hms]), ih, ended_cons]
    simp

theorem prefix_unlines_cons (l : Text) (ls : List Text) : l <+: unlines (l :: ls) := by
  cases ls with
  | nil => simp
  | cons m ls => simp

theorem prefix_drop_unlines (pre post : List Text) {i : Nat} (h : a <+: l.drop i)
    : a <+: (unlines (pre ++ l :: post)).drop ((ended pre).length + i) := by
  rw [unlines_append (by simp), List.drop_length_add_append]
  exact h.trans ((prefix_unlines_cons l post).drop i)

theorem infix_unlines_of_mem (h : l ∈ ls) : l <:+: unlines ls := by
  obtain ⟨pre, post, rfl⟩ := List.append_of_mem h
  rw [unlines_append (by simp)]
  exact (prefix_unlines_cons l post).isInfix.trans (List.suffix_append _ _).isInfix

theorem prefix_of_prefix_unlines (ha : newline ∉ a) (h : a <+: unlines (l :: ls)) : a <+: l := by
  cases ls with
  | nil => simpa using h
  | cons m ls =>
    rw [unlines_cons_cons] at h
    exact prefix_of_prefix_append_cons ha h

theorem exists_line_of_prefix_drop {i : Nat} (ha : newline ∉ a) (hne : a ≠ [])
    (h : a <+: (unlines ls).drop i)
    : ∃ pre line post j, ls = pre ++ line :: post ∧ i = (ended pre).length + j ∧
        a <+: line.drop j := by
  induction ls generalizing i with
  | nil => simp [hne] at h
  | cons l ls ih =>
    by_cases hi : i ≤ l.length
    . refine ⟨[], l, ls, i, rfl, by simp, ?_⟩
      cases ls with
      | nil => simpa using h
      | cons m ls =>
        rw [unlines_cons_cons, List.drop_append_of_le_length hi] at h
        exact prefix_of_prefix_append_cons ha h
    . cases ls with
      | nil =>
        rw [unlines_singleton, List.drop_eq_nil_of_le (by omega)] at h
        simp [hne] at h
      | cons m ls =>
        obtain ⟨i, rfl⟩ : ∃ k, i = l.length + 1 + k := ⟨i - (l.length + 1), by omega⟩
        have hdrop : (unlines (l :: m :: ls)).drop (l.length + 1 + i) =
          (unlines (m :: ls)).drop i := by
          rw [unlines_cons_cons, ← List.drop_drop, List.drop_append,
            List.drop_eq_nil_of_le (Nat.le_succ _)]
          simp
        rw [hdrop] at h
        obtain ⟨pre, line, post, j, hls, rfl, hpre⟩ := ih h
        refine ⟨l :: pre, line, post, j, by rw [hls, List.cons_append], ?_, hpre⟩
        simp only [ended_cons, List.length_append, List.length_cons]
        omega

theorem exists_neighbours_of_infix (hl : newline ∉ l) (ha : newline ∉ a)
    (hls : ∀ x ∈ ls, newline ∉ x) (h : l ++ newline :: a <:+: unlines ls)
    : ∃ pre x y post, ls = pre ++ x :: y :: post ∧ l <:+ x ∧ a <+: y := by
  induction ls with
  | nil => simp at h
  | cons x ls ih =>
    simp only [List.mem_cons, forall_eq_or_imp] at hls
    cases ls with
    | nil =>
      rw [unlines_singleton] at h
      exact absurd (h.subset (by simp)) hls.1
    | cons y ls =>
      rw [unlines_cons_cons] at h
      obtain ⟨u, v, huv⟩ := h
      have huv : (u ++ l) ++ newline :: (a ++ v) = x ++ newline :: unlines (y :: ls) := by
        simpa using huv
      obtain ⟨w, hw, hrest⟩ | ⟨w, hw, hrest⟩ := List.append_eq_append_iff.mp huv
      . cases w with
        | nil =>
          simp only [List.append_nil, List.nil_append, List.cons.injEq, true_and] at hw hrest
          refine ⟨[], x, y, ls, rfl, ⟨u, hw.symm⟩, ?_⟩
          exact prefix_of_prefix_unlines ha (hrest ▸ List.prefix_append _ _)
        | cons b w =>
          simp only [List.cons_append, List.cons.injEq] at hrest
          exact absurd (by simp [hw, hrest.1]) hls.1
      . cases w with
        | nil =>
          simp only [List.append_nil, List.nil_append, List.cons.injEq, true_and] at hw hrest
          refine ⟨[], x, y, ls, rfl, ⟨u, hw⟩, ?_⟩
          exact prefix_of_prefix_unlines ha (hrest ▸ List.prefix_append _ _)
        | cons b w =>
          -- the newline of the line `x` lies in `u`
          simp only [List.cons_append, List.cons.injEq] at hrest
          obtain ⟨rfl, hrest⟩ := hrest
          obtain ⟨z, hz, hlz⟩ | ⟨z, hz, hlz⟩ := List.append_eq_append_iff.mp hw
          . exact absurd (by simp [hlz]) hl
          . cases z with
            | nil =>
              rw [List.nil_append] at hlz
              exact absurd (hlz ▸ List.mem_cons_self) hl
            | cons c z =>
              simp only [List.cons_append, List.cons.injEq] at hlz
              have hinfix : l ++ newline :: a <:+: unlines (y :: ls) :=
                ⟨z, v, by rw [hrest, hlz.2]; simp⟩
              obtain ⟨pre, x', y', post, hsplit, hlx, hay⟩ := ih hls.2 hinfix
              exact ⟨x :: pre, x', y', post, by rw [hsplit, List.cons_append], hlx, hay⟩

/-- The places at which a piece occurs in a text. -/
def occurrences (piece text : Text) : Nat := text.tails.countP (piece.isPrefixOf ·)

theorem occurrences_cons (b : UInt8) : occurrences a (b :: t) =
    (if a <+: b :: t then 1 else 0) + occurrences a t := by
  simp [occurrences, List.countP_cons, Nat.add_comm]

theorem occurrences_nil (hne : a ≠ []) : occurrences a [] = 0 := by
  simp [occurrences, hne]

theorem occurrences_append_cons {b : UInt8} (hb : b ∉ a) (hne : a ≠ [])
    : occurrences a (l ++ b :: t) = occurrences a l + occurrences a t := by
  induction l with
  | nil =>
    have : ¬ a <+: b :: t := by
      intro h
      exact hne (List.prefix_nil.mp (prefix_of_prefix_append_cons (u := []) hb h))
    rw [List.nil_append, occurrences_cons, if_neg this, occurrences_nil hne]
  | cons c l ih =>
    have : a <+: c :: l ++ b :: t ↔ a <+: c :: l := by
      constructor
      . exact prefix_of_prefix_append_cons hb
      . intro h
        exact h.trans (List.prefix_append _ _)
    rw [List.cons_append, occurrences_cons, ih, occurrences_cons, ← List.cons_append]
    simp only [this]
    omega

theorem occurrences_pos_of_infix (h : a <:+: t) : 0 < occurrences a t := by
  obtain ⟨u, v, rfl⟩ := h
  simp only [occurrences, List.countP_pos_iff]
  refine ⟨a ++ v, ?_, by simp⟩
  rw [List.mem_tails, List.append_assoc]
  exact List.suffix_append _ _

theorem occurrences_eq_zero (h : ¬ a <:+: t) : occurrences a t = 0 := by
  rw [occurrences, List.countP_eq_zero]
  intro u hu hpre
  have hpre := List.isPrefixOf_iff_prefix.mp hpre
  exact h (hpre.isInfix.trans ((List.mem_tails u t).mp hu).isInfix)

theorem countP_lines_le_occurrences (ha : newline ∉ a) (hne : a ≠ []) (t : Text)
    : (lines t).countP (occursIn a) ≤ occurrences a t := by
  suffices h : ∀ ls : List Text, ls.countP (occursIn a) ≤ occurrences a (unlines ls) by
    simpa using h (lines t)
  intro ls
  induction ls with
  | nil => simp
  | cons l ls ih =>
    have hl : (if occursIn a l then 1 else 0) ≤ occurrences a l := by
      split
      . next h => exact occurrences_pos_of_infix (occursIn_iff.mp h)
      . exact Nat.zero_le _
    rw [List.countP_cons]
    cases ls with
    | nil =>
      simp only [List.countP_nil, unlines_singleton]
      omega
    | cons m ls =>
      rw [unlines_cons_cons, occurrences_append_cons ha hne]
      omega

theorem unlines_append_newline (hls : ls ≠ []) : unlines ls ++ [newline] = ended ls := by
  induction ls with
  | nil => exact absurd rfl hls
  | cons l ls ih =>
    cases ls with
    | nil => simp
    | cons m ls =>
      rw [unlines_cons_cons, ended_cons, ← ih (by simp)]
      simp

theorem lines_append_replicate_newline (t : Text) (n : Nat)
    : lines (t ++ List.replicate n newline) = lines t ++ List.replicate n [] := by
  induction n with
  | zero => simp
  | succ n ih =>
    have hunlines : t ++ List.replicate (n + 1) newline
        = unlines (lines (t ++ List.replicate n newline) ++ [[]]) := by
      rw [unlines_append (by simp), ← unlines_append_newline (lines_ne_nil _), unlines_lines]
      simp [List.replicate_succ']
    rw [hunlines, lines_unlines (by simp), ih, List.replicate_succ', List.append_assoc]
    intro l hl
    rcases List.mem_append.mp hl with hl | hl
    . exact newline_not_mem_of_mem_lines hl
    . simp only [List.mem_singleton] at hl
      simp [hl]

theorem exists_eq_dropNewlines_append (t : Text)
    : ∃ n, t = dropNewlines t ++ List.replicate n newline := by
  refine ⟨(t.reverse.takeWhile (· == newline)).length, ?_⟩
  have htake : t.reverse.takeWhile (· == newline)
      = List.replicate (t.reverse.takeWhile (· == newline)).length newline := by
    apply List.eq_replicate_of_mem
    intro b hb
    simpa using List.mem_takeWhile_imp hb
  have hsplit := congrArg List.reverse
    (List.takeWhile_append_dropWhile (p := (· == newline)) (l := t.reverse))
  rw [htake, List.reverse_append, List.reverse_replicate, List.reverse_reverse] at hsplit
  exact hsplit.symm

theorem exists_lines_eq_dropNewlines_append (t : Text)
    : ∃ n, lines t = lines (dropNewlines t) ++ List.replicate n [] := by
  obtain ⟨n, hn⟩ := exists_eq_dropNewlines_append t
  refine ⟨n, ?_⟩
  conv_lhs => rw [hn]
  exact lines_append_replicate_newline _ _

theorem dropNewlines_eq (t : Text) : dropNewlines t = List.rdropWhile (· == newline) t := rfl

@[simp]
theorem dropNewlines_append_newline (t : Text)
    : dropNewlines (t ++ [newline]) = dropNewlines t := by
  rw [dropNewlines_eq, List.rdropWhile_concat_pos _ _ _ (by simp)]
  rfl

@[simp]
theorem dropNewlines_append_replicate (t : Text) (n : Nat)
    : dropNewlines (t ++ List.replicate n newline) = dropNewlines t := by
  induction n with
  | zero => simp
  | succ n ih => rw [List.replicate_succ', ← List.append_assoc, dropNewlines_append_newline, ih]

theorem dropNewlines_eq_self (h : t.getLast? ≠ some newline) : dropNewlines t = t := by
  rw [dropNewlines_eq, List.rdropWhile_eq_self_iff]
  intro hne hlast
  exact h (by rw [List.getLast?_eq_some_getLast hne, eq_of_beq hlast])

theorem getLast?_dropNewlines (t : Text) : (dropNewlines t).getLast? ≠ some newline := by
  intro h
  obtain ⟨hne, hlast⟩ := List.mem_getLast?_eq_getLast h
  exact List.rdropWhile_last_not (· == newline) t hne (beq_iff_eq.mpr hlast.symm)

@[simp]
theorem ended_append (ls ms : List Text) : ended (ls ++ ms) = ended ls ++ ended ms := by
  simp [ended]

@[simp]
theorem ended_replicate_nil (n : Nat) : ended (List.replicate n []) = List.replicate n newline := by
  induction n with
  | zero => rfl
  | succ n ih => rw [List.replicate_succ, ended_cons, ih, List.replicate_succ, List.nil_append]

theorem dropNewlines_ended (ls : List Text)
    : dropNewlines (ended ls) = dropNewlines (unlines ls) := by
  cases ls with
  | nil => rfl
  | cons l ls => rw [← unlines_append_newline (by simp), dropNewlines_append_newline]

theorem lines_ended (h : ∀ l ∈ ls, newline ∉ l) : lines (ended ls) = ls ++ [[]] := by
  induction ls with
  | nil => rfl
  | cons l ls ih =>
    simp only [List.mem_cons, forall_eq_or_imp] at h
    rw [ended_cons, lines_append_newline h.1, ih h.2, List.cons_append]

theorem getLast?_unlines (hl : ls.getLast? = some l) (hne : l ≠ [])
    : (unlines ls).getLast? = l.getLast? := by
  obtain ⟨ls, rfl⟩ := List.getLast?_eq_some_iff.mp hl
  rw [unlines_append (by simp), unlines_singleton, List.getLast?_append_of_ne_nil _ hne]

theorem dropNewlines_unlines (h : ∀ l ∈ ls, newline ∉ l) (hl : ls.getLast? = some l) (hne : l ≠ [])
    : dropNewlines (unlines ls) = unlines ls := by
  apply dropNewlines_eq_self
  rw [getLast?_unlines hl hne]
  intro hlast
  exact h l (List.mem_of_getLast? hl) (List.mem_of_getLast? hlast)

theorem subset_of_mem_lines (h : l ∈ lines t) : l ⊆ t := by
  obtain ⟨pre, post, hlines⟩ := List.append_of_mem h
  rw [← unlines_lines t, hlines, unlines_append (by simp)]
  refine List.Subset.trans ?_ (List.subset_append_right _ _)
  cases post with
  | nil => simp
  | cons m post =>
    rw [unlines_cons_cons]
    exact List.subset_append_left _ _

theorem normalizeNewlines_of_not_mem (h : carriageReturn ∉ t) : normalizeNewlines t = t := by
  induction t with
  | nil => rfl
  | cons b t ih =>
    simp only [List.mem_cons, not_or] at h
    have hb : (b == carriageReturn) = false := beq_eq_false_iff_ne.mpr (Ne.symm h.1)
    simp [normalizeNewlines, hb, ih h.2]

theorem lines_cons_newline (t : Text) : lines (newline :: t) = [] :: lines t :=
  lines_append_newline (l := []) (by simp)

theorem lines_cons_of_ne {b : UInt8} (hb : b ≠ newline) (h : lines t = l :: ls)
    : lines (b :: t) = (b :: l) :: ls := by
  unfold lines at h ⊢
  simp [splitOn, hb, h]

theorem forall₂_lines_normalizeNewlines (t : Text)
    : List.Forall₂ (· <+: ·) (lines (normalizeNewlines t)) (lines t) := by
  induction t with
  | nil => exact .cons (List.prefix_refl _) .nil
  | cons b t ih =>
    rw [normalizeNewlines]
    split
    . next h =>
      simp only [Bool.and_eq_true, beq_iff_eq] at h
      obtain ⟨rfl, hhead⟩ := h
      obtain ⟨t, rfl⟩ := List.head?_eq_some_iff.mp hhead
      rw [lines_cons_of_ne (by decide) (lines_cons_newline t)]
      rw [lines_cons_newline, List.forall₂_cons_right_iff] at ih
      obtain ⟨l, ls, hl, hls, hlines⟩ := ih
      rw [hlines, List.prefix_nil.mp hl]
      exact .cons List.nil_prefix hls
    . by_cases hb : b = newline
      . rw [hb, lines_cons_newline, lines_cons_newline]
        exact .cons (List.prefix_refl _) ih
      . obtain ⟨l, ls, hlines⟩ := List.exists_cons_of_ne_nil (lines_ne_nil t)
        rw [hlines, List.forall₂_cons_right_iff] at ih
        obtain ⟨l', ls', hl, hls, hlines'⟩ := ih
        rw [lines_cons_of_ne hb hlines, lines_cons_of_ne hb hlines']
        exact .cons (List.cons_prefix_cons.mpr ⟨rfl, hl⟩) hls

theorem exists_prefix_of_mem_lines_normalizeNewlines (h : l ∈ lines (normalizeNewlines t))
    : ∃ l' ∈ lines t, l <+: l' := by
  have hlines := forall₂_lines_normalizeNewlines t
  generalize lines (normalizeNewlines t) = ls at h hlines
  generalize lines t = ms at hlines
  induction hlines with
  | nil => simp at h
  | cons hl _ ih =>
    obtain rfl | h := List.mem_cons.mp h
    . exact ⟨_, List.mem_cons_self, hl⟩
    . obtain ⟨l', hl', hprefix⟩ := ih h
      exact ⟨l', List.mem_cons_of_mem _ hl', hprefix⟩

theorem dropTrailing_singleton (b : UInt8) (t : Text)
    : dropTrailing [b] t = if t.getLast? = some b then t.dropLast else t := by
  unfold dropTrailing
  simp only [List.isSuffixOf_iff_suffix, List.length_singleton]
  split
  . next h =>
    obtain ⟨u, rfl⟩ := h
    simp
  . next h =>
    rw [if_neg]
    intro hlast
    obtain ⟨u, rfl⟩ := List.getLast?_eq_some_iff.mp hlast
    exact h (List.suffix_append u [b])

theorem normalizeNewlines_append_newline (h : newline ∉ l) (t : Text)
    : normalizeNewlines (l ++ newline :: t) = dropTrailing [carriageReturn] l ++
      newline :: normalizeNewlines t := by
  simp only [dropTrailing_singleton]
  induction l with
  | nil => rfl
  | cons b l ih =>
    simp only [List.mem_cons, not_or] at h
    cases l with
    | nil =>
      by_cases hb : b = 13
      . subst hb
        rfl
      . simp [normalizeNewlines, hb, newline, carriageReturn]
    | cons c l =>
      have hc : ¬ c = newline := fun hc => h.2 (hc ▸ List.mem_cons_self)
      rw [List.cons_append, normalizeNewlines, if_neg (by simp [hc]), ih h.2,
        List.getLast?_cons_cons,
        List.dropLast_cons_cons]
      split
      all_goals rfl

theorem newline_not_mem_dropTrailing (h : newline ∉ l)
    : newline ∉ dropTrailing [carriageReturn] l := by
  rw [dropTrailing_singleton]
  split
  . exact fun hmem => h (List.dropLast_subset l hmem)
  . exact h

theorem lines_normalizeNewlines_ended (h : ∀ l ∈ ls, newline ∉ l) (t : Text)
    : lines (normalizeNewlines (ended ls ++ t))
        = ls.map (dropTrailing [carriageReturn]) ++ lines (normalizeNewlines t) := by
  induction ls with
  | nil => rfl
  | cons l ls ih =>
    simp only [List.mem_cons, forall_eq_or_imp] at h
    rw [ended_cons, List.append_assoc, List.cons_append, normalizeNewlines_append_newline h.1,
      lines_append_newline (newline_not_mem_dropTrailing h.1), ih h.2]
    rfl

theorem normalizeNewlines_of_newline_not_mem (h : newline ∉ t) : normalizeNewlines t = t := by
  induction t with
  | nil => rfl
  | cons b t ih =>
    simp only [List.mem_cons, not_or] at h
    rw [normalizeNewlines, if_neg, ih h.2]
    simp only [Bool.and_eq_true, beq_iff_eq, not_and]
    exact fun _ hhead => h.2 (List.mem_of_mem_head? hhead)

theorem lines_normalizeNewlines_of_not_mem (h : newline ∉ l)
    : lines (normalizeNewlines l) = [l] := by
  rw [normalizeNewlines_of_newline_not_mem h, lines_of_not_mem h]

theorem lines_normalizeNewlines_concat (h : ∀ l ∈ ls, newline ∉ l) (hl : newline ∉ l)
    : lines (normalizeNewlines (unlines (ls ++ [l]))) =
      ls.map (dropTrailing [carriageReturn]) ++ [l] := by
  rw [unlines_append (by simp), unlines_singleton, lines_normalizeNewlines_ended h,
    lines_normalizeNewlines_of_not_mem hl]

theorem exists_lines_eq_concat (text : Text)
    : ∃ ls l, lines text = ls ++ [l] ∧ (∀ m ∈ ls, newline ∉ m) ∧ newline ∉ l ∧
        lines (normalizeNewlines text) = ls.map (dropTrailing [carriageReturn]) ++ [l] := by
  obtain ⟨ls, l, hlines⟩ := List.eq_nil_or_concat' (lines text) |>.resolve_left (lines_ne_nil text)
  have hnewline : ∀ m ∈ ls ++ [l], newline ∉ m :=
    fun m hm => newline_not_mem_of_mem_lines (hlines ▸ hm)
  have hls : ∀ m ∈ ls, newline ∉ m := fun m hm => hnewline m (List.mem_append_left _ hm)
  have hl : newline ∉ l := hnewline l (by simp)
  refine ⟨ls, l, hlines, hls, hl, ?_⟩
  rw [← lines_normalizeNewlines_concat hls hl, ← hlines, unlines_lines]

theorem dropTrailing_unlines_concat (ls : List Text) (l : Text)
    : dropTrailing [carriageReturn] (unlines (ls ++ [l])) =
      unlines (ls ++ [dropTrailing [carriageReturn] l]) := by
  rw [unlines_append (by simp), unlines_append (by simp), unlines_singleton, unlines_singleton]
  by_cases hl : l = []
  . subst hl
    have hlast : (ended ls).getLast? ≠ some carriageReturn := by
      by_cases hls : ls = []
      . simp [hls]
      . rw [← unlines_append_newline hls, List.getLast?_concat]
        decide
    rw [List.append_nil, dropTrailing_singleton, if_neg hlast]
    exact (List.append_nil _).symm
  . rw [dropTrailing_singleton, dropTrailing_singleton, List.getLast?_append_of_ne_nil _ hl,
      List.dropLast_append_of_ne_nil hl]
    split
    all_goals rfl

end Text
end YamlOrder
