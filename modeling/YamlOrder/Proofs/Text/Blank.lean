import Mathlib.Data.List.Basic
import YamlOrder.Proofs.Text.Lines
import YamlOrder.Proofs.Text.Utf8

/-!
This module contains the theory of white space: a text is blank if and only if nothing is left when
white space is dropped from its start, and a line that is not blank keeps a text from being so. A
line is the spaces it starts with and something that starts with none. Trimming leaves a text as it
is exactly if it neither starts nor ends with a white space character.
-/

namespace YamlOrder
namespace Text

variable {t l : Text} {c : UInt8}

theorem spaceWidth_of_append_cons (hc : c.toNat < 128) (ht : t ≠ []) (u : Text)
    (h : spaceWidth (t ++ c :: u) ≠ 0) : spaceWidth t ≠ 0 := by
  have hascii : ∀ b : UInt8, 128 ≤ b.toNat → ¬ c = b := by
    rintro b hb rfl
    omega
  match t with
  | [] => exact absurd rfl ht
  | [b] =>
    unfold spaceWidth at h ⊢
    simp only [List.cons_append, List.nil_append] at h ⊢
    split at h
    . next hb => simp [hb]
    . split at h
      all_goals simp_all [hascii 0x9A]
  | [b, d] =>
    unfold spaceWidth at h ⊢
    simp only [List.cons_append, List.nil_append] at h ⊢
    split at h
    . next hb => simp [hb]
    . next hb =>
      simp only [hb]
      split at h
      all_goals simp_all [hascii 0x80]
      exact absurd (UInt8.le_iff_toNat_le.mp h.1) (Nat.not_le.mpr hc)
  | b :: d :: e :: t =>
    unfold spaceWidth at h ⊢
    simp only [List.cons_append] at h ⊢
    split at h
    . next hb => simp [hb]
    . next hb =>
      simp only [hb]
      split at h
      all_goals simp_all

theorem spaceWidth_append {t : Text} (h : spaceWidth t ≠ 0) (u : Text)
    : spaceWidth (t ++ u) = spaceWidth t := by
  unfold spaceWidth at *
  split at h
  . next b t =>
    simp only [List.cons_append]
    split at h
    . next hb => simp [hb]
    . next hb =>
      simp only [hb]
      split at h
      all_goals simp_all
  . exact absurd rfl h

theorem spaceWidth_append_cons (hc : c.toNat < 128) (ht : t ≠ []) (u : Text)
    : spaceWidth (t ++ c :: u) = spaceWidth t := by
  by_cases h : spaceWidth t = 0
  . rw [h]
    by_contra hne
    exact spaceWidth_of_append_cons hc ht u hne h
  . exact spaceWidth_append h _

theorem toNat_lt_of_spaceWidth (hc : spaceWidth [c] ≠ 0) : c.toNat < 128 := by
  unfold spaceWidth at hc
  simp only at hc
  split at hc
  . next hspace =>
    simp only [space, tab, carriageReturn, Bool.or_eq_true, beq_iff_eq, Bool.and_eq_true,
      decide_eq_true_eq,
      UInt8.le_iff_toNat_le] at hspace
    obtain rfl | ⟨-, hle⟩ := hspace
    . decide
    . have : (13 : UInt8).toNat = 13 := rfl
      omega
  . exact absurd rfl hc

theorem spaceWidth_reverse_of_spaceWidthRev (ht : t ≠ [])
    (h : t.length ≤ spaceWidthRev t) : spaceWidth t.reverse ≠ 0 := by
  unfold spaceWidthRev at h
  split at h
  . next b t =>
    clear ht
    split at h
    . next hb =>
      have : t = [] := List.eq_nil_of_length_eq_zero (by simp only [List.length_cons] at h; omega)
      simp [this, spaceWidth, hb]
    . clear * - h
      split at h
      case h_6 b _ =>
        split at h
        . next tail hb =>
          obtain rfl : tail = [] :=
            List.eq_nil_of_length_eq_zero (by simp only [List.length_cons] at h; omega)
          simp_all [spaceWidth, space, tab, carriageReturn]
        . simp only [List.length_cons] at h
          omega
      case h_7 =>
        simp only [List.length_cons] at h
        omega
      all_goals
        rename_i tail
        obtain rfl : tail = [] :=
          List.eq_nil_of_length_eq_zero (by simp only [List.length_cons] at h; omega)
        decide
  . exact absurd rfl ht

theorem dropChars_append_cons {k : Nat} (hc : c.toNat < 128)
    (h : dropChars spaceWidth t k ≠ []) (u : Text)
    : dropChars spaceWidth (t ++ c :: u) k = dropChars spaceWidth t k ++ c :: u := by
  induction t generalizing k with
  | nil => simp [dropChars] at h
  | cons b t ih =>
    have hw := spaceWidth_append_cons hc (List.cons_ne_nil b t) u
    cases k with
    | succ k => exact ih h
    | zero =>
      simp only [dropChars, List.cons_append] at h hw ⊢
      rw [hw]
      split
      . rfl
      . next k hk =>
        rw [hk] at h
        exact ih h

theorem exists_char_of_dropChars_eq_nil {width : Text → Nat} {k : Nat} (hk : k < t.length)
    (h : dropChars width t k = []) : ∃ u v, t = u ++ v ∧ v ≠ [] ∧ v.length ≤ width v := by
  induction t generalizing k with
  | nil => simp at hk
  | cons b t ih =>
    cases k with
    | succ k =>
      obtain ⟨u, v, rfl, hv⟩ := ih (by simpa using hk) h
      exact ⟨b :: u, v, rfl, hv⟩
    | zero =>
      simp only [dropChars] at h
      split at h
      . simp at h
      . next k hw =>
        by_cases hlt : k < t.length
        . obtain ⟨u, v, rfl, hv⟩ := ih hlt h
          exact ⟨b :: u, v, rfl, hv⟩
        . refine ⟨[], b :: t, rfl, by simp, ?_⟩
          simp only [List.length_cons]
          omega

theorem width_dropChars {width : Text → Nat} (hnil : width [] = 0) (t : Text) (k : Nat)
    : width (dropChars width t k) = 0 := by
  induction t generalizing k with
  | nil => exact hnil
  | cons b t ih =>
    cases k with
    | succ k => exact ih k
    | zero =>
      simp only [dropChars]
      split
      . assumption
      . next k _ => exact ih k

theorem isBlank_iff : isBlank t = true ↔ trimLeft t = [] := by
  simp only [isBlank, trim, trimRight, List.isEmpty_iff, List.reverse_eq_nil_iff]
  constructor
  . intro h
    by_contra hne
    have hpos : 0 < (trimLeft t).reverse.length := by
      simpa using List.length_pos_iff.mpr hne
    obtain ⟨u, v, huv, hv, hwidth⟩ := exists_char_of_dropChars_eq_nil hpos h
    -- the last character that is dropped from the end stands at the front
    have hv := spaceWidth_reverse_of_spaceWidthRev hv hwidth
    have hfront : trimLeft t = v.reverse ++ u.reverse := by
      rw [← List.reverse_append, ← huv, List.reverse_reverse]
    rw [← spaceWidth_append hv u.reverse, ← hfront] at hv
    exact hv (width_dropChars rfl t 0)
  . intro h
    simp [h, dropChars]

theorem isBlank_append_cons_of_not_isBlank (hc : c.toNat < 128) (h : isBlank t = false) (u : Text)
    : isBlank (t ++ c :: u) = false := by
  rw [← Bool.not_eq_true, isBlank_iff, trimLeft] at h ⊢
  rw [dropChars_append_cons hc h]
  simp

theorem isBlank_unlines_cons (h : isBlank l = false) (ls : List Text)
    : isBlank (unlines (l :: ls)) = false := by
  cases ls with
  | nil => simpa using h
  | cons m ls =>
    rw [unlines_cons_cons]
    exact isBlank_append_cons_of_not_isBlank (by decide) h _

theorem isBlank_of_spaceWidth_eq_zero (ht : t ≠ []) (h : spaceWidth t = 0) : isBlank t = false := by
  rw [← Bool.not_eq_true, isBlank_iff, trimLeft]
  cases t with
  | nil => exact absurd rfl ht
  | cons b t => simp [dropChars, h]

theorem spaceWidth_le_length (t : Text) : spaceWidth t ≤ t.length := by
  unfold spaceWidth
  split
  . split
    . simp
    . split
      all_goals simp only [List.length_cons]
      all_goals try split
      all_goals omega
  . simp

theorem dropChars_append_cons_of_eq_nil {k : Nat} (hc : spaceWidth [c] ≠ 0) (hk : k ≤ t.length)
    (h : dropChars spaceWidth t k = []) (u : Text)
    : dropChars spaceWidth (t ++ c :: u) k = dropChars spaceWidth u 0 := by
  have hascii := toNat_lt_of_spaceWidth hc
  induction t generalizing k with
  | nil =>
    obtain rfl : k = 0 := by simpa using hk
    have hle := spaceWidth_le_length [c]
    have hone : spaceWidth (c :: u) = 1 := by
      rw [← List.singleton_append, spaceWidth_append hc]
      simp only [List.length_singleton] at hle
      omega
    simp only [List.nil_append, dropChars, hone]
  | cons b t ih =>
    have hw := spaceWidth_append_cons hascii (List.cons_ne_nil b t) u
    cases k with
    | succ k => exact ih (by simpa using hk) h
    | zero =>
      have hle := spaceWidth_le_length (b :: t)
      simp only [dropChars, List.cons_append] at h hw ⊢
      rw [hw]
      cases hwidth : spaceWidth (b :: t) with
      | zero => simp [hwidth] at h
      | succ k =>
        rw [hwidth] at h hle
        exact ih (by simpa using hle) h

theorem isBlank_append_cons (hc : spaceWidth [c] ≠ 0) (t u : Text)
    : isBlank (t ++ c :: u) = (isBlank t && isBlank u) := by
  cases ht : isBlank t with
  | false => rw [isBlank_append_cons_of_not_isBlank (toNat_lt_of_spaceWidth hc) ht, Bool.false_and]
  | true =>
    rw [isBlank_iff, trimLeft] at ht
    rw [Bool.true_and, Bool.eq_iff_iff, isBlank_iff, isBlank_iff, trimLeft, trimLeft,
      dropChars_append_cons_of_eq_nil hc (Nat.zero_le _) ht]

theorem isBlank_unlines (ls : List Text) : isBlank (unlines ls) = ls.all isBlank := by
  induction ls with
  | nil => rfl
  | cons l ls ih =>
    cases ls with
    | nil => simp
    | cons m ls =>
      rw [unlines_cons_cons, isBlank_append_cons (by decide), ih, List.all_cons (l := m :: ls)]

theorem dropChars_suffix (width : Text → Nat) (t : Text) (k : Nat) : dropChars width t k <:+ t := by
  induction t generalizing k with
  | nil => simp [dropChars]
  | cons b t ih =>
    cases k with
    | succ k => exact (ih k).trans (List.suffix_cons b t)
    | zero =>
      simp only [dropChars]
      split
      . exact List.suffix_refl _
      . exact (ih _).trans (List.suffix_cons b t)

theorem trimRight_prefix (t : Text) : trimRight t <+: t := by
  simpa [trimRight] using List.reverse_prefix.mpr (dropChars_suffix spaceWidthRev t.reverse 0)

theorem trim_subset (t : Text) : trim t ⊆ t :=
  List.Subset.trans (List.IsPrefix.subset <| trimRight_prefix _)
  (dropChars_suffix spaceWidth t 0).subset

theorem trim_eq_self (h : spaceWidth t = 0) (hreverse : spaceWidthRev t.reverse = 0)
    : trim t = t := by
  have hself {width : Text → Nat} {u : Text} (hu : width u = 0) : dropChars width u 0 = u := by
    cases u with
    | nil => rfl
    | cons b u => simp only [dropChars, hu]
  rw [trim, trimLeft, trimRight, hself h, hself hreverse, List.reverse_reverse]

theorem spaceWidth_trim (t : Text) : spaceWidth (trim t) = 0 := by
  obtain ⟨u, hu⟩ := trimRight_prefix (trimLeft t)
  by_contra hw
  rw [← spaceWidth_append hw u, trim, hu] at hw
  exact hw (width_dropChars rfl t 0)

theorem spaceWidthRev_trim (t : Text) : spaceWidthRev (trim t).reverse = 0 := by
  rw [trim, trimRight, List.reverse_reverse]
  exact width_dropChars rfl _ 0

theorem trim_trim (t : Text) : trim (trim t) = trim t :=
    trim_eq_self (spaceWidth_trim t) (spaceWidthRev_trim t)

theorem isBlank_trim (h : trim t ≠ []) : isBlank (trim t) = false :=
  isBlank_of_spaceWidth_eq_zero h (spaceWidth_trim t)

theorem isBlank_dropTrailing (l : Text)
    : isBlank (dropTrailing [carriageReturn] l) = isBlank l := by
  rw [dropTrailing_singleton]
  split
  . next h =>
    obtain ⟨t, rfl⟩ := List.getLast?_eq_some_iff.mp h
    rw [List.dropLast_concat, isBlank_append_cons (by decide)]
    exact (Bool.and_true _).symm
  . rfl

section Graphic

variable {b : UInt8} {t : Text}

theorem spaceWidth_of_graphic (hb : 32 < b.toNat ∧ b.toNat < 128) (t : Text)
    : spaceWidth (b :: t) = 0 ∧ spaceWidthRev (b :: t) = 0 := by
  have hspace : ¬ (b == space || (tab ≤ b && b ≤ carriageReturn)) = true := by
    simp only [Bool.or_eq_true, beq_iff_eq, Bool.and_eq_true, decide_eq_true_eq,
      UInt8.le_iff_toNat_le, space, tab,
      carriageReturn]
    have hcr : (13 : UInt8).toNat = 13 := rfl
    rintro (rfl | ⟨-, hle⟩)
    . exact absurd hb.1 (by decide)
    . omega
  have hascii : ∀ c : UInt8, 128 ≤ c.toNat → ¬ b = c := by
    rintro c hc rfl
    omega
  constructor
  . unfold spaceWidth
    simp only [hspace, Bool.false_eq_true, if_false]
    split
    all_goals simp_all
  . unfold spaceWidthRev
    simp only [hspace, Bool.false_eq_true, if_false]
    split
    all_goals simp_all
    exact fun hle => absurd (UInt8.le_iff_toNat_le.mp hle) (Nat.not_le.mpr hb.2)

theorem trim_of_graphic (h : ∀ b ∈ t, 32 < b.toNat ∧ b.toNat < 128) : trim t = t := by
  apply trim_eq_self
  . cases t with
    | nil => rfl
    | cons b t => exact (spaceWidth_of_graphic (h b List.mem_cons_self) t).1
  . cases hreverse : t.reverse with
    | nil => rfl
    | cons b u =>
      refine (spaceWidth_of_graphic (h b ?_) u).2
      rw [← List.mem_reverse, hreverse]
      exact List.mem_cons_self

end Graphic

variable {n : Nat} {line : Text}

theorem spaces_add (m n : Nat) : spaces (m + n) = spaces m ++ spaces n := List.replicate_add ..

theorem drop_spaces_append (n : Nat) (t : Text) : (spaces n ++ t).drop n = t :=
    List.drop_left' List.length_replicate

theorem takeWhile_space (line : Text) : line.takeWhile (· == space) = spaces (indent line) := by
  refine List.eq_replicate_of_mem fun b hb => ?_
  simpa using List.mem_takeWhile_imp hb

theorem exists_eq_indent_append (line : Text)
    : ∃ rest, line = spaces (indent line) ++ rest ∧ rest.head? ≠ some space := by
  refine ⟨line.dropWhile (· == space), ?_, ?_⟩
  . rw [← takeWhile_space, List.takeWhile_append_dropWhile]
  . intro h
    have := List.head?_dropWhile_not (· == space) line
    simp [h] at this

theorem indent_spaces_append {t : Text} (h : t.head? ≠ some space) (n : Nat)
    : indent (spaces n ++ t) = n := by
  have hstop : t.takeWhile (· == space) = [] := by
    cases t with
    | nil => rfl
    | cons b t => exact List.takeWhile_cons_of_neg (by simpa using h)
  rw [indent, List.takeWhile_append_of_pos (by simp [spaces]), hstop, List.append_nil, spaces,
    List.length_replicate]

theorem exists_eq_spaces_append (h : n ≤ indent line) : ∃ rest, line = spaces n ++ rest := by
  obtain ⟨rest, hline, -⟩ := exists_eq_indent_append line
  refine ⟨spaces (indent line - n) ++ rest, ?_⟩
  rw [← List.append_assoc, ← spaces_add, Nat.add_sub_cancel' h]
  exact hline

theorem dropChars_spaces (n : Nat) : dropChars spaceWidth (spaces n) 0 = [] := by
  induction n with
  | zero => rfl
  | succ n ih =>
    have hwidth (t : Text) : spaceWidth (space :: t) = 1 := rfl
    rw [spaces, List.replicate_succ, dropChars, hwidth]
    exact ih

theorem isBlank_spaces (n : Nat) : isBlank (spaces n) = true := isBlank_iff.mpr (dropChars_spaces n)

theorem spaces_eq_ofChars (n : Nat) : spaces n = ofChars (List.replicate n ' ') := by
  induction n with
  | zero => rfl
  | succ n ih => exact congrArg (space :: ·) ih

theorem charCount_spaces_append (n : Nat) (t : Text)
    : charCount (spaces n ++ t) = n + charCount t := by
  rw [charCount, spaces_eq_ofChars, units_ofChars_append, List.length_append, List.length_map,
    List.length_replicate]
  rfl

/-! ### The characters of white space -/

/-- The white space characters of Unicode. -/
def whiteSpace : List Char :=
  (List.range' 0x9 5 ++ [0x20, 0x85, 0xA0, 0x1680] ++ List.range' 0x2000 11 ++
    [0x2028, 0x2029, 0x202F, 0x205F, 0x3000]).map Char.ofNat

theorem spaceWidthRev_append {t : Text} (h : spaceWidthRev t ≠ 0) (u : Text)
    : spaceWidthRev (t ++ u) = spaceWidthRev t := by
  unfold spaceWidthRev at *
  split at h
  . next b t =>
    simp only [List.cons_append]
    split at h
    . next hb => simp [hb]
    . next hb =>
      simp only [hb]
      split at h
      all_goals simp_all
  . exact absurd rfl h

theorem spaceWidth_of_mem_whiteSpace {c : Char} (hc : c ∈ whiteSpace)
    : spaceWidth (String.utf8EncodeChar c) ≠ 0 ∧
      spaceWidthRev (String.utf8EncodeChar c).reverse ≠ 0 := by
  have hall : (whiteSpace.all fun c => spaceWidth (String.utf8EncodeChar c) != 0 &&
      spaceWidthRev (String.utf8EncodeChar c).reverse != 0) = true := by decide +kernel
  simpa using List.all_eq_true.mp hall c hc

theorem exists_whiteSpace_prefix {f : Char → Text} (P : UInt8 → Bool) (g : UInt8 → Text)
    (hall : ((List.range 256).all fun n =>
      !P (.ofNat n) || whiteSpace.any fun c => f c == g (.ofNat n)) = true) {b : UInt8}
    (hb : P b = true) (u : Text) : ∃ c ∈ whiteSpace, f c <+: g b ++ u := by
  have hbyte := List.all_eq_true.mp hall b.toNat (List.mem_range.mpr b.toNat_lt)
  rw [UInt8.ofNat_toNat, hb, Bool.not_true, Bool.false_or] at hbyte
  obtain ⟨c, hc, hbytes⟩ := List.any_eq_true.mp hbyte
  exact ⟨c, hc, eq_of_beq hbytes ▸ List.prefix_append _ u⟩

/-- A byte that is white space on its own. -/
def isSpaceByte (b : UInt8) : Bool := b == space || (tab ≤ b && b ≤ carriageReturn)

/-- A byte that ends a white space character of general punctuation. -/
def isSpaceEnd (d : UInt8) : Bool := (0x80 ≤ d && d ≤ 0x8A) || d == 0xA8 || d == 0xA9 || d == 0xAF

theorem exists_whiteSpace_of_spaceWidth (h : spaceWidth t ≠ 0)
    : ∃ c ∈ whiteSpace, String.utf8EncodeChar c <+: t := by
  unfold spaceWidth at h
  split at h
  . next b t =>
    split at h
    . next hb => exact exists_whiteSpace_prefix isSpaceByte (fun b => [b]) (by decide +kernel) hb t
    . split at h
      . next d u _ =>
        split at h
        . next hd =>
          exact exists_whiteSpace_prefix (fun d => d == 0x85 || d == 0xA0) (fun d => [0xC2, d])
            (by decide +kernel) hd u
        . exact absurd rfl h
      . next u _ => exact ⟨'\u1680', by decide, u, rfl⟩
      . next d u _ =>
        split at h
        . next hd =>
          exact exists_whiteSpace_prefix isSpaceEnd (fun d => [0xE2, 0x80, d])
            (by decide +kernel) hd u
        . exact absurd rfl h
      . next u _ => exact ⟨'\u205F', by decide, u, rfl⟩
      . next u _ => exact ⟨'\u3000', by decide, u, rfl⟩
      . exact absurd rfl h
  . exact absurd rfl h

theorem exists_whiteSpace_of_spaceWidthRev (h : spaceWidthRev t ≠ 0)
    : ∃ c ∈ whiteSpace, (String.utf8EncodeChar c).reverse <+: t := by
  unfold spaceWidthRev at h
  split at h
  . next b t =>
    split at h
    . next hb => exact exists_whiteSpace_prefix isSpaceByte (fun b => [b]) (by decide +kernel) hb t
    . split at h
      . next u _ => exact ⟨'\u0085', by decide, u, rfl⟩
      . next u _ => exact ⟨'\u00A0', by decide, u, rfl⟩
      . next u _ => exact ⟨'\u1680', by decide, u, rfl⟩
      . next u _ => exact ⟨'\u205F', by decide, u, rfl⟩
      . next u _ => exact ⟨'\u3000', by decide, u, rfl⟩
      . next _ _ u =>
        split at h
        . next hd =>
          exact exists_whiteSpace_prefix
            (f := fun c => (String.utf8EncodeChar c).reverse) isSpaceEnd
            (fun d => [d, 0x80, 0xE2]) (by decide +kernel) hd u
        . exact absurd rfl h
      . exact absurd rfl h
  . exact absurd rfl h

theorem spaceWidth_eq_zero_iff : spaceWidth t = 0 ↔
    ∀ c ∈ whiteSpace, ¬ String.utf8EncodeChar c <+: t := by
  constructor
  . rintro h c hc ⟨u, rfl⟩
    have hwidth := (spaceWidth_of_mem_whiteSpace hc).1
    exact hwidth (spaceWidth_append hwidth u ▸ h)
  . intro h
    by_contra hwidth
    obtain ⟨c, hc, hpre⟩ := exists_whiteSpace_of_spaceWidth hwidth
    exact h c hc hpre

theorem spaceWidthRev_eq_zero_iff
    : spaceWidthRev t.reverse = 0 ↔ ∀ c ∈ whiteSpace, ¬ String.utf8EncodeChar c <:+ t := by
  constructor
  . rintro h c hc ⟨u, rfl⟩
    have hwidth := (spaceWidth_of_mem_whiteSpace hc).2
    rw [List.reverse_append, spaceWidthRev_append hwidth] at h
    exact hwidth h
  . intro h
    by_contra hwidth
    obtain ⟨c, hc, hpre⟩ := exists_whiteSpace_of_spaceWidthRev hwidth
    exact h c hc (List.reverse_prefix.mp hpre)

theorem trim_eq_self_iff
    : trim t = t ↔ ∀ c ∈ whiteSpace, ¬ String.utf8EncodeChar c <+: t ∧
      ¬ String.utf8EncodeChar c <:+ t := by
  have hwidths : trim t = t ↔ spaceWidth t = 0 ∧ spaceWidthRev t.reverse = 0 := by
    constructor
    . intro h
      rw [← h]
      exact ⟨spaceWidth_trim t, spaceWidthRev_trim t⟩
    . exact fun h => trim_eq_self h.1 h.2
  rw [hwidths, spaceWidth_eq_zero_iff, spaceWidthRev_eq_zero_iff]
  exact ⟨fun h c hc => ⟨h.1 c hc, h.2 c hc⟩,
    fun h => ⟨fun c hc => (h c hc).1, fun c hc => (h c hc).2⟩⟩

end Text
end YamlOrder
