import Mathlib.Data.List.TakeWhile
import YamlOrder.Proofs.Shield.Piece
import YamlOrder.Shield.Pattern

/-!
This module contains the theory of the patterns whose matches are fenced: a match depends on nothing
that follows it, and a scan cuts a text into its matches and gaps in which no match begins.
-/

namespace YamlOrder
namespace Pattern

open Substitution (Fenced)

/--
A pattern whose matches begin and end with bytes that no token of a kind holds, and that looks at
nothing else to find them.
-/
structure Fences (p : Pattern) (kind : Text) : Prop where
  split : ∀ {t n}, p.length? t = some n → ∃ m rest, t = m ++ rest ∧ m.length = n ∧ Fenced kind m
  stable : ∀ {m u}, p.length? (m ++ u) = some m.length → ∀ v, p.length? (m ++ v) = some m.length
  accepts : ∀ before after, p.accepts before after = true

variable {kind opening : Text} {inside : UInt8 → Bool} {closing : UInt8} {closings : Text}

theorem takeWhile_append_of_all {u v : Text} (hu : ∀ b ∈ u, inside b = true)
    (hv : ∀ b ∈ v.head?, inside b = false)
    : (u ++ v).takeWhile inside = u ∧ (u ++ v).dropWhile inside = v := by
  induction u with
  | nil =>
    cases v with
    | nil => simp
    | cons b v =>
      have := hv b (by simp)
      simp [this]
  | cons b u ih =>
    have hb := hu b (by simp)
    have ih := ih fun b hb => hu b (by simp [hb])
    simp [hb, ih]

theorem between?_eq_some_iff {t : Text} {n : Nat} (hclosing : inside closing = false)
    : between? opening inside (closing :: closings) t = some n ↔
      ∃ u rest, t = opening ++ u ++ closing :: closings ++ rest ∧ (∀ b ∈ u, inside b = true) ∧
        n = (opening ++ u ++ closing :: closings).length := by
  unfold between?
  constructor
  . split
    . next hopen =>
      obtain ⟨v, rfl⟩ := List.isPrefixOf_iff_prefix.mp hopen
      rw [List.drop_left]
      dsimp only
      split
      . next hclose =>
        intro hn
        obtain ⟨rest, hrest⟩ := List.isPrefixOf_iff_prefix.mp hclose
        refine ⟨v.takeWhile inside, rest, ?_, ?_, ?_⟩
        . rw [List.append_assoc, List.append_assoc, hrest, List.takeWhile_append_dropWhile]
        . exact fun b hb => List.mem_takeWhile_imp hb
        . simp only [List.length_append]
          exact (Option.some.inj hn).symm
      . intro hn
        exact absurd hn (by simp)
    . intro hn
      exact absurd hn (by simp)
  . rintro ⟨u, rest, rfl, hu, rfl⟩
    have hopen : opening <+: opening ++ u ++ closing :: closings ++ rest := by
      simp only [List.append_assoc]
      exact List.prefix_append _ _
    have hdrop : (opening ++ u ++ closing :: closings ++ rest).drop opening.length =
        u ++ (closing :: closings ++ rest) := by
      simp only [List.append_assoc, List.drop_left]
    have hwhile := takeWhile_append_of_all (v := closing :: closings ++ rest) hu
      (by simp [hclosing])
    have hclose : (closing :: closings).isPrefixOf (closing :: closings ++ rest) = true :=
      List.isPrefixOf_iff_prefix.mpr (List.prefix_append _ _)
    rw [if_pos (List.isPrefixOf_iff_prefix.mpr hopen)]
    simp only [hdrop, hwhile.1, hwhile.2, if_pos hclose, List.length_append]

theorem fences_between {p : Pattern} {opener : UInt8} {openers : Text}
    (hlength : p.length? = between? (opener :: openers) inside (closing :: closings))
    (haccepts : ∀ before after, p.accepts before after = true)
    (hclosing : inside closing = false) (hopener : ¬ Substitution.IsTokenByte kind opener)
    (hend : ∀ b ∈ closing :: closings, ¬ Substitution.IsTokenByte kind b)
    : p.Fences kind where
  split := by
    intro t n h
    rw [hlength, between?_eq_some_iff hclosing] at h
    obtain ⟨u, rest, rfl, _, rfl⟩ := h
    refine ⟨_, rest, rfl, rfl, ⟨opener, _, rfl, hopener⟩, ?_⟩
    refine ⟨opener :: openers ++ u ++ (closing :: closings).dropLast,
      (closing :: closings).getLast (by simp), ?_, hend _ (List.getLast_mem _)⟩
    rw [List.append_assoc _ (List.dropLast _), List.dropLast_append_getLast]
  stable := by
    intro m t h v
    rw [hlength, between?_eq_some_iff hclosing] at h ⊢
    obtain ⟨u, rest, heq, hu, hlen⟩ := h
    have : m = opener :: openers ++ u ++ closing :: closings := (List.append_inj heq hlen).1
    exact ⟨u, v, by rw [this], hu, hlen⟩
  accepts := haccepts

theorem fences_array : array.Fences "array" := by
  have hlength : array.length? = between? (91 :: []) (fun b => b != 91 && b != 93) (93 :: []) := rfl
  apply fences_between hlength (fun _ _ => rfl) rfl
  . decide
  . decide +kernel

theorem fences_helm : helm.Fences "helm" := by
  have hlength :
      helm.length? = between? (123 :: [123]) (fun b => b != 123 && b != 125) (125 :: [125]) := rfl
  apply fences_between hlength (fun _ _ => rfl) rfl
  . decide
  . decide +kernel

/-- Gaps with the matches behind them, and the text behind the last match. -/
def laid (slots : List (Text × Text)) (tail : Text) : Text :=
  slots.foldr (fun (gap, found) rest => gap ++ (found ++ rest)) tail

@[simp]
theorem laid_nil (tail : Text) : laid [] tail = tail := rfl

@[simp]
theorem laid_cons (gap found : Text) (slots : List (Text × Text)) (tail : Text)
    : laid ((gap, found) :: slots) tail = gap ++ (found ++ laid slots tail) := rfl

/-- No match begins in a text that something follows. -/
def Unmatched (p : Pattern) (text after : Text) : Prop :=
  ∀ i < text.length, p.length? ((text ++ after).drop i) = none

instance (p : Pattern) (text after : Text) : Decidable (p.Unmatched text after) :=
  inferInstanceAs (Decidable (∀ i < text.length, _))

/-- Matches with gaps before and behind them in which no match begins. -/
def Scanned (p : Pattern) : List (Text × Text) → Text → Prop
  | [], tail => p.Unmatched tail []
  | (gap, found) :: slots, tail =>
    p.Unmatched gap (found ++ laid slots tail) ∧
    p.length? (found ++ laid slots tail) = some found.length ∧
    Scanned p slots tail

instance decidableScanned (p : Pattern) : (slots : List (Text × Text)) → (tail : Text) →
    Decidable (p.Scanned slots tail)
  | [], tail => inferInstanceAs (Decidable (p.Unmatched tail []))
  | (gap, found) :: slots, tail =>
    have := decidableScanned p slots tail
    inferInstanceAs (Decidable (p.Unmatched gap (found ++ laid slots tail) ∧
      p.length? (found ++ laid slots tail) = some found.length ∧ p.Scanned slots tail))

variable {p : Pattern}

theorem unmatched_cons {b : UInt8} {text after : Text}
    (hb : p.length? (b :: (text ++ after)) = none) (h : p.Unmatched text after)
    : p.Unmatched (b :: text) after := by
  intro i hi
  cases i with
  | zero => exact hb
  | succ i => exact h i (by simpa using hi)

/-- A pattern whose matches have bytes, all of them in the text. -/
def Bounded (p : Pattern) : Prop := ∀ t n, p.length? t = some n → 0 < n ∧ n ≤ t.length

theorem Bounded.length?_nil (hp : p.Bounded) : p.length? [] = none := by
  rw [Option.eq_none_iff_forall_ne_some]
  intro n hn
  have hbound := hp [] n hn
  rw [List.length_nil] at hbound
  omega

theorem Fences.bounded (hp : p.Fences kind) : p.Bounded := by
  intro t n h
  obtain ⟨m, rest, rfl, rfl, hfence⟩ := hp.split h
  obtain ⟨b, w, rfl, -⟩ := hfence.head
  simp

theorem spans.go_skip {t : Text} {skip offset : Nat} (h : skip ≤ t.length)
    : spans.go p t skip offset = spans.go p (t.drop skip) 0 (offset + skip) := by
  induction t generalizing skip offset with
  | nil =>
    have : skip = 0 := by simpa using h
    rw [this]
    rfl
  | cons b t ih =>
    cases skip with
    | zero => rfl
    | succ skip =>
      rw [spans.go, List.drop_succ_cons, ih (by simpa using h)]
      congr 1
      omega

theorem spans.go_of_none {b : UInt8} {t : Text} {offset : Nat} (h : p.length? (b :: t) = none)
    : spans.go p (b :: t) 0 offset = spans.go p t 0 (offset + 1) := by
  rw [spans.go, h]

theorem spans.go_of_some {b : UInt8} {t : Text} {offset n : Nat}
    (h : p.length? (b :: t) = some (n + 1))
    : spans.go p (b :: t) 0 offset = (offset, n + 1) :: spans.go p t n (offset + 1) := by
  rw [spans.go, h]

/-- The text of a span. -/
def slice (text : Text) (span : Nat × Nat) : Text := (text.drop span.1).take span.2

theorem Fences.findAll_eq (hp : p.Fences kind) (text : Text)
    : p.findAll text = (p.spans text).map (slice text) := by
  unfold findAll
  rw [← List.filterMap_eq_map]
  congr 1
  funext ⟨offset, n⟩
  simp [hp.accepts, slice]

/-- Where the matches of a scan stand, from an offset on. -/
def spansOf : Nat → List (Text × Text) → List (Nat × Nat)
  | _, [] => []
  | offset, (gap, found) :: slots =>
    (offset + gap.length, found.length) :: spansOf (offset + (gap.length + found.length)) slots

theorem map_slice_spansOf (before : Text) (slots : List (Text × Text)) (tail : Text)
    : (spansOf before.length slots).map (slice (before ++ laid slots tail)) = slots.map (·.2) := by
  induction slots generalizing before with
  | nil => rfl
  | cons slot slots ih =>
    obtain ⟨gap, found⟩ := slot
    have hrest := ih (before ++ gap ++ found)
    simp only [List.length_append, List.append_assoc] at hrest
    rw [spansOf, List.map_cons, List.map_cons, laid_cons, hrest]
    congr 1
    have hoffset : before.length + gap.length = (before ++ gap).length := by simp
    rw [slice, hoffset, ← List.append_assoc, List.drop_left, List.take_left]

theorem Bounded.exists_spansOf (hp : p.Bounded) (t : Text)
    : ∃ slots tail, t = laid slots tail ∧ p.Scanned slots tail ∧
        ∀ offset, spans.go p t 0 offset = spansOf offset slots := by
  -- A match is skipped as a whole, so the induction is on the length and not on the text.
  induction hn : t.length using Nat.strong_induction_on generalizing t with
  | _ n ih =>
    subst hn
    cases t with
    | nil =>
      exact ⟨[], [], rfl, by simp [Scanned, Unmatched], by simp [spans.go, spansOf, hp.length?_nil]⟩
    | cons b t =>
      cases hlen : p.length? (b :: t) with
      | none =>
        obtain ⟨slots, tail, rfl, hscan, hspans⟩ := ih t.length (by simp) t rfl
        cases slots with
        | nil =>
          refine ⟨[], b :: tail, rfl, unmatched_cons (by simpa using hlen) hscan, fun offset => ?_⟩
          rw [spans.go_of_none hlen, hspans]
          rfl
        | cons slot slots =>
          obtain ⟨gap, found⟩ := slot
          refine ⟨(b :: gap, found) :: slots, tail, rfl, ⟨unmatched_cons hlen hscan.1, hscan.2⟩,
            fun offset => ?_⟩
          have hgap : offset + 1 + gap.length = offset + (b :: gap).length := by
            rw [List.length_cons]
            omega
          rw [spans.go_of_none hlen, hspans, spansOf, spansOf, ← Nat.add_assoc, hgap,
            ← Nat.add_assoc]
      | some k =>
        obtain ⟨k, rfl⟩ := Nat.exists_eq_succ_of_ne_zero (Nat.pos_iff_ne_zero.mp (hp _ _ hlen).1)
        have hk : k ≤ t.length := by simpa using (hp _ _ hlen).2
        obtain ⟨w, rest, rfl, rfl⟩ : ∃ w rest, t = w ++ rest ∧ k = w.length :=
          ⟨t.take k, t.drop k, (List.take_append_drop k t).symm, by simp [hk]⟩
        have hshort : rest.length < (b :: (w ++ rest)).length := by
          simp only [List.length_cons, List.length_append]
          omega
        obtain ⟨slots, tail, rfl, hscan, hspans⟩ := ih rest.length hshort rest rfl
        refine ⟨([], b :: w) :: slots, tail, rfl, ⟨?_, hlen, hscan⟩, fun offset => ?_⟩
        . intro i hi
          exact absurd hi (Nat.not_lt_zero i)
        . have hoffset : offset + 1 + w.length =
            offset + (([] : Text).length + (b :: w).length) := by
            simp only [List.length_cons, List.length_nil]
            omega
          rw [spans.go_of_some hlen, spans.go_skip (by simp), List.drop_left, hspans, hoffset]
          rfl

theorem spans.go_unmatched {gap after : Text} (h : p.Unmatched gap after) (offset : Nat)
    : spans.go p (gap ++ after) 0 offset = spans.go p after 0 (offset + gap.length) := by
  induction gap generalizing offset with
  | nil => rfl
  | cons b gap ih =>
    have hb : p.length? (b :: (gap ++ after)) = none := h 0 (by simp)
    have hgap : p.Unmatched gap after := fun i hi => h (i + 1) (by simpa using hi)
    rw [List.cons_append, spans.go_of_none hb, ih hgap, List.length_cons]
    congr 1
    omega

theorem Scanned.spans_go (hp : p.Bounded) {slots : List (Text × Text)} {tail : Text}
    (h : p.Scanned slots tail) (offset : Nat)
    : spans.go p (laid slots tail) 0 offset = spansOf offset slots := by
  induction slots generalizing offset with
  | nil =>
    have hend := spans.go_unmatched h offset
    rw [List.append_nil] at hend
    rw [laid_nil, hend, spans.go, hp.length?_nil]
    rfl
  | cons slot slots ih =>
    obtain ⟨gap, found⟩ := slot
    obtain ⟨hgap, hfound, hrest⟩ := h
    obtain ⟨b, w, rfl⟩ := List.exists_cons_of_length_pos (hp _ _ hfound).1
    rw [List.cons_append, List.length_cons] at hfound
    rw [laid_cons, spans.go_unmatched hgap, List.cons_append, spans.go_of_some hfound,
      spans.go_skip (by simp), List.drop_left, ih hrest, spansOf]
    congr 2
    simp only [List.length_cons]
    omega

theorem Scanned.findAll_eq (hp : p.Fences kind) {slots : List (Text × Text)} {tail : Text}
    (h : p.Scanned slots tail)
    : p.findAll (laid slots tail) = slots.map (·.2) := by
  rw [hp.findAll_eq, spans, h.spans_go hp.bounded]
  exact map_slice_spansOf [] slots tail

theorem Bounded.exists_scanned (hp : p.Bounded) (text : Text)
    : ∃ slots tail, text = laid slots tail ∧ p.Scanned slots tail ∧
        (p.spans text).map (slice text) = slots.map (·.2) := by
  obtain ⟨slots, tail, rfl, hscan, hspans⟩ := hp.exists_spansOf text
  refine ⟨slots, tail, rfl, hscan, ?_⟩
  rw [spans, hspans]
  exact map_slice_spansOf [] slots tail

theorem Fences.exists_scanned (hp : p.Fences kind) (text : Text)
    : ∃ slots tail, text = laid slots tail ∧ p.Scanned slots tail ∧
        p.findAll text = slots.map (·.2) := by
  rw [hp.findAll_eq]
  exact hp.bounded.exists_scanned text

end Pattern
end YamlOrder
