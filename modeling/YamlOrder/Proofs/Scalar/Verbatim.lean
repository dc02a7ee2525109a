import Mathlib.Data.List.Basic
import YamlOrder.Proofs.Scalar.Reading

/-!
This module contains what a text is read as that stands between quotes without being escaped:
itself, unless it holds a quote or a backslash. Then the value comes out shorter, if it comes out at
all.
-/

namespace YamlOrder
namespace Yaml

variable {single : Bool} {c : Char} {w x : List Char} {o o' : Option (List Char × List Char)}

theorem Reads.verbatim (hline : ∀ c ∈ w, isBreakOrEnd c = false)
    (hplain : ∀ c ∈ w, isDelicate single c = false) (h : Reads single x o)
    : Reads single (w ++ x) (before w o) := by
  induction w with
  | nil => simpa using h
  | cons c w ih =>
    have := Reads.char c (hline c List.mem_cons_self) (hplain c List.mem_cons_self)
      (ih (fun c hc => hline c (List.mem_cons_of_mem _ hc)) fun c hc =>
        hplain c (List.mem_cons_of_mem _ hc))
    simpa using this

/--
What is read from a text and what follows it, if that alone is read as `o`: the value ends inside of
the text, or the text contributes a character for each of its own at most, and less if some of them
are delicate.
-/
def Shrinks (single : Bool) (w : List Char) (o o' : Option (List Char × List Char)) : Prop :=
  ∀ v' r', o' = some (v', r') → v'.length < w.length ∨
    ∃ v r, o = some (v, r) ∧ v'.length ≤ w.length + v.length ∧
      ((∃ c ∈ w, isDelicate single c = true) → v'.length < w.length + v.length)

theorem Shrinks.char (hc : isDelicate single c = false) (h : Shrinks single w o o')
    : Shrinks single (c :: w) o (before [c] o') := by
  intro v' r' hv'
  cases o' with
  | none => simp [before] at hv'
  | some p =>
    simp only [before, Option.map_some, Option.some.injEq, Prod.mk.injEq] at hv'
    obtain ⟨rfl, rfl⟩ := hv'
    obtain hshort | ⟨v, r, rfl, hle, hlt⟩ := h _ _ rfl
    . left
      simpa using hshort
    . refine .inr ⟨v, r, rfl, ?_, ?_⟩
      . simp only [List.length_append, List.length_cons, List.length_nil]
        omega
      . rintro ⟨b, hb, hdelicate⟩
        obtain rfl | hb := List.mem_cons.mp hb
        . rw [hc] at hdelicate
          cases hdelicate
        . have := hlt ⟨b, hb, hdelicate⟩
          simp only [List.length_append, List.length_cons, List.length_nil]
          omega

theorem Shrinks.sequence {rest : List Char} (ch : Char) (h : Shrinks single rest o o')
    (hlen : rest.length + 1 < w.length)
    : Shrinks single w o (before [ch] o') := by
  intro v' r' hv'
  cases o' with
  | none => simp [before] at hv'
  | some p =>
    simp only [before, Option.map_some, Option.some.injEq, Prod.mk.injEq] at hv'
    obtain ⟨rfl, rfl⟩ := hv'
    obtain hshort | ⟨v, r, rfl, hle, -⟩ := h _ _ rfl
    . left
      simp only [List.length_append, List.length_cons, List.length_nil]
      omega
    . refine .inr ⟨v, r, rfl, ?_, fun _ => ?_⟩
      all_goals
        simp only [List.length_append, List.length_cons, List.length_nil]
        omega

theorem shrinks_end (c : Char) (w : List Char) (o : Option (List Char × List Char))
    (rest : List Char)
    : Shrinks single (c :: w) o (some ([], rest)) := by
  intro v' r' hv'
  obtain ⟨rfl, rfl⟩ := Prod.mk.inj (Option.some.inj hv')
  exact .inl (Nat.succ_pos _)

/-- A text on one line that ends with a closing brace, if it is not empty. -/
structure Braced (w : List Char) : Prop where
  line : ∀ c ∈ w, isBreakOrEnd c = false
  last : ∀ c ∈ w.getLast?, c = '}'

theorem Braced.suffix {rest : List Char} (h : Braced w) (hrest : rest <:+ w) : Braced rest where
  line := fun c hc => h.line c (hrest.subset hc)
  last := by
    intro c hc
    obtain ⟨u, rfl⟩ := hrest
    apply h.last c
    rw [List.getLast?_append, Option.mem_def.mp hc]
    rfl

theorem ofCode?_eq_none {n : Nat} (h : w.length < n)
    : ofCode? (ahead n (w ++ '}' :: x)) = none := by
  have hmem : '}' ∈ ahead n (w ++ '}' :: x) := by
    refine List.mem_map.mpr ⟨w.length, List.mem_range.mpr h, ?_⟩
    simp [List.getD_eq_getElem?_getD]
  have hall : (ahead n (w ++ '}' :: x)).all isHexDigit = false := by
    rw [List.all_eq_false]
    exact ⟨'}', hmem, by decide⟩
  simp only [ofCode?, hall, Bool.false_and, Bool.false_eq_true, if_false]

theorem unescape?_append {k : Char} {y : List Char} (hw : Braced (k :: w))
    (h : unescape? (k :: (w ++ x)) = some (c, y))
    : ∃ rest, y = rest ++ x ∧ rest <:+ w := by
  obtain rfl | ⟨w', b, rfl⟩ := List.eq_nil_or_concat' w
  . -- a closing brace is no letter of an escape sequence either
    obtain rfl : k = '}' := hw.last k rfl
    simp [unescape?, Escape.ofChar?] at h
  . obtain rfl : b = '}' := hw.last b (by simp [List.getLast?_cons])
    unfold unescape? at h
    dsimp only at h
    cases hkind : Escape.ofChar? k with
    | none => simp [hkind] at h
    | some e =>
      rw [hkind] at h
      cases e with
      | char ch =>
        simp only [Option.some.injEq, Prod.mk.injEq] at h
        exact ⟨w' ++ ['}'], h.2.symm, List.suffix_refl _⟩
      | code n =>
        simp only [Option.map_eq_some_iff, Prod.mk.injEq] at h
        obtain ⟨_, hcode, rfl, rfl⟩ := h
        have hn : n ≤ w'.length := by
          by_contra hn
          rw [List.append_assoc, List.singleton_append,
            ofCode?_eq_none (Nat.lt_of_not_le hn)] at hcode
          cases hcode
        refine ⟨w'.drop n ++ ['}'], ?_, ?_⟩
        . rw [List.append_assoc, List.drop_append_of_le_length hn, List.append_assoc]
        . exact (List.suffix_append_self_iff).mpr (List.drop_suffix n w')

theorem exists_reads_quote {k : Char}
    (hbelow : ∀ rest, rest <:+ w → ∃ o', Reads true (rest ++ x) o' ∧ Shrinks true rest o o')
    : ∃ o', Reads true ('\'' :: k :: (w ++ x)) o' ∧ Shrinks true ('\'' :: k :: w) o o' := by
  by_cases hk : k = '\''
  . subst hk
    obtain ⟨o', hreads, hshrinks⟩ := hbelow w (List.suffix_refl w)
    exact ⟨_, .twice rfl hreads, hshrinks.sequence '\'' (Nat.lt_succ_self _)⟩
  . exact ⟨_, .close (k :: (w ++ x)) (by simpa using hk), shrinks_end '\'' (k :: w) o _⟩

theorem exists_reads_backslash {k : Char} (hw : Braced (k :: w))
    (hbelow : ∀ rest, rest <:+ w → ∃ o', Reads false (rest ++ x) o' ∧ Shrinks false rest o o')
    : ∃ o', Reads false ('\\' :: k :: (w ++ x)) o' ∧ Shrinks false ('\\' :: k :: w) o o' := by
  cases hescape : unescape? (k :: (w ++ x)) with
  | none =>
    have hbreak : isBreak k = false := by
      have := hw.line k List.mem_cons_self
      simp only [isBreakOrEnd, Bool.or_eq_false_iff] at this
      exact this.1
    exact ⟨none, .wrong k _ rfl hbreak hescape, fun _ _ hnone => by cases hnone⟩
  | some p =>
    obtain ⟨ch, y⟩ := p
    obtain ⟨rest, rfl, hsuffix⟩ := unescape?_append hw hescape
    obtain ⟨o', hreads, hshrinks⟩ := hbelow rest hsuffix
    have hlen := hsuffix.length_le
    refine ⟨_, .escape k ch rfl hescape hreads, hshrinks.sequence ch ?_⟩
    simp only [List.length_cons]
    omega

/-- How a text is read that stands in quotes as it is and ends with a closing brace. -/
theorem exists_reads_append (w : List Char) (hw : Braced w) (h : Reads single x o)
    : ∃ o', Reads single (w ++ x) o' ∧ Shrinks single w o o' := by
  -- An escape sequence takes several characters, so the induction is on the length and not on the
  -- text.
  induction hn : w.length using Nat.strong_induction_on generalizing w with
  | _ n ih =>
    subst hn
    cases w with
    | nil =>
      refine ⟨o, h, fun v r ho => .inr ⟨v, r, ho, by simp, ?_⟩⟩
      rintro ⟨b, hb, -⟩
      cases hb
    | cons c w =>
      have hrest : Braced w := hw.suffix (List.suffix_cons c w)
      cases hdelicate : isDelicate single c with
      | false =>
        obtain ⟨o', hreads, hshrinks⟩ := ih w.length (Nat.lt_succ_self _) w hrest rfl
        exact ⟨_, .char c (hw.line c List.mem_cons_self) hdelicate hreads, hshrinks.char hdelicate⟩
      | true =>
        cases w with
        | nil =>
          obtain rfl : c = '}' := hw.last c rfl
          cases single
          all_goals cases hdelicate
        | cons k w =>
          have hbelow (rest : List Char) (hsuffix : rest <:+ w)
              : ∃ o', Reads single (rest ++ x) o' ∧ Shrinks single rest o o' := by
            have hlen := hsuffix.length_le
            refine ih rest.length ?_ rest (hrest.suffix (hsuffix.trans (List.suffix_cons k w))) rfl
            simp only [List.length_cons]
            omega
          cases single with
          | true =>
            obtain rfl : c = '\'' := by simpa [isDelicate] using hdelicate
            exact exists_reads_quote hbelow
          | false =>
            simp only [isDelicate, Bool.false_eq_true, if_false, Bool.or_eq_true,
              beq_iff_eq] at hdelicate
            obtain rfl | rfl := hdelicate
            . exact ⟨_, .close (k :: (w ++ x)) (by simp), shrinks_end '"' (k :: w) o _⟩
            . exact exists_reads_backslash hrest hbelow

end Yaml
end YamlOrder
