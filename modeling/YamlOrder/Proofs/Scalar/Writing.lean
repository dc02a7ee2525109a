import YamlOrder.Proofs.Scalar.Reading
import YamlOrder.Proofs.Text.Utf8
import YamlOrder.Yaml.Printer

/-!
This module contains the writing of quoted scalars on one line: every character is written on its
own, and what is written for it is read as the character.
-/

namespace YamlOrder
namespace Yaml

open Printer (escape hexDigits needsEscape)

/-- What is written for a character in quotes. -/
def quoteChar (single : Bool) (c : Char) : List Char :=
  if single then (if c == '\'' then ['\'', '\''] else [c])
  else (if needsEscape c then escape c else [c])

/--
A value that can be written on one line in quotes, and that does not begin with a byte order mark.
-/
structure OneLine (value : List Char) : Prop where
  line : ∀ c ∈ value, isBreakOrEnd c = false
  mark : ∀ c ∈ value.head?, isByteOrderMark c = false

namespace Printer

variable {p : Printer} {value : List Char}

@[simp]
theorem out_putAll (p : Printer) (cs : List Char) : (p.putAll cs).out = cs.reverse ++ p.out := by
  induction cs generalizing p with
  | nil => rfl
  | cons c cs ih =>
    rw [putAll, List.foldl_cons, ← putAll, ih]
    simp [put]

theorem out_indicator (p : Printer) (s : List Char) (spaced isOpening isIndention : Bool)
    : (p.indicator s spaced isOpening isIndention).out =
        s.reverse ++ (if spaced then p.separate else p).out := by
  simp [indicator]

theorem out_writeSingleQuoted.go (h : ∀ c ∈ value, isBreakOrEnd c = false)
    : (writeSingleQuoted.go value false p).out =
      (value.flatMap (quoteChar true)).reverse ++ p.out := by
  induction value generalizing p with
  | nil => rfl
  | cons c value ih =>
    have hbreak : isBreak c = false := by
      have := h c List.mem_cons_self
      simp only [isBreakOrEnd, Bool.or_eq_false_iff] at this
      exact this.1
    have ih (p : Printer) := ih (p := p) fun c hc => h c (List.mem_cons_of_mem _ hc)
    unfold writeSingleQuoted.go
    by_cases hspace : c = ' '
    . simp [hspace, ih, put, quoteChar]
    . by_cases hquote : c = '\''
      . simp [hquote, ih, put, quoteChar, show isBreak '\'' = false by decide]
      . simp [hspace, hquote, hbreak, ih, put, quoteChar]

theorem out_writeStyled_quoted (p : Printer) (single : Bool) (h : OneLine value)
    : (p.writeStyled (scanQuoted.style single) value).out =
        (scanQuoted.quote single :: value.flatMap (quoteChar single) ++
          [scanQuoted.quote single]).reverse ++
          p.separate.out := by
  cases single with
  | true =>
    change ((writeSingleQuoted.go value false (p.indicator ['\''] true false false)).indicator
      ['\''] false false
      false).out = _
    simp [out_indicator, out_writeSingleQuoted.go h.line, scanQuoted.quote]
  | false =>
    have hmarked : value.head?.any isByteOrderMark = false := by
      cases value with
      | nil => rfl
      | cons c value => exact h.mark c rfl
    have hchar : quoteChar false = fun c => if needsEscape c then escape c else [c] := rfl
    simp [writeStyled, scanQuoted.style, writeDoubleQuoted, out_indicator, hmarked,
      scanQuoted.quote, hchar]

end Printer

theorem hex_toDigits (n : Nat)
    : ((Nat.toDigits 16 n).map Char.toUpper).all isHexDigit = true ∧
        ∃ k, ∀ v, ((Nat.toDigits 16 n).map Char.toUpper).foldl
        (fun v d => v * 16 + hexValue d) v = v * k + n := by
  have hdigit : ∀ d < 16, isHexDigit d.digitChar.toUpper = true ∧
    hexValue d.digitChar.toUpper = d := by decide
  induction n using Nat.strong_induction_on with
  | _ n ih =>
    by_cases hn : n < 16
    . rw [Nat.toDigits_of_lt_base hn]
      exact ⟨by simp [hdigit n hn], 16, by simp [hdigit n hn]⟩
    . obtain ⟨hall, k, hvalue⟩ := ih (n / 16) (by omega)
      obtain ⟨hlast, hlastValue⟩ := hdigit (n % 16) (Nat.mod_lt n (by decide))
      have hsplit : Nat.toDigits 16 n = Nat.toDigits 16 (n / 16) ++ [(n % 16).digitChar] := by
        rw [← Nat.toDigits_of_lt_base (Nat.mod_lt n (by decide)),
          Nat.toDigits_append_toDigits (by decide) (by omega) (Nat.mod_lt _ (by decide)),
          Nat.div_add_mod]
      rw [hsplit, List.map_append, List.map_singleton]
      refine ⟨by simp only [List.all_append, hall, List.all_cons, hlast, List.all_nil,
        Bool.and_true], k * 16, ?_⟩
      intro v
      rw [List.foldl_append, hvalue, List.foldl_cons, hlastValue, List.foldl_nil, Nat.add_mul,
        Nat.mul_assoc]
      omega

theorem ofCode?_hexDigits {c : Char} {width : Nat} (h : (Nat.toDigits 16 c.toNat).length ≤ width)
    (x : List Char)
    : ofCode? (ahead width (hexDigits width c.toNat ++ x)) = some c ∧
        (hexDigits width c.toNat ++ x).drop width = x := by
  obtain ⟨hall, k, hvalue⟩ := hex_toDigits c.toNat
  have hlen : (hexDigits width c.toNat).length = width := by
    simp only [hexDigits, List.length_append, List.length_replicate, List.length_map]
    omega
  have hahead : ahead width (hexDigits width c.toNat ++ x) = hexDigits width c.toNat := by
    rw [ahead_eq_take (by simp [hlen]), List.take_left' hlen]
  have hzeros (k : Nat) : (List.replicate k '0').foldl (fun v d => v * 16 + hexValue d) 0 = 0 := by
    induction k with
    | zero => rfl
    | succ k ih => simpa [List.replicate_succ, show hexValue '0' = 0 by decide] using ih
  have hfold : (hexDigits width c.toNat).foldl (fun v d => v * 16 + hexValue d) 0 = c.toNat := by
    rw [hexDigits, List.foldl_append, hzeros, hvalue]
    simp
  have hdigits : (hexDigits width c.toNat).all isHexDigit = true := by
    rw [hexDigits, List.all_append, hall]
    simp [show isHexDigit '0' = true by decide]
  constructor
  . have hscalar := Text.isScalar_toNat c
    simp only [Text.isScalar, Bool.or_eq_true, Bool.and_eq_true, decide_eq_true_eq] at hscalar
    have hrange : ((0xD800 ≤ c.toNat && c.toNat ≤ 0xDFFF) || 0x10FFFF < c.toNat : Bool) = false :=
      by
      simp only [Bool.or_eq_false_iff, Bool.and_eq_false_iff, decide_eq_false_iff_not]
      omega
    simp [hahead, ofCode?, hdigits, hfold, hrange, Char.ofNat_toNat]
  . exact List.drop_left' hlen

theorem unescape?_escape (c : Char) (x : List Char)
    : ∃ k ds, escape c = '\\' :: k :: ds ∧ unescape? (k :: (ds ++ x)) = some (c, x) := by
  have hlt : c.toNat < 16 ^ 8 := by
    have hscalar := Text.isScalar_toNat c
    simp only [Text.isScalar, Bool.or_eq_true, Bool.and_eq_true, decide_eq_true_eq] at hscalar
    omega
  have hcode {k : Char} {width : Nat} (hk : Escape.ofChar? k = some (.code width))
      (hwidth : 0 < width)
      (h : c.toNat < 16 ^ width)
      : unescape? (k :: (hexDigits width c.toNat ++ x)) = some (c, x) := by
    obtain ⟨hchar, hrest⟩ := ofCode?_hexDigits
      ((Nat.length_toDigits_le_iff (by decide) hwidth).mpr h) x
    simp [unescape?, hk, hchar, hrest]
  unfold escape
  split
  case h_16 =>
    split
    . exact ⟨'x', _, rfl, hcode rfl (by decide) (by omega)⟩
    . split
      . exact ⟨'u', _, rfl, hcode rfl (by decide) (by omega)⟩
      . exact ⟨'U', _, rfl, hcode rfl (by decide) hlt⟩
  all_goals
    next hnat =>
      have hc := Char.ofNat_toNat c
      rw [hnat] at hc
      subst hc
      exact ⟨_, [], rfl, rfl⟩

theorem not_mem_escape (c : Char) : 'y' ∉ escape c := by
  have hdigits (width : Nat) : 'y' ∉ hexDigits width c.toNat := by
    intro h
    rw [hexDigits, List.mem_append, List.mem_replicate] at h
    obtain ⟨-, h⟩ | h := h
    . exact absurd h (by decide)
    . have := List.all_eq_true.mp (hex_toDigits c.toNat).1 _ h
      exact absurd this (by decide)
  unfold escape
  split
  case h_16 =>
    split
    . simp [hdigits]
    . split
      all_goals simp [hdigits]
  all_goals decide

variable {single : Bool} {c : Char} {x : List Char} {o : Option (List Char × List Char)}

theorem Reads.quoteChar (hbreak : isBreakOrEnd c = false) (h : Reads single x o)
    : Reads single (Yaml.quoteChar single c ++ x) (before [c] o) := by
  cases single with
  | true =>
    by_cases hquote : c = '\''
    . subst hquote
      exact .twice rfl h
    . have : Yaml.quoteChar true c = [c] := by simp [Yaml.quoteChar, hquote]
      rw [this]
      exact .char c hbreak (by simp [isDelicate, hquote]) h
  | false =>
    cases hescape : needsEscape c with
    | true =>
      obtain ⟨k, ds, heq, hread⟩ := unescape?_escape c x
      have : Yaml.quoteChar false c = '\\' :: k :: ds := by simp [Yaml.quoteChar, hescape, heq]
      rw [this]
      exact .escape k c rfl hread h
    | false =>
      have : Yaml.quoteChar false c = [c] := by simp [Yaml.quoteChar, hescape]
      rw [this]
      simp only [needsEscape, Bool.or_eq_false_iff] at hescape
      exact .char c hbreak (by simp [isDelicate, hescape.1.2, hescape.2]) h

theorem Reads.quoteChars {value : List Char} (hline : ∀ c ∈ value, isBreakOrEnd c = false)
    (h : Reads single x o)
    : Reads single (value.flatMap (Yaml.quoteChar single) ++ x) (before value o) := by
  induction value with
  | nil => simpa using h
  | cons c value ih =>
    have := (ih fun c hc => hline c (List.mem_cons_of_mem _ hc)).quoteChar
      (hline c List.mem_cons_self)
    simpa using this

end Yaml
end YamlOrder
