import YamlOrder.Proofs.Scalar.Verbatim
import YamlOrder.Proofs.Shield.Quoting
import YamlOrder.Proofs.Shield.RoundTrip

/-!
This module contains when a value with template expressions survives in quotes: it is read back from
the restored text exactly if none of its expressions holds a character that the quotes must escape.
-/

namespace YamlOrder

open Yaml (Reads before isDelicate quoteChar)

variable {single : Bool}

namespace Piece

variable {ps : List Piece} {x : List Char} {o : Option (List Char × List Char)}

/-- The characters that are written for a piece in quotes, once it is restored. -/
def chars (single : Bool) : Piece → List Char
  | .plain text => (Text.toChars text).flatMap (quoteChar single)
  | .hidden sub => Text.toChars sub.value

theorem Quotable.isUtf8_meantText (h : Quotable ps) : Text.isUtf8 (meantText ps) = true := by
  induction ps with
  | nil => rfl
  | cons p ps ih => rw [meantText_cons, Text.isUtf8_append (h.utf8 p List.mem_cons_self), ih h.tail]

theorem toChars_meantText_cons {p : Piece} (h : Quotable (p :: ps))
    : Text.toChars (meantText (p :: ps)) = Text.toChars p.meant ++ Text.toChars (meantText ps) := by
  rw [meantText_cons, Text.toChars_append (h.utf8 p List.mem_cons_self)]

theorem toChars_meantText_quoted (single : Bool) (h : Quotable ps) (t : Text)
    : Text.toChars (meantText (ps.map (quoted single)) ++ t) = ps.flatMap (chars single) ++
      Text.toChars t := by
  induction ps with
  | nil => rfl
  | cons p ps ih =>
    rw [List.map_cons, meantText_cons, List.append_assoc, List.flatMap_cons, List.append_assoc]
    cases p with
    | plain text =>
      have hutf8 : Text.isUtf8 (quoteText single text) = true := isUtf8_quoteText text
      rw [quoted, meant, Text.toChars_append hutf8, ih h.tail, quoteText, Text.toChars_ofChars]
      rfl
    | hidden sub =>
      have hutf8 : Text.isUtf8 sub.value = true := h.utf8 _ List.mem_cons_self
      rw [quoted, meant, Text.toChars_append hutf8, ih h.tail]
      rfl

theorem reads_of_clean (hps : Quotable ps)
    (hclean : ∀ t ∈ subs ps, ∀ c ∈ Text.toChars t.value, isDelicate single c = false)
    (h : Reads single x o)
    : Reads single (ps.flatMap (chars single) ++ x) (before (Text.toChars (meantText ps)) o) := by
  induction ps with
  | nil => simpa using h
  | cons p ps ih =>
    rw [toChars_meantText_cons hps, ← Yaml.before_before, List.flatMap_cons, List.append_assoc]
    have hline := hps.line p List.mem_cons_self
    cases p with
    | plain text => exact (ih hps.tail hclean).quoteChars hline
    | hidden sub =>
      simp only [subs, List.mem_cons, forall_eq_or_imp] at hclean
      exact (ih hps.tail hclean.2).verbatim hline hclean.1

theorem exists_reads (hps : Quotable ps)
    (hlast : ∀ t ∈ subs ps, ∀ c ∈ (Text.toChars t.value).getLast?, c = '}') {rest : List Char}
    (h : Reads single x (some ([], rest)))
    : ∃ o, Reads single (ps.flatMap (chars single) ++ x) o ∧ ∀ v r, o = some (v, r) →
        v.length ≤ (Text.toChars (meantText ps)).length ∧
        ((∃ t ∈ subs ps, ∃ c ∈ Text.toChars t.value, isDelicate single c = true) →
          v.length < (Text.toChars (meantText ps)).length) := by
  induction ps with
  | nil =>
    refine ⟨_, h, ?_⟩
    intro v r hv
    obtain ⟨rfl, rfl⟩ := Prod.mk.inj (Option.some.inj hv)
    simp [subs]
  | cons p ps ih =>
    rw [toChars_meantText_cons hps, List.flatMap_cons, List.append_assoc, List.length_append]
    have hline := hps.line p List.mem_cons_self
    cases p with
    | plain text =>
      obtain ⟨o, hreads, hbound⟩ := ih hps.tail hlast
      refine ⟨_, hreads.quoteChars hline, ?_⟩
      intro v r hv
      cases o with
      | none => simp [before] at hv
      | some p =>
        simp only [before, Option.map_some, Option.some.injEq, Prod.mk.injEq] at hv
        obtain ⟨rfl, rfl⟩ := hv
        obtain ⟨hle, hlt⟩ := hbound _ _ rfl
        simp only [List.length_append, Nat.add_le_add_iff_left, Nat.add_lt_add_iff_left, meant]
        exact ⟨hle, hlt⟩
    | hidden sub =>
      simp only [subs, List.mem_cons, forall_eq_or_imp] at hlast
      obtain ⟨o, hreads, hbound⟩ := ih hps.tail hlast.2
      obtain ⟨o', hreads', hshrinks⟩ := Yaml.exists_reads_append _ ⟨hline, hlast.1⟩ hreads
      refine ⟨o', hreads', ?_⟩
      intro v' r' hv'
      simp only [subs, List.mem_cons, exists_eq_or_imp]
      obtain hshort | ⟨v, r, rfl, hle, hlt⟩ := hshrinks v' r' hv'
      . exact ⟨by omega, fun _ => by omega⟩
      . obtain ⟨hle', hlt'⟩ := hbound v r rfl
        refine ⟨by omega, ?_⟩
        rintro (hdelicate | hdelicate)
        . have := hlt hdelicate
          omega
        . have := hlt' hdelicate
          omega

end Piece

namespace Substitution

open Piece (shownText meantText subs Quotable)

variable {s : Substitution} {ps : List Piece}

theorem getLast?_toChars {t : Text} (hutf8 : Text.isUtf8 t = true) (h : t.getLast? = some 125)
    : (Text.toChars t).getLast? = some '}' := by
  rw [← Text.ofChars_toChars hutf8] at h
  obtain hnil | ⟨cs, c, hcs⟩ := List.eq_nil_or_concat' (Text.toChars t)
  . simp [hnil, Text.ofChars_nil] at h
  . have hbytes : Text.ofChars [c] = String.utf8EncodeChar c := by simp [Text.ofChars]
    rw [hcs, Text.ofChars_append, hbytes,
      List.getLast?_append_of_ne_nil _ String.utf8EncodeChar_ne_nil] at h
    have hmem : (125 : UInt8) ∈ String.utf8EncodeChar c := List.mem_of_getLast? h
    obtain ⟨-, rfl⟩ := Text.eq_of_mem_utf8EncodeChar (by decide) hmem
    rw [hcs, List.getLast?_concat]
    rfl

/-- A quoted text is read as a value, up to what follows the quotes. -/
def ReadsAs (single : Bool) (text : Text) (rest : List Char) (value : Text) : Prop :=
  ∃ r, Yaml.scanQuoted single { rest := Text.toChars text ++ rest } = .ok r ∧
    r.token.kind = .scalar value (Yaml.scanQuoted.style single) ∧ r.cursor.rest = rest

theorem toChars_restore_inQuotes (single : Bool)
    (hkind : Text.Apart (tokenStart s.kind) (tokenStart s.kind))
    (hinert : ∀ b ∈ tokenStart s.kind, Inert b) (hs : s.Issued) (h : s.Hides ps) (hps : Quotable ps)
    (hline : Yaml.OneLine (Text.toChars (shownText ps))) (rest : List Char)
    : Text.toChars (s.restore (inQuotes single (shownText ps))) ++ rest =
        Yaml.scanQuoted.quote single ::
          (ps.flatMap (Piece.chars single) ++ Yaml.scanQuoted.quote single :: rest) := by
  have hquote := Text.toChars_ofChars [Yaml.scanQuoted.quote single]
  have hutf8 := Text.isUtf8_ofChars [Yaml.scanQuoted.quote single]
  rw [ofChars_quote] at hquote hutf8
  rw [restore_inQuotes hkind hinert hs h hps hline, Text.toChars_append hutf8, hquote,
    Piece.toChars_meantText_quoted single hps, hquote]
  simp

theorem readsAs_restore_iff (hkind : Text.Apart (tokenStart s.kind) (tokenStart s.kind))
    (hinert : ∀ b ∈ tokenStart s.kind, Inert b) (hs : s.Issued) (h : s.Hides ps)
    (hutf8 : ∀ p ∈ ps, Text.isUtf8 p.meant = true)
    (hline : ∀ p ∈ ps, ∀ c ∈ Text.toChars p.meant, Yaml.isBreakOrEnd c = false)
    (hmark : ∀ c ∈ (Text.toChars (shownText ps)).head?, Yaml.isByteOrderMark c = false)
    (hlast : ∀ t ∈ subs ps, t.value.getLast? = some 125) {rest : List Char}
    (hrest : rest.head? ≠ some '\'')
    : ReadsAs single (s.restore (inQuotes single (shownText ps))) rest (meantText ps) ↔
        ∀ t ∈ subs ps, ∀ c ∈ Text.toChars t.value, isDelicate single c = false := by
  have hps : Quotable ps := ⟨h.inert hinert hs, hutf8, hline⟩
  have hbrace : ∀ t ∈ subs ps, ∀ c ∈ (Text.toChars t.value).getLast?, c = '}' := by
    intro t ht c hc
    have hvalue : Text.isUtf8 t.value = true := hutf8 _ (Piece.mem_subs_iff.mp ht)
    rw [getLast?_toChars hvalue (hlast t ht)] at hc
    exact (Option.some.inj hc).symm
  have hchars := toChars_restore_inQuotes single hkind hinert hs h hps
    ⟨hps.line_shownText, hmark⟩ rest
  have hclose : Reads single (Yaml.scanQuoted.quote single :: rest) (some ([], rest)) :=
    .close rest fun _ => hrest
  unfold ReadsAs
  rw [hchars]
  constructor
  . rintro ⟨r, hr, hvalue, -⟩ t ht c hc
    by_contra hdelicate
    obtain ⟨o, hreads, hbound⟩ := Piece.exists_reads hps hbrace hclose
    have hagrees := Yaml.agrees_scanQuoted hreads (c := { rest := _ }) rfl
    rw [hr] at hagrees
    cases o with
    | none =>
      obtain ⟨e, he⟩ := hagrees
      cases he
    | some p =>
      obtain ⟨r', hr', -, hvalue'⟩ := hagrees
      obtain rfl := Except.ok.inj hr'
      have hlt := (hbound _ _ rfl).2 ⟨t, ht, c, hc, by simpa using hdelicate⟩
      rw [hvalue] at hvalue'
      simp only [List.reverse_nil, List.nil_append, Yaml.TokenKind.scalar.injEq] at hvalue'
      rw [hvalue'.1, Text.toChars_ofChars] at hlt
      omega
  . intro hclean
    have hagrees := Yaml.agrees_scanQuoted (Piece.reads_of_clean hps hclean hclose)
      (c := { rest := _ }) rfl
    obtain ⟨r, hr, hrest', hvalue⟩ := hagrees
    refine ⟨r, hr, ?_, hrest'⟩
    rw [hvalue]
    simp [Text.ofChars_toChars hps.isUtf8_meantText]

theorem exists_eq_of_mem_shield_helm {text : Text}
    : ∀ t ∈ (Substitution.helm.shield text).1.store, ∃ u,
      t.value = 123 :: 123 :: (u ++ [125, 125]) ∧ t.value <:+: text := by
  obtain ⟨slots, tail, rfl, hscan, hfind⟩ := Pattern.fences_helm.exists_scanned text
  obtain ⟨ps, next, -, hvalues, -, -, hshield⟩ :=
    shield_eq Substitution.helm Pattern.fences_helm (Pattern.laid slots tail)
  intro t ht
  rw [hshield] at ht
  have hmem : t.value ∈ slots.map (·.2) := by
    rw [← hfind]
    exact hvalues ▸ List.mem_map_of_mem ht
  have hmatch := (Scanned.stable Pattern.fences_helm hscan _ hmem).2 []
  obtain ⟨u, rest, heq, -, hlen⟩ := (Pattern.between?_eq_some_iff (by decide)).mp hmatch
  rw [List.append_nil] at heq
  refine ⟨u, ?_, infix_laid _ hmem⟩
  rw [(List.append_inj (heq.symm.trans (List.append_nil _).symm) hlen.symm).1.symm]
  rfl

/-- A template expression ends with a closing brace. -/
theorem getLast?_of_mem_shield_helm {text : Text}
    : ∀ t ∈ (Substitution.helm.shield text).1.store, t.value.getLast? = some 125 := by
  intro t ht
  obtain ⟨u, hu, -⟩ := exists_eq_of_mem_shield_helm t ht
  have hsnoc : 123 :: 123 :: (u ++ [125, 125]) = (123 :: 123 :: (u ++ [125])) ++
    [(125 : UInt8)] := by simp
  rw [hu, hsnoc, List.getLast?_concat]

end Substitution

end YamlOrder
