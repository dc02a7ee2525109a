import YamlOrder.Proofs.Scalar.Writing
import YamlOrder.Proofs.Shield.Restore

/-!
This module contains what quotes do to a value in which pieces are hidden: the tokens stay as they
are between the quotes, so that the pieces are put back as they were, with nothing escaped in them.
-/

namespace YamlOrder

open Yaml (quoteChar)

/-- A byte of ASCII that is written as it is in quotes. -/
def Inert (b : UInt8) : Prop := 0x20 ≤ b.toNat ∧ b.toNat < 0x7F ∧ b ≠ 34 ∧ b ≠ 39 ∧ b ≠ 92

instance (b : UInt8) : Decidable (Inert b) := inferInstanceAs (Decidable (_ ∧ _))

/-- What is written for a text in quotes. -/
def quoteText (single : Bool) (t : Text) : Text :=
    Text.ofChars ((Text.toChars t).flatMap (quoteChar single))

variable {single : Bool} {t u w : Text} {cs : List Char}

theorem quoteText_append (ht : Text.isUtf8 t = true) (u : Text)
    : quoteText single (t ++ u) = quoteText single t ++ quoteText single u := by
  rw [quoteText, Text.toChars_append ht, List.flatMap_append, Text.ofChars_append]
  rfl

theorem isUtf8_quoteText (t : Text) : Text.isUtf8 (quoteText single t) = true :=
    Text.isUtf8_ofChars _

theorem exists_chars_of_inert (single : Bool) (h : ∀ b ∈ w, Inert b)
    : ∃ cs, w = Text.ofChars cs ∧ ∀ c ∈ cs, quoteChar single c = [c] ∧
      Yaml.isBreakOrEnd c = false := by
  induction w with
  | nil => exact ⟨[], rfl, by simp⟩
  | cons b w ih =>
    obtain ⟨cs, rfl, hcs⟩ := ih fun b hb => h b (List.mem_cons_of_mem _ hb)
    have hb := h b List.mem_cons_self
    have hall : ∀ n < 128, Inert (UInt8.ofNat n) →
      String.utf8EncodeChar (Char.ofNat n) = [UInt8.ofNat n] ∧
        (∀ single, quoteChar single (Char.ofNat n) = [Char.ofNat n]) ∧
          Yaml.isBreakOrEnd (Char.ofNat n) = false := by decide +kernel
    have hbyte : UInt8.ofNat b.toNat = b := UInt8.ofNat_toNat
    obtain ⟨hencode, hquote, hline⟩ := hall b.toNat (Nat.lt_succ_of_lt hb.2.1) (hbyte.symm ▸ hb)
    rw [hbyte] at hencode
    refine ⟨Char.ofNat b.toNat :: cs, by rw [Text.ofChars_cons, hencode]; rfl, ?_⟩
    simp only [List.mem_cons, forall_eq_or_imp]
    exact ⟨⟨hquote single, hline⟩, hcs⟩

theorem quoteText_of_inert (single : Bool) (h : ∀ b ∈ w, Inert b)
    : quoteText single w = w ∧ Text.isUtf8 w = true := by
  obtain ⟨cs, rfl, hcs⟩ := exists_chars_of_inert single h
  refine ⟨?_, Text.isUtf8_ofChars cs⟩
  have : cs.flatMap (quoteChar single) = cs := by
    rw [List.flatMap_congr fun c hc => (hcs c hc).1, List.flatMap_singleton']
  rw [quoteText, Text.toChars_ofChars, this]

theorem quoteChar_cases (single : Bool) (c : Char)
    : quoteChar single c = [c] ∨
        ∃ q ds, quoteChar single c = q :: ds ∧ (q = '\'' ∨ q = '\\') ∧ 'y' ∉ q :: ds := by
  cases single with
  | true =>
    by_cases hquote : c = '\''
    . exact .inr ⟨'\'', ['\''], by simp [quoteChar, hquote], .inl rfl, by decide⟩
    . exact .inl (by simp [quoteChar, hquote])
  | false =>
    cases hescape : Yaml.Printer.needsEscape c with
    | false => exact .inl (by simp [quoteChar, hescape])
    | true =>
      obtain ⟨k, ds, heq, -⟩ := Yaml.unescape?_escape c []
      refine .inr ⟨'\\', k :: ds, by simp [quoteChar, hescape, heq], .inr rfl, ?_⟩
      rw [← heq]
      exact Yaml.not_mem_escape c

theorem exists_sign_of_quoteChar {q : Char} (ds : List Char) (hq : q = '\'' ∨ q = '\\')
    : ∃ b v, Text.ofChars (q :: ds) = b :: v ∧ ¬ Inert b := by
  obtain rfl | rfl := hq
  . exact ⟨39, Text.ofChars ds, rfl, by decide⟩
  . exact ⟨92, Text.ofChars ds, rfl, by decide⟩

theorem prefix_of_prefix_quoted (hw : ∀ b ∈ w, Inert b) (u : Text) (cs : List Char)
    (h : w <+: u ++ Text.ofChars (cs.flatMap (quoteChar single)))
    : w <+: u ++ Text.ofChars cs := by
  induction cs generalizing u with
  | nil => exact h
  | cons c cs ih =>
    rw [List.flatMap_cons, Text.ofChars_append] at h
    obtain hc | ⟨q, ds, hc, hq, -⟩ := quoteChar_cases single c
    . rw [hc, ← List.append_assoc] at h
      have := ih _ h
      rwa [List.append_assoc, ← Text.ofChars_append] at this
    . obtain ⟨b, v, hb, hinert⟩ := exists_sign_of_quoteChar ds hq
      rw [hc, hb, List.cons_append] at h
      have := Text.prefix_of_prefix_append_cons (fun hmem => hinert (hw b hmem)) h
      exact this.trans (List.prefix_append _ _)

theorem infix_of_infix_quoted (hw : ∀ b ∈ w, Inert b) (hhead : w.head? = some 121)
    (h : w <:+: Text.ofChars (cs.flatMap (quoteChar single)))
    : w <:+: Text.ofChars cs := by
  obtain ⟨j, hj⟩ := Text.exists_prefix_drop_of_infix h
  clear h
  induction cs generalizing j with
  | nil =>
    rw [List.flatMap_nil, Text.ofChars_nil, List.drop_nil, List.prefix_nil] at hj
    simp [hj] at hhead
  | cons c cs ih =>
    rw [List.flatMap_cons, Text.ofChars_append] at hj
    have hsuffix : Text.ofChars cs <:+: Text.ofChars (c :: cs) := (List.suffix_append _ _).isInfix
    by_cases hlen : (Text.ofChars (quoteChar single c)).length ≤ j
    . rw [List.drop_append, List.drop_eq_nil_of_le hlen, List.nil_append] at hj
      exact (ih _ hj).trans hsuffix
    . rw [List.drop_append_of_le_length (by omega)] at hj
      obtain hc | ⟨q, ds, hc, -, hy⟩ := quoteChar_cases single c
      . rw [hc] at hj hlen
        have := (prefix_of_prefix_quoted hw _ _ hj).isInfix
        rw [← List.drop_append_of_le_length (by omega), ← Text.ofChars_append] at this
        exact this.trans (List.drop_suffix _ _).isInfix
      . exfalso
        have hmem : (121 : UInt8) ∈ Text.ofChars (quoteChar single c) := by
          obtain ⟨b, w, rfl⟩ := List.exists_cons_of_ne_nil
            (show w ≠ [] by rintro rfl; simp at hhead)
          obtain rfl := Option.some.inj hhead
          have hne : (Text.ofChars (quoteChar single c)).drop j ≠ [] := by
            simp only [ne_eq, List.drop_eq_nil_iff]
            omega
          obtain ⟨b', w', hb'⟩ := List.exists_cons_of_ne_nil hne
          rw [hb', List.cons_append, List.cons_prefix_cons] at hj
          rw [hj.1]
          exact List.mem_of_mem_drop (hb' ▸ List.mem_cons_self)
        rw [hc, Text.ofChars, List.mem_flatMap] at hmem
        obtain ⟨d, hd, hbyte⟩ := hmem
        obtain ⟨-, rfl⟩ := Text.eq_of_mem_utf8EncodeChar (by decide) hbyte
        exact hy hd

namespace Piece

/-- What becomes of a piece in quotes: its token stays, and what stands for itself is quoted. -/
def quoted (single : Bool) : Piece → Piece
  | .plain text => .plain (quoteText single text)
  | .hidden sub => .hidden sub

/-- Pieces whose tokens stay as they are in quotes, in valid UTF-8 and on one line. -/
structure Quotable (ps : List Piece) : Prop where
  inert : ∀ t ∈ subs ps, ∀ b ∈ t.token, Inert b
  utf8 : ∀ p ∈ ps, Text.isUtf8 p.meant = true
  line : ∀ p ∈ ps, ∀ c ∈ Text.toChars p.meant, Yaml.isBreakOrEnd c = false

variable {kind : Text} {store : List Substitute} {p : Piece} {ps : List Piece}

theorem Quotable.tail (h : Quotable (p :: ps)) : Quotable ps where
  inert t ht := h.inert t (mem_subs_iff.mpr (List.mem_cons_of_mem _ (mem_subs_iff.mp ht)))
  utf8 q hq := h.utf8 q (List.mem_cons_of_mem _ hq)
  line q hq := h.line q (List.mem_cons_of_mem _ hq)

@[simp]
theorem subs_quoted (single : Bool) (ps : List Piece)
    : subs (ps.map (quoted single)) = subs ps := by
  induction ps with
  | nil => rfl
  | cons p ps ih =>
    cases p
    all_goals simp [quoted, subs, ih]

theorem Quotable.isUtf8_shown (h : Quotable (p :: ps)) : Text.isUtf8 p.shown = true := by
  cases p with
  | plain text => exact h.utf8 _ List.mem_cons_self
  | hidden sub => exact (quoteText_of_inert true (h.inert sub List.mem_cons_self)).2

theorem shownText_quoted (single : Bool) (h : Quotable ps)
    : shownText (ps.map (quoted single)) = quoteText single (shownText ps) := by
  induction ps with
  | nil => rfl
  | cons p ps ih =>
    rw [List.map_cons, shownText_cons, shownText_cons, quoteText_append h.isUtf8_shown, ih h.tail]
    cases p with
    | plain text => rfl
    | hidden sub =>
      have : quoteText single sub.token = sub.token :=
        (quoteText_of_inert single (h.inert sub List.mem_cons_self)).1
      rw [shown, this]
      rfl

theorem Quotable.isUtf8_shownText (h : Quotable ps) : Text.isUtf8 (shownText ps) = true := by
  induction ps with
  | nil => rfl
  | cons p ps ih => rw [shownText_cons, Text.isUtf8_append h.isUtf8_shown, ih h.tail]

theorem Quotable.line_shownText (h : Quotable ps)
    : ∀ c ∈ Text.toChars (shownText ps), Yaml.isBreakOrEnd c = false := by
  induction ps with
  | nil => simp
  | cons p ps ih =>
    rw [shownText_cons, Text.toChars_append h.isUtf8_shown]
    intro c hc
    obtain hc | hc := List.mem_append.mp hc
    . cases p with
      | plain text => exact h.line _ List.mem_cons_self c hc
      | hidden sub =>
        obtain ⟨cs, hcs, hline⟩ := exists_chars_of_inert true (h.inert sub List.mem_cons_self)
        rw [shown, hcs, Text.toChars_ofChars] at hc
        exact (hline c hc).2
    . exact ih h.tail c hc

theorem run_quoted (single : Bool) (h : Quotable ps)
    : run (ps.map (quoted single)) = quoteText single (run ps) ∧ Text.isUtf8 (run ps) = true := by
  induction ps with
  | nil => exact ⟨rfl, rfl⟩
  | cons p ps ih =>
    cases p with
    | hidden sub => exact ⟨rfl, rfl⟩
    | plain text =>
      have hutf8 : Text.isUtf8 text = true := h.utf8 _ List.mem_cons_self
      obtain ⟨hquoted, hrun⟩ := ih h.tail
      simp only [List.map_cons, quoted, run, hquoted, quoteText_append hutf8,
        Text.isUtf8_append hutf8, hrun,
        and_self]

theorem not_infix_run_quoted (hkind : ∀ b ∈ Substitution.tokenStart kind, Inert b) (h : Quotable ps)
    (hrun : ¬ Substitution.tokenStart kind <:+: run ps)
    : ¬ Substitution.tokenStart kind <:+: run (ps.map (quoted single)) := by
  obtain ⟨hquoted, hutf8⟩ := run_quoted single h
  intro hinfix
  rw [hquoted] at hinfix
  have := infix_of_infix_quoted hkind Substitution.head?_tokenStart hinfix
  rw [Text.ofChars_toChars hutf8] at this
  exact hrun this

theorem Clear.quoted (hkind : ∀ b ∈ Substitution.tokenStart kind, Inert b)
    (hstore : ∀ t ∈ store, ∀ b ∈ t.token, Inert b) (hps : Quotable ps) (h : Clear kind store ps)
    : Clear kind store (ps.map (Piece.quoted single)) := by
  induction ps with
  | nil => trivial
  | cons p ps ih =>
    cases p with
    | plain text => exact ih hps.tail h
    | hidden sub =>
      obtain ⟨htoken, hshort, hrun, hrest⟩ := h
      refine ⟨htoken, ?_, not_infix_run_quoted hkind hps.tail hrun, ih hps.tail hrest⟩
      intro t ht hlen hpre
      rw [shownText_quoted single hps.tail] at hpre
      have := prefix_of_prefix_quoted (hstore t ht) _ _ hpre
      rw [Text.ofChars_toChars hps.tail.isUtf8_shownText] at this
      exact hshort t ht hlen this

theorem not_infix_run_append {sign : UInt8} (hsign : sign ∉ Substitution.tokenStart kind)
    (hrun : ¬ Substitution.tokenStart kind <:+: run ps)
    : ¬ Substitution.tokenStart kind <:+: run (ps ++ [.plain [sign]]) := by
  intro h
  obtain heq | heq := run_append_plain ps [sign] []
  . rw [heq] at h
    obtain h | h := Text.infix_append_cons_of_not_mem hsign h
    . exact hrun h
    . simp [run, Substitution.tokenStart, Substitution.namespaceWord] at h
  . exact hrun (heq ▸ h)

theorem Clear.append_plain {sign : UInt8} (hsign : sign ∉ Substitution.tokenStart kind)
    (hstore : ∀ t ∈ store, sign ∉ t.token) (h : Clear kind store ps)
    : Clear kind store (ps ++ [.plain [sign]]) := by
  induction ps with
  | nil => trivial
  | cons p ps ih =>
    cases p with
    | plain text => exact ih h
    | hidden sub =>
      obtain ⟨htoken, hshort, hrun, hrest⟩ := h
      refine ⟨htoken, ?_, not_infix_run_append hsign hrun, ih hrest⟩
      intro t ht hlen hpre
      apply hshort t ht hlen
      have hpre : t.token <+: (sub.token ++ shownText ps) ++ sign :: [] := by
        simpa [shown] using hpre
      exact Text.prefix_of_prefix_append_cons (hstore t ht) hpre

end Piece

namespace Substitution

open Piece (shownText meantText subs quoted Quotable)

/-- The sign at both ends of a quoted text. -/
def quoteSign (single : Bool) : UInt8 := if single then 39 else 34

theorem ofChars_quote (single : Bool)
    : Text.ofChars [Yaml.scanQuoted.quote single] = [quoteSign single] := by
  cases single
  all_goals rfl

theorem not_inert_quoteSign (single : Bool) : ¬ Inert (quoteSign single) := by
  cases single
  all_goals decide

variable {s : Substitution} {ps : List Piece}

theorem inert_of_mem_token {kind : Text} (hkind : ∀ b ∈ tokenStart kind, Inert b) (n : Nat)
    : ∀ b ∈ token kind n, Inert b := by
  intro b hb
  obtain hb | hb := isTokenByte_of_mem_token hb
  . exact hkind b hb
  . simp only [Text.isDigit, Bool.and_eq_true, decide_eq_true_eq, UInt8.le_iff_toNat_le] at hb
    have h0 : (48 : UInt8).toNat = 48 := rfl
    have h9 : (57 : UInt8).toNat = 57 := rfl
    refine ⟨by omega, by omega, ?_, ?_, ?_⟩
    all_goals
      rintro rfl
      exact absurd hb (by decide)

theorem Hides.inert (hkind : ∀ b ∈ tokenStart s.kind, Inert b) (hs : s.Issued) (h : s.Hides ps)
    : ∀ t ∈ subs ps, ∀ b ∈ t.token, Inert b := by
  intro t ht
  obtain ⟨n, hn⟩ := hs.numbered t (h.stored t ht)
  rw [hn]
  exact inert_of_mem_token hkind n

theorem Hides.quoted (single : Bool) (hkind : ∀ b ∈ tokenStart s.kind, Inert b) (hs : s.Issued)
    (h : s.Hides ps) (hps : Quotable ps)
    : s.Hides
        (.plain [quoteSign single] :: (ps.map (Piece.quoted single) ++
          [.plain [quoteSign single]])) := by
  have hsign : quoteSign single ∉ tokenStart s.kind :=
    fun hmem => not_inert_quoteSign single (hkind _ hmem)
  have hstore : ∀ t ∈ s.store, ∀ b ∈ t.token, Inert b := by
    intro t ht
    obtain ⟨n, hn⟩ := hs.numbered t ht
    rw [hn]
    exact inert_of_mem_token hkind n
  have hsubs : subs
    (.plain [quoteSign single] :: (ps.map (Piece.quoted single) ++ [.plain [quoteSign single]])) =
      subs ps := by
    simp [subs]
  exact {
    clear := (h.clear.quoted hkind hstore hps).append_plain hsign
      fun t ht hmem => not_inert_quoteSign single (hstore t ht _ hmem)
    run := by
      intro hinfix
      obtain hinfix | hinfix := Text.infix_append_cons_of_not_mem (u := []) hsign hinfix
      . simp [tokenStart, namespaceWord] at hinfix
      . exact Piece.not_infix_run_append hsign (Piece.not_infix_run_quoted hkind hps h.run) hinfix
    nodup := hsubs ▸ h.nodup
    stored := hsubs ▸ h.stored
  }

/-- The text of a value that is written in quotes at the start of a page. -/
def inQuotes (single : Bool) (value : Text) : Text :=
  Text.ofChars (({ width := 0 } : Yaml.Printer).writeStyled (Yaml.scanQuoted.style single)
    (Text.toChars value)).out.reverse

theorem inQuotes_eq {value : Text} (h : Yaml.OneLine (Text.toChars value))
    : inQuotes single value = [quoteSign single] ++
      (quoteText single value ++ [quoteSign single]) := by
  rw [inQuotes, Yaml.Printer.out_writeStyled_quoted _ single h]
  simp only [Yaml.Printer.separate, if_true, List.append_nil, List.reverse_reverse]
  rw [List.cons_append, Text.ofChars_cons, Text.ofChars_append, ofChars_quote, quoteText]
  have := ofChars_quote single
  rw [Text.ofChars_cons, Text.ofChars_nil, List.append_nil] at this
  rw [this]

/-- The pieces are put back between the quotes as they were, and everything else is quoted. -/
theorem restore_inQuotes (hkind : Text.Apart (tokenStart s.kind) (tokenStart s.kind))
    (hinert : ∀ b ∈ tokenStart s.kind, Inert b) (hs : s.Issued) (h : s.Hides ps) (hps : Quotable ps)
    (hline : Yaml.OneLine (Text.toChars (shownText ps)))
    : s.restore (inQuotes single (shownText ps)) =
        [quoteSign single] ++ (meantText (ps.map (Piece.quoted single)) ++ [quoteSign single]) := by
  have hshown : inQuotes single (shownText ps) =
      shownText
        (.plain [quoteSign single] :: (ps.map (Piece.quoted single) ++
          [.plain [quoteSign single]])) := by
    rw [inQuotes_eq hline, Piece.shownText_cons, Piece.shownText_append,
      Piece.shownText_quoted single hps]
    rfl
  rw [hshown, restore_shownText hkind hs (h.quoted single hinert hs hps)]
  simp [meantText, Piece.meant]

end Substitution

end YamlOrder
