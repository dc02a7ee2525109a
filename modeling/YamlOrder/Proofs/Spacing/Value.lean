import YamlOrder.Proofs.Spacing.Cursor
import YamlOrder.Yaml.Token.Scalar

/-!
This module contains what added lines do to the value of a scalar: they change its spaces and line
breaks at most, and nothing at all unless they are added within the scalar.
-/

namespace YamlOrder
namespace Yaml

/-- What a value is apart from its spaces and line breaks. -/
def squeeze (cs : List Char) : List Char := cs.filter fun c => c != ' ' && c != '\n'

/-- Two values that differ in spaces and line breaks at most, and not at all under a condition. -/
structure Alike (q : Prop) (x x' : List Char) : Prop where
  squeeze_eq : squeeze x' = squeeze x
  eq : q → x' = x

namespace Alike

variable {q q' : Prop} {x x' y y' : List Char}

theorem refl (q : Prop) (x : List Char) : Alike q x x := ⟨rfl, fun _ => rfl⟩

theorem mono (h : Alike q x x') (hq : q' → q) : Alike q' x x' :=
    ⟨h.squeeze_eq, fun hq' => h.eq (hq hq')⟩

theorem append (h : Alike q x x') (hy : Alike q y y') : Alike q (x ++ y) (x' ++ y') := by
  constructor
  . simp only [squeeze, List.filter_append] at *
    rw [← squeeze, h.squeeze_eq, ← squeeze, hy.squeeze_eq]
    rfl
  . intro hq
    rw [h.eq hq, hy.eq hq]

theorem reverse (h : Alike q x x') : Alike q x.reverse x'.reverse := by
  constructor
  . have := h.squeeze_eq
    simp only [squeeze, List.filter_reverse] at *
    rw [this]
  . intro hq
    rw [h.eq hq]

theorem add_newline (h : Alike q x x') (hq : ¬ q') : Alike q' x (x' ++ ['\n']) := by
  constructor
  . have := h.squeeze_eq
    simp only [squeeze, List.filter_append] at *
    rw [this]
    exact List.append_nil _
  . intro hq'
    exact absurd hq' hq

theorem of_squeeze_eq_nil (hx : squeeze x = []) (hx' : squeeze x' = []) (h : q → x' = x)
    : Alike q x x' :=
  ⟨by rw [hx, hx'], h⟩

end Alike

namespace Gap

/-- One more blank, which only counts before the first line break. -/
def addBlank (g : Gap) (ch : Char) : Gap := if g.leading then g
    else { g with blanks := g.blanks ++ [ch] }

/-- One more line break. -/
def addBreak (g : Gap) (cs : List Char) : Gap :=
  if g.leading then { g with breaks := g.breaks ++ cs }
  else { g with blanks := [], leading := true, firstBreak := cs }

variable {start : Mark} {least fuel : Nat} {g : Gap} {c : Cursor}

theorem scan_blank (h : isBlank c.peek = true)
    : scan start least (fuel + 1) g c =
        if g.leading && c.mark.column < least && c.peek == '\t' then
          .error (c.problem start .tabViolatesIndent)
        else
          scan start least fuel (g.addBlank c.peek) (c.skip.need 1) := by
  rw [scan, if_pos h]
  rfl

theorem scan_break (hblank : isBlank c.peek = false) (h : isBreak c.peek = true)
    : scan start least (fuel + 1) g c = scan start least fuel (g.addBreak c.lineBreak)
      (c.skipLine.need 1) := by
  rw [scan, hblank, if_pos h]
  rfl

theorem scan_stop (hblank : isBlank c.peek = false) (h : isBreak c.peek = false)
    : scan start least (fuel + 1) g c = .ok (g, c) := by
  rw [scan, hblank, h]
  rfl

end Gap

/-- Two gaps that differ in their later line breaks at most, and not at all under a condition. -/
structure GapTwin (q : Prop) (g g' : Gap) : Prop where
  leading : g'.leading = g.leading
  blanks : g'.blanks = g.blanks
  firstBreak : g'.firstBreak = g.firstBreak
  breaks : Alike q g.breaks g'.breaks

namespace GapTwin

variable {q q' : Prop} {g g' : Gap}

theorem refl (q : Prop) (g : Gap) : GapTwin q g g := ⟨rfl, rfl, rfl, .refl q _⟩

theorem mono (h : GapTwin q g g') (hq : q' → q) : GapTwin q' g g' :=
    { h with breaks := h.breaks.mono hq }

theorem addBlank (h : GapTwin q g g') (ch : Char) : GapTwin q (g.addBlank ch) (g'.addBlank ch) := by
  unfold Gap.addBlank
  rw [h.leading]
  split
  . exact h
  . exact ⟨rfl, by rw [h.blanks], h.firstBreak, h.breaks⟩

theorem addBreak (h : GapTwin q g g') (cs : List Char)
    : GapTwin q (g.addBreak cs) (g'.addBreak cs) := by
  unfold Gap.addBreak
  rw [h.leading]
  split
  . exact ⟨rfl, h.blanks, h.firstBreak, h.breaks.append (.refl q cs)⟩
  . exact ⟨rfl, rfl, rfl, h.breaks⟩

theorem addLine (h : GapTwin q g g') (hleading : g.leading = true) (hq : ¬ q')
    : GapTwin q' g (g'.addBreak ['\n']) := by
  unfold Gap.addBreak
  rw [h.leading, hleading, if_pos rfl]
  exact ⟨hleading.symm, h.blanks, h.firstBreak, h.breaks.add_newline hq⟩

theorem folded (h : GapTwin q g g') : Alike q g.folded g'.folded := by
  have hbreaks (g : Gap) : squeeze (if g.breaks.isEmpty then [' '] else g.breaks) =
    squeeze g.breaks := by
    split
    . next hempty =>
      rw [List.isEmpty_iff] at hempty
      rw [hempty]
      rfl
    . rfl
  unfold Gap.folded
  rw [h.leading, h.blanks, h.firstBreak]
  split
  . split
    . constructor
      . rw [hbreaks, hbreaks, h.breaks.squeeze_eq]
      . intro hq
        rw [h.breaks.eq hq]
    . exact (Alike.refl q _).append h.breaks
  . exact .refl q _

end GapTwin

theorem Gap.leading_addBreak (g : Gap) (cs : List Char) : (g.addBreak cs).leading = true := by
  unfold Gap.addBreak
  split
  . next h => exact h
  . rfl

namespace Gap

variable {start : Mark} {least fuel : Nat} {g g' : Gap} {c c' : Cursor}

theorem length_scan (h : scan start least fuel g c = .ok (g', c'))
    : c'.rest.length ≤ c.rest.length := by
  induction fuel generalizing g c with
  | zero =>
    cases h
    exact Nat.le_refl _
  | succ fuel ih =>
    unfold scan at h
    split at h
    . split at h
      . cases h
      . have := ih h
        rw [Cursor.rest_need] at this
        exact this.trans (Cursor.length_skip_le c)
    . split at h
      . have := ih h
        rw [Cursor.rest_need] at this
        exact this.trans (Cursor.length_skipLine_le c)
      . cases h
        exact Nat.le_refl _

theorem length_scan_lt (hgap : isBlank c.peek = true ∨ isBreak c.peek = true)
    (h : scan start least (fuel + 1) g c = .ok (g', c')) : c'.rest.length < c.rest.length := by
  cases hblank : isBlank c.peek with
  | true =>
    rw [scan_blank hblank] at h
    split at h
    . cases h
    . have := length_scan h
      rw [Cursor.rest_need] at this
      exact Nat.lt_of_le_of_lt this (Cursor.length_skip_lt (ne_endChar_of_isBlank hblank))
  | false =>
    have hbreak : isBreak c.peek = true := by simpa [hblank] using hgap
    rw [scan_break hblank hbreak] at h
    have := length_scan h
    rw [Cursor.rest_need] at this
    exact Nat.lt_of_le_of_lt this (Cursor.length_skipLine_lt hbreak)

end Gap

namespace Spacing

/-- Whether a block scalar that starts here keeps all line breaks at its end. -/
def keepsBreaks (p : Spacing) (first : Mark) : Bool :=
    ((p.chars.drop (first.index + 1)).take 2).contains '+'

/-- The index up to which line breaks have a part in the value of a scalar. -/
def reach (p : Spacing) (t : Token) (style : ScalarStyle) : Nat :=
  if (style == .literal || style == .folded) && !p.keepsBreaks t.first then t.last.index - 1
  else t.last.index

/-- The style of a scalar. -/
def style? : TokenKind → Option ScalarStyle
  | .scalar _ style => some style
  | _ => none

/-- Whether no line is added where it would have a part in the value of a scalar. -/
def Spares (p : Spacing) (t : Token) : Prop :=
  ∀ style ∈ style? t.kind, p.count (p.reach t style) = p.count t.first.index

instance (p : Spacing) (t : Token) : Decidable (p.Spares t) :=
  inferInstanceAs
  (Decidable (∀ style ∈ style? t.kind, p.count (p.reach t style) = p.count t.first.index))

/-- Two tokens of the same kind. The values of scalars differ in spaces and line breaks at most. -/
inductive KindTwin (q : Prop) : TokenKind → TokenKind → Prop where
  | same (k : TokenKind) : KindTwin q k k
  | scalar {v v' : List Char} (h : Alike q v v') (style : ScalarStyle)
    : KindTwin q (.scalar (Text.ofChars v) style) (.scalar (Text.ofChars v') style)

theorem KindTwin.mono {q q' : Prop} {k k' : TokenKind} (h : KindTwin q k k') (hq : q' → q)
    : KindTwin q' k k' := by
  cases h with
  | same => exact .same k
  | scalar h style => exact .scalar (h.mono hq) style

/-- Two tokens of the same kind. A scalar within which no line is added keeps its value. -/
def TokenTwin (p : Spacing) (t t' : Token) : Prop := KindTwin (p.Spares t) t.kind t'.kind

variable {p : Spacing} {K : Mark → Prop} {c c' : Cursor} {g g' : Gap} {least fuel fuel' a : Nat}

theorem Late.scan_eq (h : p.Late K c c') (start : Mark)
    : Gap.scan start least (fuel' + 1) g' c' = Gap.scan start least fuel' (g'.addBreak ['\n'])
      c'.skipLine := by
  rw [Gap.scan_break (by rw [h.peek']; rfl) (by rw [h.peek']; rfl), h.lineBreak',
    h.skipLine.whole'.need]

theorem scan_twin (least : Nat) (start start' : Mark) (h : p.Twin K c c')
    (ha : p.count a ≤ p.count c.mark.index) (hg : GapTwin (p.count c.mark.index = p.count a) g g')
    (hfuel : c.rest.length < fuel) (hample : p.Ample fuel fuel' c.mark.index)
    : Simulates (fun r r' => p.Twin K r.2 r'.2 ∧ p.count a ≤ p.count r.2.mark.index ∧
          GapTwin (p.count r.2.mark.index = p.count a) r.1 r'.1)
        (Gap.scan start least fuel g c) (Gap.scan start' least fuel' g' c') := by
  induction fuel generalizing fuel' g g' c c' with
  | zero => exact absurd hfuel (Nat.not_lt_zero _)
  | succ fuel ih =>
    obtain ⟨fuel', rfl⟩ := exists_fuel hample
    unfold Ample at hample
    cases hblank : isBlank c.peek with
    | true =>
      have hne : c.peek ≠ '\n' := ne_newline_of_isBlank hblank
      have hnext := h.skip hne
      have hcount : p.count c.skip.mark.index = p.count c.mark.index := h.count_succ hne
      rw [Gap.scan_blank hblank, Gap.scan_blank (by rwa [h.peek]), h.peek, h.column, hg.leading,
        hnext.whole.need,
        hnext.whole'.need]
      split
      . exact .error _ _
      . refine ih hnext (by rwa [hcount]) ?_ ?_ ?_
        . rw [hcount]
          exact hg.addBlank _
        . have := h.length_lt hnext (ne_endChar_of_isBlank hblank) (Nat.lt_succ_self _)
          omega
        . unfold Ample
          omega
    | false =>
      cases hbreak : isBreak c.peek with
      | true =>
        have hlt : c.mark.index < c.skipLine.mark.index := Cursor.index_lt_skipLine h.whole hbreak
        have hmono := p.count_mono hlt.le
        rw [Gap.scan_break hblank hbreak, Gap.scan_break (by rwa [h.peek]) (by rwa [h.peek]),
          h.lineBreak,
          h.whole.skipLine.need, h.whole'.skipLine.need]
        obtain hnext | hlate := h.here.skipLine hbreak
        . have hlength := h.length_lt hnext (ne_endChar_of_isBreak hbreak) hlt
          refine ih (hnext.mono fun m => .inl) (by omega) ?_ (by omega) (by unfold Ample; omega)
          exact (hg.addBreak _).mono fun heq => by omega
        . have hcount := hlate.count_lt (.inr rfl)
          have hlength := h.length_lt hlate.skipLine (ne_endChar_of_isBreak hbreak) hlt
          obtain ⟨fuel', rfl⟩ : ∃ k, fuel' = k + 1 := by
            have := p.count_le c.skipLine.mark.index
            exact ⟨fuel' - 1, by omega⟩
          rw [hlate.scan_eq]
          refine ih (hlate.skipLine.mono fun m => .inl) (by omega) ?_ (by omega)
            (by unfold Ample; omega)
          exact (hg.addBreak _).addLine (Gap.leading_addBreak _ _) (by omega)
      | false =>
        rw [Gap.scan_stop hblank hbreak, Gap.scan_stop (by rwa [h.peek]) (by rwa [h.peek])]
        exact .ok ⟨h, ha, hg⟩

/-- A gap that starts where a line may be added, if it already has a line break. -/
theorem scan_near (start start' : Mark) {m : Mark} (hm : K m)
    (h : p.Twin K c c' ∨ p.Late K c c' ∧ g.leading = true)
    : Simulates (fun r r' => p.Twin K r.2 r'.2 ∧ p.count m.index ≤ p.count r.2.mark.index ∧
          GapTwin (p.count r.2.mark.index = p.count m.index) r.1 r'.1)
        (Gap.scan start least (c.rest.length + 1) g c)
        (Gap.scan start' least (c'.rest.length + 1) g c') := by
  obtain h | ⟨h, hleading⟩ := h
  . exact scan_twin least start start' h (p.count_mono (h.seen m hm).1) (.refl _ _)
      (Nat.lt_succ_self _) h.ample
  . have hcount := h.count_lt hm
    have hample := h.skipLine.ample
    have hgap : GapTwin (p.count c.mark.index = p.count m.index) g (g.addBreak ['\n']) :=
      (GapTwin.refl True g).addLine hleading (by omega)
    rw [h.rest', List.length_cons, h.scan_eq]
    rw [h.skipLine.rest'] at hample
    exact scan_twin least start start' h.skipLine hcount.le hgap (Nat.lt_succ_self _) hample

end Spacing
end Yaml
end YamlOrder
