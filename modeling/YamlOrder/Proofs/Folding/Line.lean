import YamlOrder.Proofs.Spacing.BlockScalar
import YamlOrder.Proofs.Spacing.Comment
import YamlOrder.Proofs.Spacing.FlowScalar
import YamlOrder.Proofs.Spacing.Name

/-!
This module contains what is read on one line: characters, anchors, tags, escape sequences, the
headers of block scalars and the comments after tokens. Two readers with the same line before them
read the same.
-/

namespace YamlOrder
namespace Yaml

/--
Two readers whose lines go on in the same way. Where a comment may start, both or none of them are
behind a line break.
-/
structure SameLine (c c' : Cursor) : Prop where
  line : ∃ w r r', c.rest = w ++ r ∧ c'.rest = w ++ r' ∧ (∀ ch ∈ w, isBreak ch = false) ∧
    (r = [] ∧ r' = [] ∨ ∃ d x x', isBreak d = true ∧ r = d :: x ∧ r' = d :: x')
  column : c'.mark.column = c.mark.column
  newlines : (c.peek == '#' || isBlank c.peek) = true → (c'.newlines = 0 ↔ c.newlines = 0)
  whole : c.Whole
  whole' : c'.Whole

/-- Two readers that have gone on in step, without passing a line break. -/
def Along (c c' d d' : Cursor) : Prop :=
  ∃ n, (∀ k < n, isBreak (c.peek k) = false) ∧ d = c.skipN n ∧ d' = c'.skipN n

variable {c c' d d' e e' : Cursor} {f : Char → Bool} {n : Nat}

theorem exists_line_split (cs : List Char)
    : ∃ w r, cs = w ++ r ∧ (∀ ch ∈ w, isBreak ch = false) ∧
      (r = [] ∨ ∃ d x, isBreak d = true ∧ r = d :: x) := by
  refine ⟨cs.takeWhile (!isBreak ·), cs.dropWhile (!isBreak ·),
    List.takeWhile_append_dropWhile.symm, ?_, ?_⟩
  . intro ch hch
    simpa using List.mem_takeWhile_imp hch
  . cases hdrop : cs.dropWhile (!isBreak ·) with
    | nil => exact .inl rfl
    | cons d x =>
      have hstop := List.head?_dropWhile_not (!isBreak ·) cs
      rw [hdrop] at hstop
      exact .inr ⟨d, x, by simpa using hstop, rfl⟩

theorem plainRun_of_isBreak {d : Char} (inFlow : Bool) (h : isBreak d = true) (x : List Char)
    : plainRun inFlow (d :: x) = 0 := by
  have hblank : isBlankOrEnd d = true := by simp [isBlankOrEnd, isBreakOrEnd, h]
  simp [plainRun, hblank]

theorem Cursor.skipN_skipN (m n : Nat) (c : Cursor) : (c.skipN m).skipN n = c.skipN (m + n) := by
  induction m generalizing c with
  | zero =>
    rw [Nat.zero_add]
    rfl
  | succ m ih =>
    rw [Nat.add_right_comm, Cursor.skipN, Cursor.skipN, ih]

theorem Cursor.takeWhile_of_peek (h : f c.peek = false) : c.rest.takeWhile f = [] := by
  rw [peek_eq] at h
  cases hrest : c.rest with
  | nil => rfl
  | cons ch cs =>
    rw [hrest] at h
    exact List.takeWhile_cons_of_neg (Bool.eq_false_iff.mp h)

theorem newlines_skip (hpeek : c'.peek = c.peek)
    (h : (c.peek == '#' || isBlank c.peek) = true → (c'.newlines = 0 ↔ c.newlines = 0))
    : c'.skip.newlines = 0 ↔ c.skip.newlines = 0 := by
  simp only [Cursor.skip, hpeek]
  split
  . next hblank => exact h (by rw [hblank, Bool.or_true])
  . exact Iff.rfl

theorem Cursor.line_skipN (n : Nat) (c : Cursor) : (c.skipN n).mark.line = c.mark.line := by
  induction n generalizing c with
  | zero => rfl
  | succ n ih => rw [skipN, ih, skip]

namespace SameLine

theorem refl (h : c.Whole) : SameLine c c := by
  obtain ⟨w, r, hrest, hw, hr⟩ := exists_line_split c.rest
  refine ⟨⟨w, r, r, hrest, hrest, hw, ?_⟩, rfl, fun _ => Iff.rfl, h, h⟩
  obtain rfl | ⟨d, x, hd, rfl⟩ := hr
  . exact .inl ⟨rfl, rfl⟩
  . exact .inr ⟨d, x, x, hd, rfl, rfl⟩

theorem exists_line_of (h : SameLine c c') (hn : ∀ k < n, isBreak (c.peek k) = false)
    : ∃ w r r', c.rest = w ++ r ∧ c'.rest = w ++ r' ∧
        (r = [] ∧ r' = [] ∨ n ≤ w.length ∧ ∃ d x x', r = d :: x ∧ r' = d :: x') := by
  obtain ⟨w, r, r', hr, hr', -, hnil | ⟨d, x, x', hd, rfl, rfl⟩⟩ := h.line
  . exact ⟨w, r, r', hr, hr', .inl hnil⟩
  . refine ⟨w, _, _, hr, hr', .inr ⟨?_, d, x, x', rfl, rfl⟩⟩
    by_contra hlt
    have hpeek : c.peek w.length = d := by
      rw [Cursor.peek_eq, hr]
      simp [List.getD_eq_getElem?_getD]
    have hbreak := hn w.length (by omega)
    rw [hpeek, hd] at hbreak
    cases hbreak

theorem peek_of (h : SameLine c c') (hn : ∀ k < n, isBreak (c.peek k) = false)
    : c'.peek n = c.peek n := by
  obtain ⟨w, r, r', hr, hr', ⟨rfl, rfl⟩ | ⟨hlength, d, x, x', rfl, rfl⟩⟩ := h.exists_line_of hn
  . rw [Cursor.peek_eq, Cursor.peek_eq, hr, hr']
  . rw [Cursor.peek_eq, Cursor.peek_eq, hr, hr']
    simp only [List.getD_eq_getElem?_getD]
    obtain hlt | rfl := Nat.lt_or_eq_of_le hlength
    . rw [List.getElem?_append_left hlt, List.getElem?_append_left hlt]
    . simp

theorem take (h : SameLine c c') (hn : ∀ k < n, isBreak (c.peek k) = false)
    : c'.rest.take n = c.rest.take n := by
  obtain ⟨w, r, r', hr, hr', ⟨rfl, rfl⟩ | ⟨hlength, d, x, x', rfl, rfl⟩⟩ := h.exists_line_of hn
  . rw [hr, hr']
  . rw [hr, hr', List.take_append_of_le_length hlength, List.take_append_of_le_length hlength]

theorem peek (h : SameLine c c') : c'.peek = c.peek :=
  h.peek_of fun k hk => absurd hk (Nat.not_lt_zero k)

theorem peek_one (h : SameLine c c') (hc : isBreak c.peek = false) : c'.peek 1 = c.peek 1 := by
  apply h.peek_of
  intro k hk
  obtain rfl : k = 0 := by omega
  exact hc

theorem takeWhile (h : SameLine c c') (hf : ∀ ch, isBreak ch = true → f ch = false)
    : c'.rest.takeWhile f = c.rest.takeWhile f := by
  obtain ⟨w, r, r', hr, hr', -, ⟨rfl, rfl⟩ | ⟨d, x, x', hd, rfl, rfl⟩⟩ := h.line
  . rw [hr, hr']
  . rw [hr, hr', List.takeWhile_append, List.takeWhile_append,
      List.takeWhile_cons_of_neg (by simp [hf d hd]),
      List.takeWhile_cons_of_neg (by simp [hf d hd])]

theorem skip (h : SameLine c c') (hc : isBreak c.peek = false) : SameLine c.skip c'.skip := by
  refine ⟨?_, ?_, ?_, h.whole.skip, h.whole'.skip⟩
  . obtain ⟨w, r, r', hr, hr', hw, hend⟩ := h.line
    cases w with
    | nil =>
      obtain ⟨rfl, rfl⟩ | ⟨d, x, x', hd, rfl, rfl⟩ := hend
      . exact ⟨[], [], [], by rw [Cursor.rest_skip, hr]; rfl,
          by rw [Cursor.rest_skip, hr']; rfl, by simp,
          .inl ⟨rfl, rfl⟩⟩
      . rw [Cursor.peek_of_rest hr, hd] at hc
        cases hc
    | cons ch w =>
      refine ⟨w, r, r', ?_, ?_, fun a ha => hw a (List.mem_cons_of_mem ch ha), hend⟩
      . rw [Cursor.rest_skip, hr]
        rfl
      . rw [Cursor.rest_skip, hr']
        rfl
  . rw [Cursor.column_skip, Cursor.column_skip, h.column]
  . exact fun _ => newlines_skip h.peek h.newlines

theorem lineBreak (h : SameLine c c') : c'.lineBreak = c.lineBreak := by
  unfold Cursor.lineBreak
  rw [h.peek]

theorem atMarker {m : Char} (h : SameLine c c') (hm : isBreak m = false)
    : c'.atMarker m = c.atMarker m := by
  refine Cursor.atMarker_congr h.column fun n hn => h.peek_of fun k hk => ?_
  rwa [hn k hk]

theorem atDocumentMarker (h : SameLine c c') : c'.atDocumentMarker = c.atDocumentMarker := by
  unfold Cursor.atDocumentMarker
  rw [h.atMarker rfl, h.atMarker rfl]

theorem plainRun (h : SameLine c c') (inFlow : Bool)
    : Yaml.plainRun inFlow c'.rest = Yaml.plainRun inFlow c.rest := by
  obtain ⟨w, r, r', hr, hr', -, ⟨rfl, rfl⟩ | ⟨d, x, x', hd, rfl, rfl⟩⟩ := h.line
  . rw [hr, hr']
  . rw [hr, hr']
    exact plainRun_append inFlow w rfl (plainRun_of_isBreak inFlow hd x)
      (plainRun_of_isBreak inFlow hd x')

end SameLine

namespace Along

theorem refl (c c' : Cursor) : Along c c' c c' :=
    ⟨0, fun k hk => absurd hk (Nat.not_lt_zero k), rfl, rfl⟩

theorem skipN (hn : ∀ k < n, isBreak (c.peek k) = false) : Along c c' (c.skipN n) (c'.skipN n) :=
    ⟨n, hn, rfl, rfl⟩

theorem skip (hc : isBreak c.peek = false) : Along c c' c.skip c'.skip := by
  refine ⟨1, ?_, rfl, rfl⟩
  intro k hk
  obtain rfl : k = 0 := by omega
  exact hc

theorem sameLine (h : Along c c' d d') (hc : SameLine c c') : SameLine d d' := by
  obtain ⟨n, hn, rfl, rfl⟩ := h
  induction n generalizing c c' with
  | zero => exact hc
  | succ n ih =>
    refine ih (hc.skip (hn 0 (Nat.zero_lt_succ n))) fun k hk => ?_
    rw [← Cursor.peek_succ]
    exact hn (k + 1) (Nat.succ_lt_succ hk)

theorem trans (h : Along c c' d d') (hd : Along d d' e e') : Along c c' e e' := by
  obtain ⟨n, hn, rfl, rfl⟩ := h
  obtain ⟨m, hm, rfl, rfl⟩ := hd
  refine ⟨n + m, ?_, Cursor.skipN_skipN n m c, Cursor.skipN_skipN n m c'⟩
  intro k hk
  obtain hlt | hle := Nat.lt_or_ge k n
  . exact hn k hlt
  . have := hm (k - n) (by omega)
    rw [Cursor.peek_eq, Cursor.rest_skipN, List.getD_eq_getElem?_getD, List.getElem?_drop,
      Nat.add_sub_cancel' hle,
      ← List.getD_eq_getElem?_getD] at this
    exact this

theorem suffix (h : Along c c' d d') : d.rest <:+ c.rest := by
  obtain ⟨n, -, rfl, -⟩ := h
  rw [Cursor.rest_skipN]
  exact List.drop_suffix n _

theorem isBreak_of_lt_takeWhile (hf : ∀ ch, isBreak ch = true → f ch = false) {k : Nat}
    (hk : k < (c.rest.takeWhile f).length) : isBreak (c.peek k) = false := by
  have hlt : k < c.rest.length := Nat.lt_of_lt_of_le hk (List.takeWhile_prefix f).length_le
  have hmem : (c.rest.takeWhile f)[k] ∈ c.rest.takeWhile f := List.getElem_mem hk
  have hget : (c.rest.takeWhile f)[k] = c.peek k := by
    rw [(List.takeWhile_prefix f).getElem hk, Cursor.peek_eq, List.getD_eq_getElem?_getD,
      List.getElem?_eq_getElem hlt]
    rfl
  rw [hget] at hmem
  by_contra hbreak
  rw [Bool.not_eq_false] at hbreak
  have := List.mem_takeWhile_imp hmem
  rw [hf _ hbreak] at this
  cases this

theorem skipWhile (h : SameLine c c') (hf : ∀ ch, isBreak ch = true → f ch = false)
    : Along c c' (c.skipWhile f) (c'.skipWhile f) := by
  unfold Cursor.skipWhile
  rw [h.takeWhile hf, (h.whole.skipN _).need, (h.whole'.skipN _).need]
  exact .skipN fun k hk => isBreak_of_lt_takeWhile hf hk

end Along

theorem isBlank_of_isBreak {ch : Char} (h : isBreak ch = true) : isBlank ch = false := by
  by_contra hblank
  rw [Bool.not_eq_false] at hblank
  simp only [isBlank, Bool.or_eq_true, beq_iff_eq] at hblank
  obtain rfl | rfl := hblank
  all_goals cases h

theorem beq_space_of_isBlank {ch : Char} (h : isBlank ch = false) : (ch == ' ') = false :=
  (Bool.or_eq_false_iff.mp h).1

theorem SameLine.skipBlanks (h : SameLine c c') : Along c c' c.skipBlanks c'.skipBlanks :=
  .skipWhile h fun _ => isBlank_of_isBreak

theorem SameLine.skipToBreak (h : SameLine c c') : Along c c' c.skipToBreak c'.skipToBreak :=
  .skipWhile h fun ch hch => by simp [isBreakOrEnd, hch]

/-- Two results on the same line, with the readers still in step. -/
def LineTwin {α : Type} (c c' : Cursor) (r r' : α × Cursor) : Prop :=
    r'.1 = r.1 ∧ Along c c' r.2 r'.2

variable {now now' : Cursor} {fuel fuel' : Nat}

theorem LineTwin.trans {α : Type} {r r' : α × Cursor} (hd : LineTwin d d' r r')
    (h : Along c c' d d')
    : LineTwin c c' r r' := ⟨hd.1, h.trans hd.2⟩

theorem of_isBreak {P : Char → Prop}
    (h : P '\r' ∧ P '\n' ∧ P (Char.ofNat 0x85) ∧ P (Char.ofNat 0x2028) ∧ P (Char.ofNat 0x2029))
    {ch : Char} (hch : isBreak ch = true) : P ch := by
  obtain ⟨hreturn, hnewline, hnel, hline, hparagraph⟩ := h
  simp only [isBreak, Bool.or_eq_true, beq_iff_eq, or_assoc] at hch
  obtain rfl | rfl | rfl | rfl | rfl := hch
  . exact hreturn
  . exact hnewline
  . exact hnel
  . exact hline
  . exact hparagraph

theorem isWordChar_of_isBreak {ch : Char} (h : isBreak ch = true) : isWordChar ch = false :=
  of_isBreak (P := fun ch => isWordChar ch = false) (by decide) h

theorem isUriChar_of_isBreak {ch : Char} (h : isBreak ch = true) : isUriChar ch = false :=
  of_isBreak (P := fun ch => isUriChar ch = false) (by decide) h

theorem isHexDigit_of_isBreak {ch : Char} (h : isBreak ch = true) : isHexDigit ch = false :=
  of_isBreak (P := fun ch => isHexDigit ch = false) (by decide) h

theorem isDigit_of_isBreak {ch : Char} (h : isBreak ch = true) : ch.isDigit = false :=
  of_isBreak (P := fun ch => ch.isDigit = false) (by decide) h

theorem not_isBreak_of {f : Char → Bool} {ch : Char} (hf : ∀ ch, isBreak ch = true → f ch = false)
    (h : f ch = true)
    : isBreak ch = false := by
  by_contra hbreak
  rw [Bool.not_eq_false] at hbreak
  rw [hf ch hbreak] at h
  cases h

theorem Along.length_lt (h : Along c c' d d') (hlt : c.mark.index < d.mark.index)
    (hc : c.peek ≠ endChar) (hc' : c'.peek ≠ endChar)
    : d.rest.length < c.rest.length ∧ d'.rest.length < c'.rest.length := by
  obtain ⟨n, -, rfl, rfl⟩ := h
  obtain ⟨cs, hcs⟩ := Cursor.exists_rest_of_peek rfl hc
  obtain ⟨cs', hcs'⟩ := Cursor.exists_rest_of_peek rfl hc'
  rw [Cursor.index_skipN] at hlt
  rw [Cursor.rest_skipN, Cursor.rest_skipN, hcs, hcs', List.length_drop, List.length_drop,
    List.length_cons,
    List.length_cons]
  omega

theorem scanAnchor_line (h : SameLine c c') (hc : isBreak c.peek = false)
    : Simulates (LineTwin c c') (scanAnchor c) (scanAnchor c') := by
  have hskip : Along c c' c.skip c'.skip := .skip hc
  have hname := (hskip.sameLine h).takeWhile fun _ => isWordChar_of_isBreak
  have hafter := hskip.trans (.skipWhile (hskip.sameLine h) fun _ => isWordChar_of_isBreak)
  unfold scanAnchor Cursor.takeWhile
  dsimp only
  rw [hname, (hafter.sameLine h).peek]
  split
  . exact .error _ _
  . exact .ok ⟨rfl, hafter⟩

theorem SameLine.uriOctet? (h : SameLine c c') : Yaml.uriOctet? c' = Yaml.uriOctet? c := by
  unfold Yaml.uriOctet?
  rw [h.peek]
  by_cases h₀ : c.peek = '%'
  . have hne : isBreak c.peek = false := by
      rw [h₀]
      rfl
    rw [h.peek_one hne]
    cases h₁ : isHexDigit (c.peek 1) with
    | false => simp only [Bool.and_false, Bool.false_and, Bool.false_eq_true, if_false]
    | true =>
      have h₂ := h.peek_of (n := 2) fun k hk => by
        obtain rfl | rfl : k = 0 ∨ k = 1 := by omega
        . exact hne
        . exact not_isBreak_of (fun _ => isHexDigit_of_isBreak) h₁
      rw [h₂]
  . rw [beq_eq_false_iff_ne.mpr h₀]
    simp only [Bool.false_and, Bool.false_eq_true, if_false]

theorem Along.skipOctet {n : Nat} (hn : Yaml.uriOctet? c = some n)
    : Along c c' (c.skipN 3) (c'.skipN 3) := by
  unfold Yaml.uriOctet? at hn
  split at hn
  . next hoctet =>
    simp only [Bool.and_eq_true, beq_iff_eq] at hoctet
    refine .skipN fun k hk => ?_
    obtain rfl | rfl | rfl : k = 0 ∨ k = 1 ∨ k = 2 := by omega
    . rw [hoctet.1.1]
      rfl
    . exact not_isBreak_of (fun _ => isHexDigit_of_isBreak) hoctet.1.2
    . exact not_isBreak_of (fun _ => isHexDigit_of_isBreak) hoctet.2
  . cases hn

theorem uriEscapes_go_line (start start' : Mark) {k : Nat} {acc : Text} (h : SameLine c c')
    : Simulates (LineTwin c c') (scanUriEscapes.go start k acc c)
      (scanUriEscapes.go start' k acc c') := by
  induction k generalizing acc c c' with
  | zero => exact .ok ⟨rfl, .refl c c'⟩
  | succ k ih =>
    unfold scanUriEscapes.go
    rw [h.whole.need, h.whole'.need]
    dsimp only
    rw [h.uriOctet?]
    split
    . exact .error _ _
    . next heq =>
      have hskip : Along c c' (c.skipN 3) (c'.skipN 3) := .skipOctet heq
      split
      . exact (ih (hskip.sameLine h)).mono fun _ _ hr => hr.trans hskip
      . exact .error _ _

theorem scanUriEscapes_line (start start' : Mark) (h : SameLine c c')
    : Simulates (fun r r' => LineTwin c c' r r' ∧ c.mark.index < r.2.mark.index)
      (scanUriEscapes start c)
        (scanUriEscapes start' c') := by
  unfold scanUriEscapes
  rw [h.whole.need, h.whole'.need]
  dsimp only
  rw [h.uriOctet?]
  split
  . exact .error _ _
  . next heq =>
    have hskip : Along c c' (c.skipN 3) (c'.skipN 3) := .skipOctet heq
    split
    . exact .error _ _
    . refine (uriEscapes_go_line start start' (hskip.sameLine h)).mono ?_
      rintro r r' hr
      refine ⟨hr.trans hskip, ?_⟩
      obtain ⟨-, n, -, hplace, -⟩ := hr
      rw [hplace, Cursor.index_skipN, Cursor.index_skipN]
      omega

theorem Along.index_eq_iff (h : Along c c' d d')
    : (d'.mark.index == c'.mark.index) = (d.mark.index == c.mark.index) := by
  obtain ⟨n, -, rfl, rfl⟩ := h
  simp only [Cursor.index_skipN, Nat.add_eq_left, Bool.beq_eq_decide_eq]

theorem uri_go_line (start start' : Mark) {known acc : Text} (h : SameLine c c')
    (hnow : Along c c' now now') (hfuel : now.rest.length < fuel)
    (hfuel' : now'.rest.length < fuel')
    : Simulates (LineTwin c c') (scanUri.go start known c fuel acc now)
        (scanUri.go start' known c' fuel' acc now') := by
  induction fuel generalizing fuel' acc now now' with
  | zero => exact absurd hfuel (Nat.not_lt_zero _)
  | succ fuel ih =>
    obtain ⟨fuel', rfl⟩ : ∃ k, fuel' = k + 1 := ⟨fuel' - 1, by omega⟩
    have hplace := hnow.sameLine h
    unfold scanUri.go
    rw [hplace.whole.need, hplace.whole'.need]
    dsimp only
    rw [hplace.peek, hnow.index_eq_iff]
    split
    . next huri =>
      have hend : now.peek ≠ endChar := by
        intro heq
        rw [heq] at huri
        cases huri
      have hround {d d' : Cursor} {acc : Text} (hd : Along now now' d d')
          (hlt : now.mark.index < d.mark.index)
          : Simulates (LineTwin c c') (scanUri.go start known c fuel acc d)
              (scanUri.go start' known c' fuel' acc d') := by
        have hlength := hd.length_lt hlt hend (by rwa [hplace.peek])
        exact ih (hnow.trans hd) (by omega) (by omega)
      split
      . refine (scanUriEscapes_line start start' hplace).bind ?_
        rintro ⟨octets, next⟩ ⟨_, next'⟩ ⟨⟨rfl, hnext⟩, hlt⟩
        exact hround hnext hlt
      . exact hround (.skip (not_isBreak_of (fun _ => isUriChar_of_isBreak) huri))
          (Nat.lt_succ_self _)
    . split
      . exact .error _ _
      . exact .ok ⟨rfl, hnow⟩

theorem scanUri_line (start start' : Mark) (known : Text) (h : SameLine c c')
    : Simulates (LineTwin c c') (scanUri start known c) (scanUri start' known c') :=
  uri_go_line start start' h (.refl c c') (Nat.lt_succ_self _) (Nat.lt_succ_self _)

theorem scanHandle_line (start start' : Mark) (directive : Bool) (h : SameLine c c')
    : Simulates (LineTwin c c') (scanHandle start directive c)
      (scanHandle start' directive c') := by
  unfold scanHandle
  rw [h.peek]
  split
  . exact .error _ _
  . next hbang =>
    have hbreak : isBreak c.peek = false := by
      have : c.peek = '!' := by simpa using hbang
      rw [this]
      rfl
    have hskip : Along c c' c.skip c'.skip := .skip hbreak
    have hword := (hskip.sameLine h).takeWhile fun _ => isWordChar_of_isBreak
    have hafter := hskip.trans (.skipWhile (hskip.sameLine h) fun _ => isWordChar_of_isBreak)
    unfold Cursor.takeWhile
    dsimp only
    rw [hword, (hafter.sameLine h).peek]
    split
    . next hfull =>
      rw [beq_iff_eq] at hfull
      exact .ok ⟨rfl, hafter.trans (.skip (by rw [hfull]; rfl))⟩
    . split
      . exact .error _ _
      . exact .ok ⟨rfl, hafter⟩

/-- Two tags on the same line. -/
def TagLineTwin (c c' : Cursor) (r r' : Text × Text × Cursor) : Prop :=
  r'.1 = r.1 ∧ r'.2.1 = r.2.1 ∧ Along c c' r.2.2 r'.2.2

theorem scanTag_line (h : SameLine c c') (hc : isBreak c.peek = false)
    : Simulates (TagLineTwin c c') (scanTag c) (scanTag c') := by
  unfold scanTag
  rw [h.whole.need, h.whole'.need]
  dsimp only
  rw [h.peek_one hc]
  have hlast (r r' : Text × Text × Cursor) (hr : TagLineTwin c c' r r')
      : Simulates (TagLineTwin c c')
          (if isBlankOrEnd (r.2.2.need 1).peek then pure (r.1, r.2.1, r.2.2.need 1)
            else throw ((r.2.2.need 1).problem c.mark .noBlankOrBreak))
          (if isBlankOrEnd (r'.2.2.need 1).peek then pure (r'.1, r'.2.1, r'.2.2.need 1)
            else throw ((r'.2.2.need 1).problem c'.mark .noBlankOrBreak)) := by
    obtain ⟨hhandle, hsuffix, hafter⟩ := hr
    have hplace := hafter.sameLine h
    rw [hplace.whole.need, hplace.whole'.need, hplace.peek]
    split
    . exact .ok ⟨hhandle, hsuffix, hafter⟩
    . exact .error _ _
  split
  . next hverbatim =>
    have hskip : Along c c' c.skip c'.skip := .skip hc
    have hbracket : c.skip.peek = '<' := by
      rw [← Cursor.peek_succ]
      exact beq_iff_eq.mp hverbatim
    have hstart := hskip.trans (.skip (by rw [hbracket]; rfl))
    refine (scanUri_line _ _ _ (hstart.sameLine h)).bind ?_
    rintro ⟨suffix, after⟩ ⟨_, after'⟩ ⟨rfl, hafter⟩
    have hafter := hstart.trans hafter
    dsimp only at hafter ⊢
    rw [(hafter.sameLine h).peek]
    split
    . next hclose =>
      rw [beq_iff_eq] at hclose
      exact (Simulates.ok ⟨rfl, rfl, hafter.trans (.skip (by rw [hclose]; rfl))⟩).bind hlast
    . exact .throw_bind _ _ _
  . refine (scanHandle_line _ _ _ h).bind ?_
    rintro ⟨handle, after⟩ ⟨_, after'⟩ ⟨rfl, hafter⟩
    dsimp only at hafter ⊢
    split
    . refine (scanUri_line _ _ _ (hafter.sameLine h)).bind ?_
      rintro ⟨suffix, after⟩ ⟨_, after'⟩ ⟨rfl, hsuffix⟩
      exact (Simulates.ok ⟨rfl, rfl, hafter.trans hsuffix⟩).bind hlast
    . refine (scanUri_line _ _ _ (hafter.sameLine h)).bind ?_
      rintro ⟨suffix, after⟩ ⟨_, after'⟩ ⟨rfl, hsuffix⟩
      dsimp only at hsuffix ⊢
      split
      . exact (Simulates.ok ⟨rfl, rfl, hafter.trans hsuffix⟩).bind hlast
      . exact (Simulates.ok ⟨rfl, rfl, hafter.trans hsuffix⟩).bind hlast

theorem scanEscape_line (start start' : Mark) (h : SameLine c c') (hc : c.peek = '\\')
    : Simulates (fun r r' => LineTwin c c' r r' ∧ c.mark.index < r.2.mark.index)
      (scanEscape start c)
        (scanEscape start' c') := by
  have hbreak : isBreak c.peek = false := by
    rw [hc]
    rfl
  have hone : Along c c' c.skip c'.skip := .skip hbreak
  unfold scanEscape
  rw [h.peek_one hbreak]
  have hskip (hsome : Escape.ofChar? (c.peek 1) ≠ none) : Along c c' c.skip.skip c'.skip.skip := by
    refine hone.trans (.skip ?_)
    rw [← Cursor.peek_succ]
    by_contra hline
    rw [Bool.not_eq_false] at hline
    have hnone := of_isBreak (P := fun ch => (Escape.ofChar? ch).isNone = true) (by decide) hline
    exact hsome (Option.isNone_iff_eq_none.mp hnone)
  split
  . exact .error _ _
  . next ch heq => exact .ok ⟨⟨rfl, hskip (by simp [heq])⟩, by simp only [Cursor.index_skip]; omega⟩
  . next n heq =>
    have hnext := hskip (by simp [heq])
    have hplace := hnext.sameLine h
    rw [hplace.whole.need, hplace.whole'.need]
    dsimp only
    split
    . next hall =>
      have hdigits (k : Nat) (hk : k < n) : isBreak (c.skip.skip.peek k) = false :=
        not_isBreak_of (fun _ => isHexDigit_of_isBreak)
          (List.all_eq_true.mp hall _ (List.mem_map_of_mem (List.mem_range.mpr hk)))
      have hsame : ((List.range n).map fun k => c'.skip.skip.peek k) =
        (List.range n).map fun k => c.skip.skip.peek k := by
        apply List.map_congr_left
        intro k hk
        rw [List.mem_range] at hk
        exact hplace.peek_of fun j hj => hdigits j (by omega)
      rw [hsame, if_pos hall]
      split
      . exact .error _ _
      . refine .ok ⟨⟨rfl, hnext.trans (.skipN hdigits)⟩, ?_⟩
        simp only [Cursor.index_skipN, Cursor.index_skip]
        omega
    . exact .error _ _

theorem blockDigit_line (start start' : Mark) (h : SameLine c c')
    : Simulates (LineTwin c c') (scanBlockHeader.digit start c)
      (scanBlockHeader.digit start' c') := by
  unfold scanBlockHeader.digit
  rw [h.peek]
  split
  . exact .error _ _
  split
  . next hdigit =>
    exact .ok ⟨rfl, .skip (not_isBreak_of (fun _ => isDigit_of_isBreak) hdigit)⟩
  . exact .ok ⟨rfl, .refl c c'⟩

theorem scanBlockHeader_line (start start' : Mark) (h : SameLine c c')
    : Simulates (fun r r' => r'.1 = r.1 ∧ r'.2.1 = r.2.1 ∧ Along c c' r.2.2 r'.2.2)
      (scanBlockHeader start c)
        (scanBlockHeader start' c') := by
  have hsign {ch : Char} {chomping : Chomping} (hch : Chomping.ofChar? ch = some chomping) : isBreak
      ch = false := by
    by_contra hbreak
    rw [Bool.not_eq_false] at hbreak
    rw [of_isBreak (P := fun ch => Chomping.ofChar? ch = none) (by decide) hbreak] at hch
    cases hch
  unfold scanBlockHeader
  rw [h.whole.need, h.whole'.need]
  dsimp only
  rw [h.peek]
  split
  . next chomping heq =>
    have hskip : Along c c' c.skip c'.skip := .skip (hsign heq)
    have hplace := hskip.sameLine h
    rw [hplace.whole.need, hplace.whole'.need]
    refine (blockDigit_line start start' hplace).bind ?_
    rintro ⟨n, d⟩ ⟨_, d'⟩ ⟨rfl, hd⟩
    exact .ok ⟨rfl, rfl, hskip.trans hd⟩
  . refine (blockDigit_line start start' h).bind ?_
    rintro ⟨n, d⟩ ⟨_, d'⟩ ⟨rfl, hd⟩
    dsimp only at hd ⊢
    split
    . exact .ok ⟨rfl, rfl, hd⟩
    . have hplace := hd.sameLine h
      rw [hplace.whole.need, hplace.whole'.need, hplace.peek]
      split
      . next chomping heq => exact .ok ⟨rfl, rfl, hd.trans (.skip (hsign heq))⟩
      . exact .ok ⟨rfl, rfl, hd⟩

/-- The comment after a token. -/
theorem scanLineComment_line (token token' : Mark) (h : SameLine c c')
    : Along c c' (scanLineComment token c).2 (scanLineComment token' c').2 := by
  have hblank (k : Nat) (hk : k < (c.rest.takeWhile isBlank).length) : isBreak (c.peek k) = false :=
    Along.isBreak_of_lt_takeWhile (fun _ => isBlank_of_isBreak) hk
  have hblanks := h.takeWhile fun _ => isBlank_of_isBreak
  have hpeek := h.peek_of hblank
  unfold scanLineComment
  dsimp only
  rw [hblanks, hpeek, h.whole.has, h.whole'.has, h.whole.glance, h.whole'.glance]
  cases hstarts : c.peek == '#' || isBlank c.peek with
  | false =>
    rw [Bool.or_eq_false_iff, beq_eq_false_iff_ne] at hstarts
    have hnone : (c.rest.takeWhile isBlank).length = 0 := by
      rw [Cursor.takeWhile_of_peek hstarts.2, List.length_nil]
    have hother : (c.peek != '#') = true := bne_iff_ne.mpr hstarts.1
    rw [hnone, hother, Bool.or_true, if_pos rfl, ite_self, if_pos rfl, ite_self]
    exact .refl c c'
  | true =>
    have hnewlines : 0 < c'.newlines ↔ 0 < c.newlines := by
      have := h.newlines hstarts
      omega
    simp only [hnewlines]
    split
    . exact .refl c c'
    split
    . exact .refl c c'
    . have hskip : Along c c' _ _ := .skipN hblank
      exact hskip.trans (hskip.sameLine h).skipToBreak

end Yaml
end YamlOrder
