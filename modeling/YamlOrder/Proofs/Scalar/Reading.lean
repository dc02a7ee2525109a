import Mathlib.Data.List.TakeWhile
import Mathlib.Data.Nat.Init
import YamlOrder.Yaml.Token.Scalar

/-!
This module contains the reading of quoted scalars on one line: what the characters between the
quotes stand for, whether words or blanks, and where the reader stops.
-/

namespace YamlOrder
namespace Yaml

namespace Cursor

variable {c : Cursor}

@[simp]
theorem rest_skip (c : Cursor) : c.skip.rest = c.rest.tail := rfl

@[simp]
theorem column_skip (c : Cursor) : c.skip.mark.column = c.mark.column + 1 := rfl

@[simp]
theorem rest_need (n : Nat) (c : Cursor) : (c.need n).rest = c.rest := by
  unfold need leaveFront
  grind

@[simp]
theorem mark_need (n : Nat) (c : Cursor) : (c.need n).mark = c.mark := by
  unfold need leaveFront
  grind

@[simp]
theorem rest_skipN (n : Nat) (c : Cursor) : (c.skipN n).rest = c.rest.drop n := by
  induction n generalizing c with
  | zero => rfl
  | succ n ih => rw [skipN, ih, rest_skip, List.drop_tail]

@[simp]
theorem column_skipN (n : Nat) (c : Cursor) : (c.skipN n).mark.column = c.mark.column + n := by
  induction n generalizing c with
  | zero => rfl
  | succ n ih =>
    rw [skipN, ih, column_skip]
    omega

theorem peek_of_rest {x : List Char} {ch : Char} (h : c.rest = ch :: x) : c.peek = ch := by
  simp [peek, h]

theorem peek_eq (c : Cursor) (n : Nat) : c.peek n = c.rest.getD n endChar := rfl

theorem atDocumentMarker_of_pos (h : 0 < c.mark.column) : c.atDocumentMarker = false := by
  have : (c.mark.column == 0) = false := by
    simp only [beq_eq_false_iff_ne]
    omega
  simp [atDocumentMarker, atMarker, this]

end Cursor

/-- The characters that do not stand for themselves in quotes. -/
def isDelicate (single : Bool) (c : Char) : Bool :=
    if single then c == '\'' else c == '"' || c == '\\'

/-- The character with a code in hexadecimal digits. -/
def ofCode? (digits : List Char) : Option Char :=
  let value := digits.foldl (fun v d => v * 16 + hexValue d) 0
  if digits.all isHexDigit && !((0xD800 ≤ value && value ≤ 0xDFFF) || 0x10FFFF < value) then
    some (Char.ofNat value)
  else
    none

/-- The next characters of a line, which nothing follows. -/
def ahead (n : Nat) (x : List Char) : List Char := (List.range n).map fun k => x.getD k endChar

theorem ahead_eq_take {n : Nat} {x : List Char} (h : n ≤ x.length) : ahead n x = x.take n := by
  apply List.ext_getElem
  . simp [ahead, h]
  . intro i hi _
    have hi : i < x.length := by
      simp only [ahead, List.length_map, List.length_range] at hi
      omega
    simp [ahead, List.getD_eq_getElem?_getD, List.getElem?_eq_getElem hi]

/--
The character that an escape sequence stands for, and what follows it; given is what follows the
backslash.
-/
def unescape? : List Char → Option (Char × List Char)
  | [] => none
  | k :: x =>
    match Escape.ofChar? k with
    | none => none
    | some (.char c) => some (c, x)
    | some (.code n) => (ofCode? (ahead n x)).map (·, x.drop n)

/-- What is read before something that is read. -/
def before (w : List Char) (o : Option (List Char × List Char)) : Option (List Char × List Char) :=
  o.map fun (v, rest) => (w ++ v, rest)

@[simp]
theorem before_nil (o : Option (List Char × List Char)) : before [] o = o := by
  cases o
  all_goals rfl

@[simp]
theorem before_before (w w' : List Char) (o : Option (List Char × List Char))
    : before w (before w' o) = before (w ++ w') o := by
  cases o
  all_goals simp [before]

/--
What a line stands for inside of quotes: a value and what follows the closing quote, or nothing if
it holds a wrong escape sequence.
-/
inductive Reads (single : Bool) : List Char → Option (List Char × List Char) → Prop where
  | close (rest : List Char) (h : single = true → rest.head? ≠ some '\'')
    : Reads single (scanQuoted.quote single :: rest) (some ([], rest))
  | wrong (k : Char) (x : List Char) (hmode : single = false) (hbreak : isBreak k = false)
      (h : unescape? (k :: x) = none)
    : Reads single ('\\' :: k :: x) none
  | char (c : Char) {x : List Char} {o : Option (List Char × List Char)}
      (hbreak : isBreakOrEnd c = false)
      (h : isDelicate single c = false) (hrest : Reads single x o)
    : Reads single (c :: x) (before [c] o)
  | twice {x : List Char} {o : Option (List Char × List Char)} (hmode : single = true)
      (hrest : Reads single x o)
    : Reads single ('\'' :: '\'' :: x) (before ['\''] o)
  | escape (k c : Char) {x x' : List Char} {o : Option (List Char × List Char)}
      (hmode : single = false)
      (h : unescape? (k :: x) = some (c, x')) (hrest : Reads single x' o)
    : Reads single ('\\' :: k :: x) (before [c] o)

theorem toOption_scanEscape (start : Mark) {c : Cursor} {k : Char} {x : List Char}
    (hc : c.rest = '\\' :: k :: x)
    : (scanEscape start c).toOption.map (fun p => (p.1, p.2.rest)) = unescape? (k :: x) := by
  have hpeek : c.peek 1 = k := by simp [Cursor.peek_eq, hc]
  unfold unescape? scanEscape
  rw [hpeek]
  dsimp only
  cases Escape.ofChar? k with
  | none => rfl
  | some e =>
    cases e with
    | char ch => simp [Except.toOption, hc]
    | code n =>
      have hahead : (List.range n).map (fun k => (c.skip.skip.need n).peek k) = ahead n x := by
        simp [ahead, Cursor.peek_eq, hc]
      simp only [hahead, ofCode?]
      generalize (ahead n x).foldl (fun v d => v * 16 + hexValue d) 0 = value
      cases (ahead n x).all isHexDigit with
      | false => rfl
      | true =>
        cases hrange : ((0xD800 ≤ value && value ≤ 0xDFFF) || 0x10FFFF < value : Bool) with
        | true => rfl
        | false => simp [Except.toOption, hc]

theorem column_scanEscape {start : Mark} {c c' : Cursor} {ch : Char}
    (h : scanEscape start c = .ok (ch, c'))
    : c.mark.column ≤ c'.mark.column := by
  unfold scanEscape at h
  split at h
  . simp at h
  . simp only [Except.ok.injEq, Prod.mk.injEq] at h
    simp only [← h.2, Cursor.column_skip]
    omega
  . dsimp only at h
    split at h
    . split at h
      . simp at h
      . simp only [Except.ok.injEq, Prod.mk.injEq] at h
        simp only [← h.2, Cursor.column_skipN, Cursor.mark_need, Cursor.column_skip]
        omega
    . simp at h

theorem scanEscape_of_some (start : Mark) {c : Cursor} {k ch : Char} {x x' : List Char}
    (hc : c.rest = '\\' :: k :: x) (h : unescape? (k :: x) = some (ch, x'))
    : ∃ c', scanEscape start c = .ok (ch, c') ∧ c'.rest = x' ∧ c.mark.column ≤ c'.mark.column := by
  have hscan := toOption_scanEscape start hc
  rw [h] at hscan
  cases he : scanEscape start c with
  | error e => simp [he, Except.toOption] at hscan
  | ok p =>
    simp only [he, Except.toOption, Option.map_some, Option.some.injEq, Prod.mk.injEq] at hscan
    obtain ⟨rfl, rfl⟩ := hscan
    exact ⟨p.2, rfl, rfl, column_scanEscape he⟩

theorem scanEscape_of_none (start : Mark) {c : Cursor} {k : Char} {x : List Char}
    (hc : c.rest = '\\' :: k :: x) (h : unescape? (k :: x) = none)
    : ∃ e, scanEscape start c = .error e := by
  have hscan := toOption_scanEscape start hc
  rw [h] at hscan
  cases he : scanEscape start c with
  | error e => exact ⟨e, rfl⟩
  | ok p => simp [he, Except.toOption] at hscan

theorem length_of_unescape? {k c : Char} {x x' : List Char} (h : unescape? (k :: x) = some (c, x'))
    : x'.length ≤ x.length := by
  unfold unescape? at h
  dsimp only at h
  cases hkind : Escape.ofChar? k with
  | none => simp [hkind] at h
  | some e =>
    rw [hkind] at h
    cases e with
    | char ch =>
      simp only [Option.some.injEq, Prod.mk.injEq] at h
      rw [h.2]
    | code n =>
      simp only [Option.map_eq_some_iff, Prod.mk.injEq] at h
      obtain ⟨_, _, _, rfl⟩ := h
      simp

theorem isBreak_of_unescape? {k c : Char} {x x' : List Char} (h : unescape? (k :: x) = some (c, x'))
    : isBreak k = false := by
  cases hbreak : isBreak k with
  | false => rfl
  | true =>
    have hnone : Escape.ofChar? k = none := by
      simp only [isBreak, Bool.or_eq_true, beq_iff_eq] at hbreak
      obtain (((rfl | rfl) | rfl) | rfl) | rfl := hbreak
      all_goals rfl
    simp [unescape?, hnone] at h

variable {single : Bool} {x : List Char} {o : Option (List Char × List Char)}

/-- The reader of words stops at a blank and at the closing quote. -/
def AtStop (single : Bool) (x : List Char) (o : Option (List Char × List Char)) : Prop :=
  (∃ c y, x = c :: y ∧ isBlank c = true) ∨ ∃ rest, x = scanQuoted.quote single :: rest ∧
  o = some ([], rest)

/--
What the reader of words makes of a line: a fault, or the characters up to the place where it stops.
-/
def Runs (single : Bool) (acc x : List Char) (o : Option (List Char × List Char))
    (r : Except Fault (List Char × Bool × Cursor)) : Prop :=
  (o = none ∧ ∃ e, r = .error e) ∨
    ∃ w o' c, r = .ok (w.reverse ++ acc, false, c) ∧ o = before w o' ∧ Reads single c.rest o' ∧
      AtStop single c.rest o' ∧ 0 < c.mark.column ∧ c.rest.length ≤ x.length

theorem Runs.stop {acc : List Char} {c : Cursor} (h : Reads single c.rest o)
    (hstop : AtStop single c.rest o) (hcolumn : 0 < c.mark.column)
    : Runs single acc c.rest o (.ok (acc, false, c)) :=
  .inr ⟨[], o, c, rfl, (before_nil o).symm, h, hstop, hcolumn, Nat.le_refl _⟩

theorem Runs.step {acc x' : List Char} {ch : Char} {r : Except Fault (List Char × Bool × Cursor)}
    (h : Runs single (ch :: acc) x' o r) (hlen : x'.length ≤ x.length)
    : Runs single acc x (before [ch] o) r := by
  obtain ⟨rfl, he⟩ | ⟨w, o', c, hr, rfl, hreads, hstop, hcolumn, hshort⟩ := h
  . exact .inl ⟨rfl, he⟩
  . refine .inr ⟨ch :: w, o', c, ?_, by simp, hreads, hstop, hcolumn, Nat.le_trans hshort hlen⟩
    simpa using hr

theorem scanQuotedRun_quote (start : Mark) {fuel : Nat} {acc rest : List Char} {c : Cursor}
    (hc : c.rest = scanQuoted.quote single :: rest) (hnext : single = true → rest.head? ≠ some '\'')
    : scanQuotedRun start single (fuel + 1) acc c = .ok (acc, false, c) := by
  have hpeek := Cursor.peek_of_rest hc
  cases single with
  | false => simp [scanQuotedRun, hpeek, scanQuoted.quote, show isBlankOrEnd '"' = false by decide]
  | true =>
    have hnext : c.peek 1 ≠ '\'' := by
      have := hnext rfl
      cases rest with
      | nil => simp [Cursor.peek_eq, hc, endChar]
      | cons b rest => simpa [Cursor.peek_eq, hc] using this
    simp [scanQuotedRun, hpeek, scanQuoted.quote, show isBlankOrEnd '\'' = false by decide, hnext]

theorem scanQuotedRun_blank (start : Mark) {fuel : Nat} {acc rest : List Char}
    {c : Cursor} {ch : Char} (hc : c.rest = ch :: rest) (hblank : isBlank ch = true)
    : scanQuotedRun start single (fuel + 1) acc c = .ok (acc, false, c) := by
  simp [scanQuotedRun, Cursor.peek_of_rest hc, isBlankOrEnd, hblank]

theorem scanQuotedRun_char (start : Mark) {fuel : Nat} {acc rest : List Char}
    {c : Cursor} {ch : Char} (hc : c.rest = ch :: rest) (hwhite : isBlankOrEnd ch = false)
    (hdelicate : isDelicate single ch = false)
    : scanQuotedRun start single (fuel + 1) acc c =
        scanQuotedRun start single fuel (ch :: acc) (c.skip.need 2) := by
  cases single
  all_goals
    simp only [isDelicate, Bool.false_eq_true, if_true, if_false, Bool.or_eq_false_iff] at hdelicate
    simp [scanQuotedRun, Cursor.peek_of_rest hc, hwhite, hdelicate]

theorem scanQuotedRun_twice (start : Mark) {fuel : Nat} {acc rest : List Char} {c : Cursor}
    (hc : c.rest = '\'' :: '\'' :: rest)
    : scanQuotedRun start true (fuel + 1) acc c =
        scanQuotedRun start true fuel ('\'' :: acc) (c.skip.skip.need 2) := by
  have hnext : c.peek 1 = '\'' := by simp [Cursor.peek_eq, hc]
  simp [scanQuotedRun, Cursor.peek_of_rest hc, show isBlankOrEnd '\'' = false by decide, hnext]

theorem scanQuotedRun_backslash (start : Mark) {fuel : Nat} {acc rest : List Char}
    {c : Cursor} {k : Char} (hc : c.rest = '\\' :: k :: rest) (hbreak : isBreak k = false)
    : scanQuotedRun start false (fuel + 1) acc c =
        (scanEscape start c >>= fun p => scanQuotedRun start false fuel (p.1 :: acc)
          (p.2.need 2)) := by
  have hnext : c.peek 1 = k := by simp [Cursor.peek_eq, hc]
  simp [scanQuotedRun, Cursor.peek_of_rest hc, show isBlankOrEnd '\\' = false by decide,
    hnext, hbreak]

theorem runs_scanQuotedRun (start : Mark) (h : Reads single x o) (fuel : Nat) (acc : List Char)
    (c : Cursor) (hc : c.rest = x) (hcolumn : 0 < c.mark.column) (hfuel : x.length < fuel)
    : Runs single acc x o (scanQuotedRun start single fuel acc c) := by
  induction h generalizing fuel acc c with
  | close rest hnext =>
    obtain ⟨fuel, rfl⟩ := Nat.exists_eq_succ_of_ne_zero (Nat.ne_zero_of_lt hfuel)
    rw [scanQuotedRun_quote start hc hnext, ← hc]
    refine .stop ?_ (.inr ⟨rest, hc, rfl⟩) hcolumn
    rw [hc]
    exact .close rest hnext
  | wrong k y hmode hbreak hnone =>
    obtain ⟨fuel, rfl⟩ := Nat.exists_eq_succ_of_ne_zero (Nat.ne_zero_of_lt hfuel)
    subst hmode
    obtain ⟨e, he⟩ := scanEscape_of_none start hc hnone
    refine .inl ⟨rfl, e, ?_⟩
    rw [scanQuotedRun_backslash start hc hbreak, he]
    rfl
  | char ch hbreak hdelicate hrest ih =>
    obtain ⟨fuel, rfl⟩ := Nat.exists_eq_succ_of_ne_zero (Nat.ne_zero_of_lt hfuel)
    cases hblank : isBlank ch with
    | true =>
      rw [scanQuotedRun_blank start hc hblank, ← hc]
      refine .stop ?_ (.inl ⟨ch, _, hc, hblank⟩) hcolumn
      rw [hc]
      exact .char ch hbreak hdelicate hrest
    | false =>
      rw [scanQuotedRun_char start hc (by simp [isBlankOrEnd, hblank, hbreak]) hdelicate]
      exact (ih fuel (ch :: acc) (c.skip.need 2) (by simp [hc]) (by simp)
        (Nat.lt_of_succ_lt_succ hfuel)).step
        (Nat.le_succ _)
  | twice hmode hrest ih =>
    obtain ⟨fuel, rfl⟩ := Nat.exists_eq_succ_of_ne_zero (Nat.ne_zero_of_lt hfuel)
    subst hmode
    rw [scanQuotedRun_twice start hc]
    simp only [List.length_cons] at hfuel
    refine (ih fuel _ _ (by simp [hc]) (by simp) (by omega)).step ?_
    simp only [List.length_cons]
    omega
  | escape k ch hmode hsome hrest ih =>
    obtain ⟨fuel, rfl⟩ := Nat.exists_eq_succ_of_ne_zero (Nat.ne_zero_of_lt hfuel)
    subst hmode
    obtain ⟨c', he, hrest', hcolumn'⟩ := scanEscape_of_some start hc hsome
    have hlen := length_of_unescape? hsome
    simp only [List.length_cons] at hfuel
    rw [scanQuotedRun_backslash start hc (isBreak_of_unescape? hsome), he]
    refine (ih fuel (ch :: acc) (c'.need 2) (by simp [hrest']) ?_ (by omega)).step ?_
    . rw [Cursor.mark_need]
      omega
    . simp only [List.length_cons]
      omega

theorem Reads.exists_cons (h : Reads single x o) : ∃ c y, x = c :: y ∧ isBreakOrEnd c = false := by
  cases h with
  | close rest hnext =>
    refine ⟨_, rest, rfl, ?_⟩
    cases single
    all_goals rfl
  | wrong k y hmode hbreak hnone => exact ⟨'\\', _, rfl, by decide⟩
  | char c hbreak hdelicate hrest => exact ⟨c, _, rfl, hbreak⟩
  | twice hmode hrest => exact ⟨'\'', _, rfl, by decide⟩
  | escape k c hmode hsome hrest => exact ⟨'\\', _, rfl, by decide⟩

theorem Reads.of_blank {c : Char} (h : Reads single (c :: x) o) (hblank : isBlank c = true)
    : ∃ o', o = before [c] o' ∧ Reads single x o' := by
  have hne : c ≠ '\\' ∧ c ≠ '\'' ∧ c ≠ scanQuoted.quote single := by
    simp only [isBlank, Bool.or_eq_true, beq_iff_eq] at hblank
    cases single
    all_goals
      obtain rfl | rfl := hblank
      all_goals decide
  cases h with
  | close => simp at hne
  | wrong => simp at hne
  | char _ hbreak hdelicate hrest => exact ⟨_, rfl, hrest⟩
  | twice => simp at hne
  | escape => simp at hne

theorem exists_scan (start : Mark) (x : List Char) (h : Reads single x o) (fuel : Nat)
    (blanks : List Char) (c : Cursor) (hc : c.rest = x) (hcolumn : 0 < c.mark.column)
    (hfuel : x.length < fuel)
    : ∃ w o' c', Gap.scan start 0 fuel { blanks } c = .ok ({ blanks := blanks ++ w }, c') ∧
      o = before w o' ∧
        Reads single c'.rest o' ∧ 0 < c'.mark.column ∧ c'.rest.length ≤ x.length ∧
        (∀ b ∈ x.head?, isBlank b = true → c'.rest.length < x.length) := by
  induction x generalizing o fuel blanks c with
  | nil =>
    obtain ⟨_, _, hnil, _⟩ := h.exists_cons
    cases hnil
  | cons b x ih =>
    obtain ⟨fuel, rfl⟩ := Nat.exists_eq_succ_of_ne_zero (Nat.ne_zero_of_lt hfuel)
    have hpeek := Cursor.peek_of_rest hc
    cases hblank : isBlank b with
    | true =>
      obtain ⟨o', rfl, hrest⟩ := h.of_blank hblank
      obtain ⟨w, o'', c', hscan, rfl, hreads, hcolumn', hlen, -⟩ :=
        ih hrest fuel (blanks ++ [b]) (c.skip.need 1) (by simp [hc]) (by simp)
        (by simpa using hfuel)
      refine ⟨b :: w, o'', c', ?_, by simp, hreads, hcolumn', Nat.le_succ_of_le hlen, ?_⟩
      . simp [Gap.scan, hpeek, hblank, hscan]
      . intro _ _ _
        exact Nat.lt_succ_of_le hlen
    | false =>
      obtain ⟨_, _, hcons, hbreak⟩ := h.exists_cons
      obtain ⟨rfl, rfl⟩ := List.cons.inj hcons
      simp only [isBreakOrEnd, Bool.or_eq_false_iff] at hbreak
      refine ⟨[], o, c, ?_, (before_nil o).symm, hc ▸ h, hcolumn, by rw [hc], ?_⟩
      . simp [Gap.scan, hpeek, hblank, hbreak.1]
      . intro b' hb'
        obtain rfl := Option.some.inj hb'
        simp [hblank]

/-- What the reader of a quoted scalar makes of a line, after it has read `acc` in reverse. -/
def Agrees (single : Bool) (acc : List Char) (o : Option (List Char × List Char))
    (r : Except Fault ScannedScalar) : Prop :=
  match o with
  | none => ∃ e, r = .error e
  | some (v, rest) => ∃ s, r = .ok s ∧ s.cursor.rest = rest ∧
      s.token.kind = .scalar (Text.ofChars (acc.reverse ++ v)) (scanQuoted.style single)

theorem agrees_before {acc w : List Char} {r : Except Fault ScannedScalar}
    : Agrees single acc (before w o) r ↔ Agrees single (w.reverse ++ acc) o r := by
  cases o with
  | none => rfl
  | some p => simp [Agrees, before]

theorem agrees_go {start : Cursor} (h : Reads single x o) (fuel : Nat) (acc : List Char)
    (c : Cursor) (hc : c.rest = x) (hcolumn : 0 < c.mark.column) (hfuel : x.length < fuel)
    : Agrees single acc o (scanQuoted.go single start fuel acc c) := by
  induction hn : x.length using Nat.strong_induction_on generalizing x o fuel acc c with
  | _ n ih =>
    subst hn
    subst hc
    obtain ⟨fuel, rfl⟩ := Nat.exists_eq_succ_of_ne_zero (Nat.ne_zero_of_lt hfuel)
    obtain ⟨b, y, hcons, hbreak⟩ := h.exists_cons
    have hmarker : (c.need 4).atDocumentMarker = false :=
      Cursor.atDocumentMarker_of_pos (by simpa using hcolumn)
    have hend : isEnd (c.need 4).peek = false := by
      rw [Cursor.peek_of_rest (by simpa using hcons)]
      simp only [isBreakOrEnd, Bool.or_eq_false_iff] at hbreak
      exact hbreak.2
    have hruns := runs_scanQuotedRun start.mark h (c.rest.length + 1) acc (c.need 4) (by simp)
      (by simpa using hcolumn)
      (Nat.lt_succ_self _)
    unfold scanQuoted.go
    simp only [hmarker, hend, Bool.false_eq_true, if_false, Cursor.rest_need]
    obtain ⟨rfl, e, he⟩ | ⟨w, o', c', hrun, rfl, hreads, hstop, hcolumn', hlen⟩ := hruns
    . rw [he]
      exact ⟨e, rfl⟩
    . rw [hrun, agrees_before]
      obtain ⟨b', y', hcons', hblank⟩ | ⟨rest, hclose, rfl⟩ := hstop
      . have hquote : (b' == scanQuoted.quote single) = false := by
          simp only [isBlank, Bool.or_eq_true, beq_iff_eq] at hblank
          cases single
          all_goals
            obtain rfl | rfl := hblank
            all_goals decide
        obtain ⟨w', o'', c'', hscan, rfl, hreads', hcolumn'', -, hshort⟩ :=
          exists_scan start.mark _ hreads (c'.rest.length + 1) [] (c'.need 1) (by simp)
          (by simpa using hcolumn')
            (Nat.lt_succ_self _)
        have hshort : c''.rest.length < c'.rest.length := hshort b' (by simp [hcons']) hblank
        rw [agrees_before]
        simp only [bind, Except.bind, Cursor.peek_of_rest
          (show (c'.need 1).rest = _ by simpa using hcons'), hquote,
          Bool.false_eq_true, if_false, hscan]
        exact ih _ (Nat.lt_of_lt_of_le hshort hlen) hreads' fuel _ c'' rfl hcolumn'' (by omega) rfl
      . have hpeek := Cursor.peek_of_rest (show (c'.need 1).rest = _ by simpa using hclose)
        simp only [bind, Except.bind, hpeek, beq_self_eq_true, if_true]
        refine ⟨_, rfl, by simp [hclose], ?_⟩
        simp

/-- A quoted scalar on one line is read as what its line stands for. -/
theorem agrees_scanQuoted (h : Reads single x o) {c : Cursor}
    (hc : c.rest = scanQuoted.quote single :: x)
    : Agrees single [] o (scanQuoted single c) := by
  unfold scanQuoted
  exact agrees_go h _ [] c.skip (by simp [hc]) (by simp) (by rw [hc, List.length_cons]; omega)

end Yaml
end YamlOrder
