import YamlOrder.Proofs.Printer.Respelled

/-!
This module contains the scalars of pages that differ in single words: in every style, two values
that differ in words are written as texts that differ in words, as long as the style does not escape
anything in a word.
-/

namespace YamlOrder
namespace Yaml

variable {R : List Char → List Char → Prop} {u v w : List Char} {p q : Printer} {l : Nat}

namespace Respelled

theorem any_head? {f : Char → Bool} (hR : ∀ {w w'}, R w w' → IsWord w ∧ IsWord w')
    (hf : ∀ c, isBlankOrEnd c = false → isByteOrderMark c = false → f c = false)
    (h : Respelled R u v)
    : v.head?.any f = u.head?.any f := by
  cases h with
  | nil => rfl
  | char c _ => rfl
  | word hw _ =>
    obtain ⟨⟨c, t, rfl, hc, hmark⟩, -⟩ := (hR hw).1
    obtain ⟨⟨c', t', rfl, hc', hmark'⟩, -⟩ := (hR hw).2
    simp [hf c hc hmark, hf c' hc' hmark']

theorem isEmpty_eq (hR : ∀ {w w'}, R w w' → IsWord w ∧ IsWord w') (h : Respelled R u v)
    : v.isEmpty = u.isEmpty := by
  cases h with
  | nil => rfl
  | char c _ => rfl
  | word hw _ =>
    obtain ⟨⟨c, t, rfl, -⟩, -⟩ := (hR hw).1
    obtain ⟨⟨c', t', rfl, -⟩, -⟩ := (hR hw).2
    rfl

theorem dropWhile_isBreak (hR : ∀ {w w'}, R w w' → IsWord w ∧ IsWord w') (h : Respelled R u v)
    : Respelled R (u.dropWhile isBreak) (v.dropWhile isBreak) := by
  induction h with
  | nil => exact .nil
  | char c h ih =>
    rw [List.dropWhile_cons, List.dropWhile_cons]
    split
    . exact ih
    . exact .char c h
  | word hw h _ =>
    have hkeep {w u : List Char} (h : IsWord w) : (w ++ u).dropWhile isBreak = w ++ u := by
      obtain ⟨c, t, rfl, -⟩ := h.head
      rw [List.cons_append, List.dropWhile_cons_of_neg (by simp [h.line c List.mem_cons_self])]
    rw [hkeep (hR hw).1, hkeep (hR hw).2]
    exact .word hw h

end Respelled

theorem isBreak_eq_false_of_isBlankOrEnd {c : Char} (h : isBlankOrEnd c = false)
    : isBreak c = false := by
  simp only [isBlankOrEnd, isBreakOrEnd, Bool.or_eq_false_iff] at h
  exact h.2.1

theorem ne_space_of_isBlankOrEnd {c : Char} (h : isBlankOrEnd c = false) : c ≠ ' ' := by
  rintro rfl
  revert h
  decide

namespace Printer

theorem chompingSign_eq (cs : List Char)
    : chompingSign cs =
        if cs.getLast?.any isBreak then (if cs.dropLast.getLast?.all isBreak then ['+'] else [])
        else ['-'] := by
  obtain rfl | ⟨cs, c, rfl⟩ := cs.eq_nil_or_concat
  . rfl
  . obtain rfl | ⟨cs, d, rfl⟩ := cs.eq_nil_or_concat
    . simp [chompingSign]
    . simp [chompingSign]

theorem IsWord.getLast? (hw : IsWord w) : (u ++ w).getLast?.any isBreak = false := by
  obtain ⟨cs, c, rfl⟩ := w.eq_nil_or_concat.resolve_left hw.ne_nil
  simp [← List.append_assoc, hw.line c (by simp)]

theorem chompingSign_of_respelled (hR : ∀ {w w'}, R w w' → IsWord w ∧ IsWord w')
    (h : Respelled R u v)
    : chompingSign v = chompingSign u := by
  have hlast {w u : List Char} (hw : IsWord w) : (u ++ w).getLast?.any isBreak = false :=
    IsWord.getLast? hw
  rw [chompingSign_eq, chompingSign_eq]
  obtain ⟨rfl, rfl⟩ | ⟨c, u', v', rfl, rfl, h'⟩ | ⟨w, w', u', v', rfl, rfl, hw⟩ :=
    h.eq_nil_or_exists_append
  . rfl
  . simp only [List.getLast?_append, List.getLast?_singleton, Option.some_or, List.dropLast_concat]
    have hall (cs : List Char) : cs.getLast?.all isBreak =
      (cs.isEmpty || cs.getLast?.any isBreak) := by
      cases hcs : cs.getLast? with
      | none => simp [List.getLast?_eq_none_iff.mp hcs]
      | some c =>
        have : cs ≠ [] := by
          rintro rfl
          simp at hcs
        simp [this]
    rw [hall, hall, h'.isEmpty_eq hR]
    obtain ⟨rfl, rfl⟩ | ⟨d, u'', v'', rfl, rfl, -⟩ | ⟨w, w', u'', v'', rfl, rfl, hw⟩ :=
      h'.eq_nil_or_exists_append
    . rfl
    . simp
    . rw [hlast (hR hw).1, hlast (hR hw).2]
  . rw [hlast (hR hw).1, hlast (hR hw).2]
    rfl

/--
A loop that writes a value character by character. `before` is what it writes before a character
that is no line break and does not begin with white space, and `inside` is its state behind one.
-/
structure Loop (σ : Type) where
  next : σ → Char → σ
  write : σ → Char → Printer → Printer
  before : σ → Printer → Printer
  inside : σ → σ

namespace Loop

variable {σ : Type} (loop : Loop σ)

def run : List Char → σ → Printer → Printer
  | [], _, p => p
  | c :: rest, s, p => run rest (loop.next s c) (loop.write s c p)

/-- A loop that writes the characters of words as they are, as far as they are not special to it. -/
structure Literally (special : Char → Bool) : Prop where
  twin : ∀ {R l p q} s c, Twin R l p q → Twin R l (loop.write s c p) (loop.write s c q)
  twin_before : ∀ {R l p q} s, Twin R l p q → Twin R l (loop.before s p) (loop.before s q)
  next_head : ∀ s c, isBlankOrEnd c = false → loop.next s c = loop.inside s
  next_later : ∀ s c, isBreak c = false → loop.next (loop.inside s) c = loop.inside s
  write_head : ∀ s c p, isBlankOrEnd c = false → special c = false →
    loop.write s c p = { (loop.before s p).put c with indention := false }
  write_later : ∀ s c p, isBreak c = false → special c = false → p.indention = false →
    loop.write (loop.inside s) c p = p.put c

variable {loop} {special : Char → Bool}

theorem Literally.run_later (h : loop.Literally special) {t : List Char}
    (hline : ∀ c ∈ t, isBreak c = false) (hspecial : ∀ c ∈ t, special c = false) (s : σ)
    (p : Printer) (hp : p.indention = false)
    : loop.run (t ++ u) (loop.inside s) p = loop.run u (loop.inside s) (p.putAll t) := by
  induction t generalizing p with
  | nil => rfl
  | cons c t ih =>
    simp only [List.mem_cons, forall_eq_or_imp] at hline hspecial
    rw [List.cons_append, run, h.next_later s c hline.1, h.write_later s c p hline.1 hspecial.1 hp]
    exact ih hline.2 hspecial.2 (p.put c) hp

theorem Literally.run_word (h : loop.Literally special) (hw : IsWord w)
    (hspecial : ∀ c ∈ w, special c = false) (s : σ) (p : Printer)
    : loop.run (w ++ u) s p = loop.run u (loop.inside s) ((loop.before s p).putWord w) := by
  obtain ⟨c, t, rfl, hc, -⟩ := hw.head
  have hline := hw.line
  simp only [List.mem_cons, forall_eq_or_imp] at hline hspecial
  rw [List.cons_append, run, h.next_head s c hc, h.write_head s c p hc hspecial.1,
    h.run_later hline.2 hspecial.2 s _ rfl]
  simp only [putWord, putAll_eq, put]
  congr 1
  simp only [List.reverse_cons, List.append_assoc, List.singleton_append, List.length_cons]
  congr 1
  omega

theorem Literally.twin_run (h : loop.Literally special)
    (hR : ∀ {w w'}, R w w' → IsWord w ∧ IsWord w')
    (huv : Respelled (fun w w' => R w w' ∧ ∀ c ∈ w ++ w', special c = false) u v) (s : σ)
    (hp : Twin R l p q)
    : Twin R l (loop.run u s p) (loop.run v s q) := by
  induction huv generalizing s p q with
  | nil => exact hp
  | char c _ ih => exact ih _ (h.twin s c hp)
  | word hw _ ih =>
    obtain ⟨hword, hspecial⟩ := hw
    simp only [List.mem_append] at hspecial
    obtain ⟨hw, hw'⟩ := hR hword
    rw [h.run_word hw fun c hc => hspecial c (.inl hc),
      h.run_word hw' fun c hc => hspecial c (.inr hc)]
    exact ih _ ((h.twin_before s hp).putWord hword hw.ne_nil hw'.ne_nil)

end Loop

/-- Start a line if there was a line break. -/
def startLine (broken : Bool) (p : Printer) : Printer := if broken then p.writeIndent else p

theorem Twin.startLine (h : Twin R l p q) (broken : Bool)
    : Twin R l (p.startLine broken) (q.startLine broken) := by
  cases broken with
  | true => exact h.writeIndent
  | false => exact h

/-- Write a line break of a plain or single quoted scalar, the first one twice. -/
def foldBreak (broken : Bool) (c : Char) (p : Printer) : Printer :=
  (if !broken && c == '\n' then p.putBreak else p).putBreakChar c

theorem Twin.foldBreak (h : Twin R l p q) (broken : Bool) (c : Char)
    : Twin R l (p.foldBreak broken c) (q.foldBreak broken c) := by
  unfold Printer.foldBreak
  split
  . exact h.putBreak.putBreakChar c
  . exact h.putBreakChar c

/-- The loop of a plain or single quoted scalar; `double` is the character that is written twice. -/
def flowLoop (double : Char → Bool) : Loop Bool where
  next broken c := if c == ' ' then broken else isBreak c
  write broken c p :=
    if c == ' ' then p.put c
    else if isBreak c then p.foldBreak broken c
    else
      let p := p.startLine broken
      { (if double c then p.put c else p).put c with indention := false }
  before broken p := p.startLine broken
  inside _ := false

theorem literally_flowLoop (double : Char → Bool) : (flowLoop double).Literally double where
  twin := by
    intro R l p q broken c h
    simp only [flowLoop]
    split
    . exact h.put c
    . split
      . exact h.foldBreak broken c
      . refine Twin.putSame ?_ c
        split
        . exact (h.startLine broken).put c
        . exact h.startLine broken
  twin_before := fun broken h => h.startLine broken
  next_head := by
    intro broken c hc
    simp [flowLoop, ne_space_of_isBlankOrEnd hc, isBreak_eq_false_of_isBlankOrEnd hc]
  next_later := by
    intro broken c hc
    simp [flowLoop, hc]
  write_head := by
    intro broken c p hc hdouble
    simp [flowLoop, ne_space_of_isBlankOrEnd hc, isBreak_eq_false_of_isBlankOrEnd hc, hdouble]
  write_later := by
    intro broken c p hc hdouble hp
    by_cases hspace : c = ' '
    . simp [flowLoop, hspace]
    . simp [flowLoop, hspace, hc, hdouble, Printer.startLine, put, hp]

theorem writePlain_go_eq (cs : List Char) (broken : Bool) (p : Printer)
    : writePlain.go cs broken p = (flowLoop fun _ => false).run cs broken p := by
  induction cs generalizing broken p with
  | nil => rfl
  | cons c cs ih =>
    rw [writePlain.go, Loop.run]
    by_cases hspace : c = ' '
    . simp [ih, flowLoop, hspace]
    . cases hc : isBreak c
      all_goals simp [ih, flowLoop, hspace, hc, foldBreak, Printer.startLine]

theorem writeSingleQuoted_go_eq (cs : List Char) (broken : Bool) (p : Printer)
    : writeSingleQuoted.go cs broken p = (flowLoop (· == '\'')).run cs broken p := by
  induction cs generalizing broken p with
  | nil => rfl
  | cons c cs ih =>
    rw [writeSingleQuoted.go, Loop.run]
    by_cases hspace : c = ' '
    . simp [ih, flowLoop, hspace]
    . cases hc : isBreak c
      all_goals simp [ih, flowLoop, hspace, hc, foldBreak, Printer.startLine]

/--
The loop of a block scalar. Its state says whether there was a line break, and whether the line
before began with a blank; `twice` says that a line break between two lines that did not is written
twice.
-/
def blockLoop (twice : Bool) : Loop (Bool × Bool) where
  next s c := if isBreak c then (true, s.2) else (false, if s.1 then isBlank c else s.2)
  write s c p :=
    if isBreak c then (if twice && !s.1 && !s.2 && c == '\n' then p.putBreak else p).putBreakChar c
    else { (p.startLine s.1).put c with indention := false }
  before s p := p.startLine s.1
  inside s := (false, if s.1 then false else s.2)

theorem literally_blockLoop (twice : Bool) : (blockLoop twice).Literally fun _ => false where
  twin := by
    intro R l p q s c h
    simp only [blockLoop]
    split
    . split
      . exact h.putBreak.putBreakChar c
      . exact h.putBreakChar c
    . exact (h.startLine s.1).putSame c
  twin_before := fun s h => h.startLine s.1
  next_head := by
    intro s c hc
    have hblank : isBlank c = false := by
      simp only [isBlankOrEnd, Bool.or_eq_false_iff] at hc
      exact hc.1
    simp [blockLoop, isBreak_eq_false_of_isBlankOrEnd hc, hblank]
  next_later := by
    intro s c hc
    simp [blockLoop, hc]
  write_head := by
    intro s c p hc _
    simp [blockLoop, isBreak_eq_false_of_isBlankOrEnd hc]
  write_later := by
    intro s c p hc _ hp
    simp [blockLoop, hc, Printer.startLine, put, hp]

theorem writeLiteral_go_eq (cs : List Char) (broken leading : Bool) (p : Printer)
    : writeLiteral.go cs broken p = (blockLoop false).run cs (broken, leading) p := by
  induction cs generalizing broken leading p with
  | nil => rfl
  | cons c cs ih =>
    rw [writeLiteral.go, Loop.run]
    cases hc : isBreak c
    all_goals
      simp only [blockLoop, hc, Printer.startLine, Bool.false_and, Bool.false_eq_true,
        if_false, if_true]
      rw [ih]
      rfl

theorem writeFolded_go_eq (value cs : List Char) (broken leading : Bool) (p : Printer)
    : writeFolded.go value cs broken leading p =
        (blockLoop !writeFolded.startsBlank value).run cs (broken, leading) p := by
  induction cs generalizing broken leading p with
  | nil => rfl
  | cons c cs ih =>
    rw [writeFolded.go, Loop.run, ih, ih]
    have hcomm : (!broken && !leading && c == '\n' && !writeFolded.startsBlank value) =
        (!writeFolded.startsBlank value && !broken && !leading && c == '\n') := by
      cases writeFolded.startsBlank value
      all_goals simp
    cases hc : isBreak c
    all_goals simp only [blockLoop, hc, Printer.startLine, hcomm, Bool.false_eq_true,
      if_false, if_true]

/-- The characters that a style writes in another way. -/
def isSpecial : ScalarStyle → Char → Bool
  | .singleQuoted, c => c == '\''
  | .doubleQuoted, c => needsEscape c
  | _, _ => false

/--
Two values that differ in words, none of which holds a character that the style writes in another
way. After a byte order mark at the start of a value in double quotes that is every character, and
the values are the same.
-/
structure SpeltIn (R : List Char → List Char → Prop) (style : ScalarStyle) (u v : List Char)
    : Prop where
  spelt : Respelled (fun w w' => R w w' ∧ ∀ c ∈ w ++ w', isSpecial style c = false) u v
  marked : style = .doubleQuoted → u.head?.any isByteOrderMark = true → v = u

theorem SpeltIn.respelled {style : ScalarStyle} (h : SpeltIn R style u v) : Respelled R u v :=
    h.spelt.mono fun hw => hw.1

/-- What is written for a value in double quotes. -/
def escaped (marked : Bool) (cs : List Char) : List Char :=
  cs.flatMap fun c => if marked || needsEscape c then escape c else [c]

theorem escaped_of_forall_not (h : ∀ c ∈ w, needsEscape c = false) : escaped false w = w := by
  induction w with
  | nil => rfl
  | cons c w ih =>
    simp only [List.mem_cons, forall_eq_or_imp] at h
    have ih : (w.flatMap fun c => if (false || needsEscape c) = true then escape c else [c]) = w :=
      ih h.2
    rw [escaped, List.flatMap_cons, ih, h.1]
    rfl

theorem putAll_append (p : Printer) (cs ds : List Char)
    : p.putAll (cs ++ ds) = (p.putAll cs).putAll ds :=
  List.foldl_append

section

variable (hR : ∀ {w w'}, R w w' → IsWord w ∧ IsWord w')
include hR

theorem SpeltIn.twin_writePlain (h : SpeltIn R .plain u v) (hp : Twin R l p q)
    : Twin R l (p.writePlain u) (q.writePlain v) := by
  unfold writePlain
  rw [h.respelled.isEmpty_eq hR]
  split
  . exact { hp with indention := rfl, column := by simp }
  . rw [writePlain_go_eq, writePlain_go_eq]
    exact ((literally_flowLoop _).twin_run hR h.spelt false hp.separate).withFlags false

theorem SpeltIn.twin_writeSingleQuoted (h : SpeltIn R .singleQuoted u v) (hp : Twin R l p q)
    : Twin R l (p.writeSingleQuoted u) (q.writeSingleQuoted v) := by
  unfold writeSingleQuoted
  rw [writeSingleQuoted_go_eq, writeSingleQuoted_go_eq]
  have hopen := hp.indicator ['\''] true false false
  have hvalue := (literally_flowLoop (· == '\'')).twin_run hR h.spelt false hopen
  exact (hvalue.indicator ['\''] false false false).withFlags false

theorem twin_putAll_escaped
    (h : Respelled (fun w w' => R w w' ∧ ∀ c ∈ w ++ w', needsEscape c = false) u v)
    (hp : Twin R l p q) (hi : p.indention = false)
    : Twin R l (p.putAll (escaped false u)) (q.putAll (escaped false v)) := by
  induction h generalizing p q with
  | nil => exact hp
  | @char c u v _ ih =>
    have hcons (u : List Char) : escaped false ([c] ++ u) = escaped false [c] ++ escaped false u :=
      List.flatMap_append
    simp only [List.singleton_append] at hcons
    rw [hcons u, hcons v, putAll_append, putAll_append]
    refine ih (hp.putAll _) ?_
    rw [putAll_eq]
    exact hi
  | @word w w' u v hw _ ih =>
    obtain ⟨hword, hclean⟩ := hw
    simp only [List.mem_append] at hclean
    have happend {w : List Char} (u : List Char) (h : ∀ c ∈ w, needsEscape c = false)
        : escaped false (w ++ u) = w ++ escaped false u := by
      rw [escaped, List.flatMap_append]
      exact congrArg (· ++ _) (escaped_of_forall_not h)
    have hputWord {p : Printer} (hi : p.indention = false) (w : List Char) : p.putAll w =
      p.putWord w := by
      rw [putWord, putAll_eq, ← hi]
    rw [happend u fun c hc => hclean c (.inl hc), happend v fun c hc => hclean c (.inr hc),
      putAll_append,
      putAll_append, hputWord hi, hputWord (hp.indention.trans hi)]
    exact ih (hp.putWord hword (hR hword).1.ne_nil (hR hword).2.ne_nil) rfl

theorem SpeltIn.twin_writeDoubleQuoted (h : SpeltIn R .doubleQuoted u v) (hp : Twin R l p q)
    : Twin R l (p.writeDoubleQuoted u) (q.writeDoubleQuoted v) := by
  have hopen := hp.indicator ['"'] true false false
  suffices hvalue : Twin R l
      ((p.indicator ['"'] true false false).putAll (escaped (u.head?.any isByteOrderMark) u))
      ((q.indicator ['"'] true false false).putAll (escaped (v.head?.any isByteOrderMark) v)) from
    (hvalue.indicator ['"'] false false false).withFlags false
  cases hmark : u.head?.any isByteOrderMark with
  | true =>
    rw [h.marked rfl hmark, hmark]
    exact hopen.putAll _
  | false =>
    have hmark' : v.head?.any isByteOrderMark = false := by
      rw [h.respelled.any_head? hR (fun _ _ hmark => hmark), hmark]
    rw [hmark']
    exact twin_putAll_escaped hR h.spelt hopen (Bool.and_false _)

theorem Respelled.twin_writeBlockHeader (h : Respelled R u v) (hp : Twin R l p q) (sign : Char)
    : Twin R l (p.writeBlockHeader sign u) (q.writeBlockHeader sign v) := by
  have hhint : (v.head?.any fun c => c == ' ' || isBreak c) = u.head?.any fun c => c == ' ' ||
    isBreak c := by
    refine h.any_head? hR fun c hc _ => ?_
    simp [ne_space_of_isBlankOrEnd hc, isBreak_eq_false_of_isBlankOrEnd hc]
  have hsign := hp.indicator [sign] true false false
  unfold writeBlockHeader
  dsimp only
  rw [hhint, chompingSign_of_respelled hR h, hsign.width]
  refine Twin.withWhitespace (Twin.writeLine (Twin.indicator ?_ _ _ _ _)) true
  split
  . exact hsign.indicator _ _ _ _
  . exact hsign

theorem SpeltIn.twin_writeLiteral (h : SpeltIn R .literal u v) (hp : Twin R l p q)
    : Twin R l (p.writeLiteral u) (q.writeLiteral v) := by
  unfold writeLiteral
  rw [writeLiteral_go_eq _ _ false, writeLiteral_go_eq _ _ false]
  exact (literally_blockLoop _).twin_run hR h.spelt
    _ (Respelled.twin_writeBlockHeader hR h.respelled hp '|')

theorem startsBlank_of_respelled (h : Respelled R u v)
    : writeFolded.startsBlank v = writeFolded.startsBlank u := by
  have hhead (cs : List Char) : isBlankOrEnd (cs.headD endChar) =
    (cs.isEmpty || cs.head?.any isBlankOrEnd) := by
    cases cs with
    | nil => rfl
    | cons c cs => simp
  have hdrop := h.dropWhile_isBreak hR
  rw [writeFolded.startsBlank, writeFolded.startsBlank, hhead, hhead, hdrop.isEmpty_eq hR,
    hdrop.any_head? hR fun _ hc _ => hc]

theorem SpeltIn.twin_writeFolded (h : SpeltIn R .folded u v) (hp : Twin R l p q)
    : Twin R l (p.writeFolded u) (q.writeFolded v) := by
  unfold writeFolded
  rw [writeFolded_go_eq, writeFolded_go_eq, startsBlank_of_respelled hR h.respelled]
  exact (literally_blockLoop _).twin_run hR h.spelt
    _ (Respelled.twin_writeBlockHeader hR h.respelled hp '>')

/-- Values that differ in words are written as texts that differ in words. -/
theorem SpeltIn.twin_writeStyled {style : ScalarStyle} (h : SpeltIn R style u v) (hp : Twin R l p q)
    : Twin R l (p.writeStyled style u) (q.writeStyled style v) := by
  cases style with
  | plain => exact h.twin_writePlain hR hp
  | singleQuoted => exact h.twin_writeSingleQuoted hR hp
  | doubleQuoted => exact h.twin_writeDoubleQuoted hR hp
  | literal => exact h.twin_writeLiteral hR hp
  | folded => exact h.twin_writeFolded hR hp

end

end Printer
end Yaml
end YamlOrder
