import YamlOrder.Proofs.Text.Utf8
import YamlOrder.Yaml.Source

/-!
This module contains the reading of valid UTF-8: a stream of characters that may stand in one is
read as these characters, although the end of a block may divide one of them.
-/

namespace YamlOrder
namespace Yaml
namespace Source

open Text (continuation leading ofChars)

variable {c : Char} {cs : List Char} {t : Text}

theorem octetCount_eq (b : UInt8)
    : octetCount b =
        if b.toNat < 0x80 then some 1
        else if b.toNat < 0xC0 then none
        else if b.toNat < 0xE0 then some 2
        else if b.toNat < 0xF0 then some 3
        else if b.toNat < 0xF8 then some 4
        else none := by
  simp only [octetCount, UInt8.lt_iff_toNat_lt]
  rfl

theorem exists_lead (c : Char)
    : ∃ b k, String.utf8EncodeChar c = b :: continuation k c.toNat ∧ octetCount b = some (k + 1) ∧
        leadBits b (k + 1) = leading k c.toNat ∧ leastOf (k + 1) ≤ c.toNat := by
  have hscalar := Text.isScalar_toNat c
  simp only [Text.isScalar, Bool.or_eq_true, Bool.and_eq_true, decide_eq_true_eq] at hscalar
  have hlead {n : Nat} (hn : n < 256) : (UInt8.ofNat n).toNat = n := (Text.eq_ofNat_iff hn).mp rfl
  rw [Text.utf8EncodeChar_eq]
  split
  . refine ⟨_, 0, rfl, ?_, ?_, Nat.zero_le _⟩
    . rw [octetCount_eq, hlead (by omega), if_pos (by omega)]
    . exact hlead (by omega)
  split
  . have : leading 1 c.toNat < 32 := by simp only [leading]; omega
    refine ⟨_, 1, rfl, ?_, ?_, by simp only [leastOf]; omega⟩
    . rw [octetCount_eq, hlead (by omega), if_neg (by omega), if_neg (by omega), if_pos (by omega)]
    . simp only [leadBits]
      rw [hlead (by omega)]
      omega
  split
  . have : leading 2 c.toNat < 16 := by simp only [leading]; omega
    refine ⟨_, 2, rfl, ?_, ?_, by simp only [leastOf]; omega⟩
    . rw [octetCount_eq, hlead (by omega), if_neg (by omega), if_neg (by omega), if_neg (by omega),
        if_pos (by omega)]
    . simp only [leadBits]
      rw [hlead (by omega)]
      omega
  . have : leading 3 c.toNat < 8 := by simp only [leading]; omega
    refine ⟨_, 3, rfl, ?_, ?_, by simp only [leastOf]; omega⟩
    . rw [octetCount_eq, hlead (by omega), if_neg (by omega), if_neg (by omega), if_neg (by omega),
        if_neg (by omega), if_pos (by omega)]
    . simp only [leadBits]
      rw [hlead (by omega)]
      omega

theorem foldl_continuation (k v : Nat)
    : (continuation k v).foldl (fun n t => n * 64 + t.toNat % 64) (leading k v) = v := by
  induction k with
  | zero => rfl
  | succ k ih =>
    have hbyte : (UInt8.ofNat (leading k v % 64 + 128)).toNat = leading k v % 64 + 128 :=
      (Text.eq_ofNat_iff (by omega)).mp rfl
    have hvalue : leading k v / 64 * 64 + (leading k v % 64 + 128) % 64 = leading k v := by omega
    rw [continuation, List.foldl_cons, leading, hbyte, hvalue, ih]

theorem not_any_continuation (k v : Nat)
    : ((continuation k v).any fun t => t < 0x80 || 0xC0 ≤ t) = false := by
  induction k with
  | zero => rfl
  | succ k ih =>
    have hbyte : (UInt8.ofNat (leading k v % 64 + 128)).toNat = leading k v % 64 + 128 :=
      (Text.eq_ofNat_iff (by omega)).mp rfl
    have hlow : ¬ UInt8.ofNat (leading k v % 64 + 128) < 0x80 := by
      rw [UInt8.lt_iff_toNat_lt, hbyte]
      exact Nat.not_lt.mpr (Nat.le_add_left _ _)
    have hhigh : ¬ 0xC0 ≤ UInt8.ofNat (leading k v % 64 + 128) := by
      rw [UInt8.le_iff_toNat_le, hbyte]
      have : (0xC0 : UInt8).toNat = 192 := rfl
      omega
    rw [continuation, List.any_cons, ih, decide_eq_false hlow, decide_eq_false hhigh]
    rfl

theorem utf8Step_eq {b : UInt8} {k : Nat} (rest : Text) (hc : isAllowed c.toNat = true)
    (hcount : octetCount b = some (k + 1)) (hbits : leadBits b (k + 1) = leading k c.toNat)
    (hleast : leastOf (k + 1) ≤ c.toNat)
    : utf8Step b (continuation k c.toNat ++ rest) = .char c (k + 1) := by
  have hscalar := Text.isScalar_toNat c
  simp only [Text.isScalar, Bool.or_eq_true, Bool.and_eq_true, decide_eq_true_eq] at hscalar
  have htail : (continuation k c.toNat ++ rest).take k = continuation k c.toNat := by
    rw [List.take_append_of_le_length (Nat.le_of_eq (Text.length_continuation k _).symm),
      List.take_of_length_le (Nat.le_of_eq (Text.length_continuation k _))]
  unfold utf8Step
  rw [hcount]
  dsimp only
  rw [Nat.add_sub_cancel, htail, Text.length_continuation, if_neg (Nat.lt_irrefl _),
    not_any_continuation, hbits,
    foldl_continuation, if_neg (Nat.not_lt.mpr hleast)]
  simp only [Bool.false_eq_true, if_false]
  rw [if_neg, checked, if_pos hc, Char.ofNat_toNat]
  simp only [Bool.or_eq_true, Bool.and_eq_true, decide_eq_true_eq]
  omega

theorem utf8Step_short {b : UInt8} {k : Nat} (hcount : octetCount b = some (k + 1))
    (h : t.length < k)
    : utf8Step b t = .incomplete .incompleteOctets := by
  unfold utf8Step
  rw [hcount]
  dsimp only
  rw [Nat.add_sub_cancel, if_pos]
  rw [List.length_take]
  omega

theorem go_skip (u t : Text)
    : decodeBlock.go .utf8 (u ++ t) u.length =
        ((decodeBlock.go .utf8 t 0).1, (decodeBlock.go .utf8 t 0).2.1 + u.length,
          (decodeBlock.go .utf8 t 0).2.2) := by
  induction u with
  | nil => rfl
  | cons b u ih =>
    rw [List.cons_append, List.length_cons, decodeBlock.go, ih]
    rfl

theorem length_utf8EncodeChar_le (c : Char) : (String.utf8EncodeChar c).length ≤ 4 := by
  rw [Text.utf8EncodeChar_eq]
  split
  . simp
  split
  . simp [Text.length_continuation]
  split
  . simp [Text.length_continuation]
  . simp [Text.length_continuation]

theorem decodeBlock_append (t : Text) (h : isAllowed c.toNat = true)
    : decodeBlock .utf8 (String.utf8EncodeChar c ++ t) =
        (c :: (decodeBlock .utf8 t).1, (decodeBlock .utf8 t).2.1 + (String.utf8EncodeChar c).length,
          (decodeBlock .utf8 t).2.2) := by
  obtain ⟨b, k, hencode, hcount, hbits, hleast⟩ := exists_lead c
  have hskip := go_skip (continuation k c.toNat) t
  rw [Text.length_continuation] at hskip
  rw [hencode, List.cons_append, List.length_cons, Text.length_continuation, decodeBlock,
    decodeBlock.go, step,
    utf8Step_eq _ h hcount hbits hleast]
  dsimp only
  rw [Nat.add_sub_cancel, hskip]
  rfl

theorem decodeBlock_short {n : Nat} (hpos : 0 < n)
    (h : n < (String.utf8EncodeChar c).length) (t : Text)
    : decodeBlock .utf8 ((String.utf8EncodeChar c ++ t).take n) =
      ([], 0, some (.incomplete .incompleteOctets)) := by
  obtain ⟨b, k, hencode, hcount, -, -⟩ := exists_lead c
  obtain ⟨m, rfl⟩ : ∃ m, n = m + 1 := ⟨n - 1, by omega⟩
  rw [hencode, List.length_cons, Text.length_continuation] at h
  rw [hencode, List.cons_append, List.take_succ_cons, decodeBlock, decodeBlock.go, step,
    utf8Step_short hcount]
  rw [List.length_take]
  omega

/--
What is read of a block: all of it, or all but the first bytes of a character that goes on after it.
-/
def ReadsTo (size : Nat) (cs ds : List Char) : Prop :=
  (ofChars cs).take size = ofChars ds ∧ decodeBlock .utf8 ((ofChars cs).take size) =
  (ds, (ofChars ds).length, none) ∨
    size < (ofChars cs).length ∧ size < (ofChars ds).length + 4 ∧
      decodeBlock .utf8 ((ofChars cs).take size) =
      (ds, (ofChars ds).length, some (.incomplete .incompleteOctets))

theorem readsTo_of_short {size : Nat} (cs : List Char) (h : size < (String.utf8EncodeChar c).length)
    : ReadsTo size (c :: cs) [] := by
  have hwidth := length_utf8EncodeChar_le c
  obtain rfl | hpos := Nat.eq_zero_or_pos size
  . exact .inl ⟨rfl, rfl⟩
  . refine .inr ⟨?_, ?_, ?_⟩
    . rw [Text.ofChars_cons, List.length_append]
      omega
    . rw [Text.ofChars_nil, List.length_nil]
      omega
    . rw [Text.ofChars_cons]
      exact decodeBlock_short hpos h _

theorem ReadsTo.cons {size : Nat} {cs ds : List Char} (hc : isAllowed c.toNat = true)
    (h : ReadsTo size cs ds)
    : ReadsTo ((String.utf8EncodeChar c).length + size) (c :: cs) (c :: ds) := by
  have htake : (ofChars (c :: cs)).take ((String.utf8EncodeChar c).length + size) =
      String.utf8EncodeChar c ++ (ofChars cs).take size := by
    rw [Text.ofChars_cons, List.take_length_add_append]
  have hlength (es : List Char) :
      (ofChars (c :: es)).length = (ofChars es).length + (String.utf8EncodeChar c).length := by
    rw [Text.ofChars_cons, List.length_append, Nat.add_comm]
  unfold ReadsTo
  rw [htake, decodeBlock_append _ hc, hlength, hlength]
  obtain ⟨hall, hblock⟩ | ⟨hlong, hnear, hblock⟩ := h
  . refine .inl ⟨?_, ?_⟩
    . rw [hall, Text.ofChars_cons]
    . rw [hblock]
  . refine .inr ⟨by omega, by omega, ?_⟩
    rw [hblock]

theorem exists_readsTo (size : Nat) (hcs : ∀ c ∈ cs, isAllowed c.toNat = true)
    : ∃ ds es, cs = ds ++ es ∧ ReadsTo size cs ds := by
  induction cs generalizing size with
  | nil =>
    exact ⟨[], [], rfl, .inl ⟨by simp [ofChars], by simp [ofChars, decodeBlock, decodeBlock.go]⟩⟩
  | cons c cs ih =>
    by_cases hsize : size < (String.utf8EncodeChar c).length
    . exact ⟨[], c :: cs, rfl, readsTo_of_short cs hsize⟩
    . obtain ⟨m, rfl⟩ := Nat.exists_eq_add_of_le (Nat.not_lt.mp hsize)
      obtain ⟨ds, es, rfl, hread⟩ := ih m fun d hd => hcs d (List.mem_cons_of_mem c hd)
      exact ⟨c :: ds, es, rfl, hread.cons (hcs c List.mem_cons_self)⟩

theorem eq_nil_of_ofChars_eq_nil (h : ofChars cs = []) : cs = [] := by
  cases cs with
  | nil => rfl
  | cons c cs =>
    obtain ⟨b, k, hencode, -⟩ := exists_lead c
    rw [Text.ofChars_cons, hencode] at h
    cases h

theorem exists_decodeBlocks {fuel size : Nat} (hcs : ∀ c ∈ cs, isAllowed c.toNat = true)
    (hfuel : (ofChars cs).length < fuel) (hsize : 4 ≤ size)
    : ∃ front, decodeBlocks .utf8 fuel size (ofChars cs) =
      { chars := cs, fault := none, front } := by
  induction fuel generalizing cs size with
  | zero => exact absurd hfuel (Nat.not_lt_zero _)
  | succ fuel ih =>
    unfold decodeBlocks
    split
    . next hempty => exact ⟨0, by rw [eq_nil_of_ofChars_eq_nil (List.isEmpty_iff.mp hempty)]⟩
    . next hempty =>
      obtain ⟨ds, es, rfl, hread⟩ := exists_readsTo size hcs
      have hdrop : (ofChars (ds ++ es)).drop (ofChars ds).length = ofChars es := by
        rw [Text.ofChars_append, List.drop_left]
      have hlength : (ofChars (ds ++ es)).length = (ofChars ds).length + (ofChars es).length := by
        rw [Text.ofChars_append, List.length_append]
      have hrest (hds : 0 < (ofChars ds).length) : ∃ front,
        decodeBlocks .utf8 fuel blockSize (ofChars es) =
          { chars := es, fault := none, front } :=
        ih (fun c hc => hcs c (List.mem_append_right ds hc)) (by omega) (by decide)
      obtain ⟨hall, hblock⟩ | ⟨hlong, hnear, hblock⟩ := hread
      . have hds : 0 < (ofChars ds).length := by
          rw [List.isEmpty_iff, ← List.length_eq_zero_iff] at hempty
          rw [← hall, List.length_take]
          omega
        obtain ⟨front, hrest⟩ := hrest hds
        dsimp only
        rw [hblock]
        dsimp only
        rw [hdrop, hrest]
        exact ⟨ds.length, rfl⟩
      . obtain ⟨front, hrest⟩ := hrest (by omega)
        dsimp only
        rw [hblock]
        dsimp only
        rw [if_neg (Nat.not_le.mpr hlong), hdrop, hrest]
        exact ⟨ds.length, rfl⟩

theorem detect_ofChars (hfirst : cs.head?.any isByteOrderMark = false)
    : detect (ofChars cs) = (.utf8, 0) := by
  cases cs with
  | nil => rfl
  | cons c cs =>
    obtain ⟨b, k, hencode, hcount, -⟩ := exists_lead c
    have hbytes : ofChars (c :: cs) = b :: (continuation k c.toNat ++ ofChars cs) := by
      rw [Text.ofChars_cons, hencode, List.cons_append]
    unfold detect
    split
    . next heq =>
      rw [hbytes, List.cons.injEq] at heq
      rw [heq.1] at hcount
      cases hcount
    . next heq =>
      rw [hbytes, List.cons.injEq] at heq
      rw [heq.1] at hcount
      cases hcount
    . next rest heq =>
      have hhead := Text.decodeHead_utf8EncodeChar c (ofChars cs)
      have hmark : Text.decodeHead (0xEF :: 0xBB :: 0xBF :: rest) =
        some (Char.ofNat 0xFEFF, 3) := rfl
      rw [← Text.ofChars_cons, heq, hmark, Option.some.injEq, Prod.mk.injEq] at hhead
      rw [← hhead.1, List.head?_cons, Option.any_some] at hfirst
      cases hfirst
    . rfl

/-- A text of characters that may stand in a stream is read as these, unless it has none. -/
theorem exists_ofText (hcs : ∀ c ∈ cs, isAllowed c.toNat = true) (hne : cs ≠ [])
    (hfirst : cs.head?.any isByteOrderMark = false)
    : ∃ front, ofText (ofChars cs) = { chars := cs, fault := none, front } := by
  have hnonempty : (ofChars cs).isEmpty = false := by
    rw [Bool.eq_false_iff, ne_eq, List.isEmpty_iff]
    exact fun h => hne (eq_nil_of_ofChars_eq_nil h)
  unfold ofText
  rw [hnonempty]
  simp only [Bool.false_eq_true, if_false, detect_ofChars hfirst]
  exact exists_decodeBlocks hcs (Nat.lt_succ_self _) (by decide)

end Source
end Yaml
end YamlOrder
