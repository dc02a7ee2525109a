import Mathlib.Data.Nat.Init
import YamlOrder.Text.Utf8

/-!
This module contains the round trip of UTF-8: characters that are written as bytes are read back,
whatever follows them. At the end, a byte of ASCII is a character of its own, whatever stands around
it.
-/

namespace YamlOrder
namespace Text

variable {cs ds : List Char} {t u : Text}

theorem isScalar_toNat (c : Char) : isScalar c.toNat = true := by
  have := c.valid
  simp only [isScalar, Bool.or_eq_true, Bool.and_eq_true, decide_eq_true_eq]
  exact this

theorem toNat_ofNat {n : Nat} (h : isScalar n = true) : (Char.ofNat n).toNat = n := by
  have hvalid : n.isValidChar := by
    simp only [isScalar, Bool.or_eq_true, Bool.and_eq_true, decide_eq_true_eq] at h
    exact h
  rw [Char.ofNat, dif_pos hvalid]
  rfl

/-- A code without its last `n` groups of six bits. -/
def leading : Nat → Nat → Nat
  | 0, v => v
  | n + 1, v => leading n v / 64

/-- The continuation bytes of the last `n` groups of six bits of a code. -/
def continuation : Nat → Nat → Text
  | 0, _ => []
  | n + 1, v => UInt8.ofNat (leading n v % 64 + 128) :: continuation n v

theorem eq_ofNat_iff {b : UInt8} {n : Nat} (hn : n < 256) : b = UInt8.ofNat n ↔ b.toNat = n := by
  have hbyte : (UInt8.ofNat n).toNat = n := by
    simp only [UInt8.toNat_ofNat']
    omega
  rw [← UInt8.toNat_inj, hbyte]

theorem isContinuation_iff (b : UInt8) : (0x80 ≤ b && b < 0xC0) = true ↔
    128 ≤ b.toNat ∧ b.toNat < 192 := by
  simp only [Bool.and_eq_true, decide_eq_true_eq, UInt8.le_iff_toNat_le, UInt8.lt_iff_toNat_lt]
  exact Iff.rfl

theorem decodeTail_eq_some_iff {least n value : Nat} {c : Char}
    : decodeTail least n value t = some c ↔
        least ≤ c.toNat ∧ value = leading n c.toNat ∧ ∃ rest,
        t = continuation n c.toNat ++ rest := by
  induction n generalizing value t with
  | zero =>
    rw [decodeTail]
    constructor
    . split
      . next hvalue =>
        intro hc
        obtain rfl := Option.some.inj hc
        simp only [Bool.and_eq_true, decide_eq_true_eq] at hvalue
        rw [toNat_ofNat hvalue.2]
        exact ⟨hvalue.1, rfl, t, rfl⟩
      . intro hc
        cases hc
    . rintro ⟨hleast, rfl, -⟩
      rw [leading, isScalar_toNat, Char.ofNat_toNat]
      simp [hleast]
  | succ n ih =>
    cases t with
    | nil =>
      simp only [decodeTail, false_iff, not_and, not_exists, reduceCtorEq]
      intro _ _ rest hrest
      cases hrest
    | cons b t =>
      rw [decodeTail]
      by_cases hb : (0x80 ≤ b && b < 0xC0) = true
      . rw [if_pos hb, ih]
        rw [isContinuation_iff] at hb
        have hbyte : b = UInt8.ofNat (leading n c.toNat % 64 + 128) ↔
          b.toNat = leading n c.toNat % 64 + 128 :=
          eq_ofNat_iff (by omega)
        simp only [leading, continuation, List.cons_append, List.cons.injEq, exists_and_left, hbyte]
        refine and_congr_right fun _ => ?_
        rw [← and_assoc]
        refine and_congr_left fun _ => ?_
        have : (0x80 : UInt8).toNat = 128 := rfl
        omega
      . rw [if_neg hb]
        rw [isContinuation_iff] at hb
        simp only [continuation, List.cons_append, List.cons.injEq, reduceCtorEq, false_iff,
          not_and, not_exists]
        rintro _ _ rest hbyte _
        rw [eq_ofNat_iff (by omega)] at hbyte
        omega

theorem utf8EncodeChar_eq (c : Char)
    : String.utf8EncodeChar c =
        if c.toNat < 0x80 then [UInt8.ofNat c.toNat]
        else if c.toNat < 0x800 then UInt8.ofNat
        (leading 1 c.toNat + 0xC0) :: continuation 1 c.toNat
        else if c.toNat < 0x10000 then UInt8.ofNat
        (leading 2 c.toNat + 0xE0) :: continuation 2 c.toNat
        else UInt8.ofNat (leading 3 c.toNat + 0xF0) :: continuation 3 c.toNat := by
  have hscalar := isScalar_toNat c
  simp only [isScalar, Bool.or_eq_true, Bool.and_eq_true, decide_eq_true_eq] at hscalar
  have hval : c.val.toNat = c.toNat := rfl
  unfold String.utf8EncodeChar
  rw [hval]
  simp only [leading, continuation]
  grind

theorem length_continuation (n v : Nat) : (continuation n v).length = n := by
  induction n with
  | zero => rfl
  | succ n ih => simp [continuation, ih]

theorem decodeHead_utf8EncodeChar (c : Char) (rest : Text)
    : decodeHead (String.utf8EncodeChar c ++ rest) =
      some (c, (String.utf8EncodeChar c).length) := by
  have hscalar := isScalar_toNat c
  simp only [isScalar, Bool.or_eq_true, Bool.and_eq_true, decide_eq_true_eq] at hscalar
  have htail {least n : Nat} (hleast : least ≤ c.toNat)
      : decodeTail least n (leading n c.toNat) (continuation n c.toNat ++ rest) = some c :=
    decodeTail_eq_some_iff.mpr ⟨hleast, rfl, rest, rfl⟩
  have hlead {k : Nat} (hk : k < 256) : (UInt8.ofNat k).toNat = k := (eq_ofNat_iff hk).mp rfl
  rw [utf8EncodeChar_eq]
  split
  . simp only [List.cons_append, List.nil_append, decodeHead]
    rw [hlead (by omega), if_pos (by omega), Char.ofNat_toNat]
    rfl
  . split
    . have : leading 1 c.toNat < 0x20 := by simp only [leading]; omega
      simp only [List.cons_append, decodeHead, List.length_cons, length_continuation]
      rw [hlead (by omega), if_neg (by omega), if_neg (by omega), if_pos (by omega),
        Nat.add_sub_cancel,
        htail (by omega)]
      rfl
    . split
      . have : leading 2 c.toNat < 0x10 := by simp only [leading]; omega
        simp only [List.cons_append, decodeHead, List.length_cons, length_continuation]
        rw [hlead (by omega), if_neg (by omega), if_neg (by omega), if_neg (by omega),
          if_pos (by omega),
          Nat.add_sub_cancel, htail (by omega)]
        rfl
      . have : leading 3 c.toNat < 8 := by simp only [leading]; omega
        simp only [List.cons_append, decodeHead, List.length_cons, length_continuation]
        rw [hlead (by omega), if_neg (by omega), if_neg (by omega), if_neg (by omega),
          if_neg (by omega),
          if_pos (by omega), Nat.add_sub_cancel, htail (by omega)]
        rfl

theorem eq_append_of_decodeHead {c : Char} {n : Nat} (h : decodeHead t = some (c, n))
    : ∃ rest, t = String.utf8EncodeChar c ++ rest := by
  cases t with
  | nil => cases h
  | cons b t =>
    have hb := b.toNat_lt
    have hlead {k : Nat} (hk : b.toNat = k) : UInt8.ofNat k = b := by rw [← hk, UInt8.ofNat_toNat]
    rw [utf8EncodeChar_eq]
    simp only [decodeHead] at h
    split at h
    . simp only [Option.some.injEq, Prod.mk.injEq] at h
      have hcode : c.toNat = b.toNat := by rw [← h.1, toNat_ofNat (by simp [isScalar]; omega)]
      rw [if_pos (by omega), hlead hcode.symm]
      exact ⟨t, rfl⟩
    . split at h
      . cases h
      . split at h
        . simp only [Option.map_eq_some_iff, Prod.mk.injEq, decodeTail_eq_some_iff] at h
          obtain ⟨_, ⟨hleast, hvalue, rest, rfl⟩, rfl, -⟩ := h
          have hcode := hvalue
          simp only [leading] at hcode
          rw [if_neg (by omega), if_pos (by omega), hlead (by omega)]
          exact ⟨rest, rfl⟩
        . split at h
          . simp only [Option.map_eq_some_iff, Prod.mk.injEq, decodeTail_eq_some_iff] at h
            obtain ⟨_, ⟨hleast, hvalue, rest, rfl⟩, rfl, -⟩ := h
            have hcode := hvalue
            simp only [leading] at hcode
            rw [if_neg (by omega), if_neg (by omega), if_pos (by omega), hlead (by omega)]
            exact ⟨rest, rfl⟩
          . split at h
            . simp only [Option.map_eq_some_iff, Prod.mk.injEq, decodeTail_eq_some_iff] at h
              obtain ⟨_, ⟨hleast, hvalue, rest, rfl⟩, rfl, -⟩ := h
              rw [if_neg (by omega), if_neg (by omega), if_neg (by omega), hlead (by omega)]
              exact ⟨rest, rfl⟩
            . cases h

theorem eq_false_of_all {p : Char → Bool} (h : cs.all (!p ·) = true)
    : ∀ c ∈ cs, p c = false := by
  intro c hc
  simpa using List.all_eq_true.mp h c hc

theorem ofChars_nil : ofChars [] = [] := rfl

theorem ofChars_cons (c : Char) (cs : List Char)
    : ofChars (c :: cs) = String.utf8EncodeChar c ++ ofChars cs := rfl

theorem ofChars_append (cs ds : List Char) : ofChars (cs ++ ds) = ofChars cs ++ ofChars ds := by
  simp [ofChars]

theorem units.go_skip (t u : Text) : units.go (t ++ u) t.length = units.go u 0 := by
  induction t with
  | nil => rfl
  | cons b t ih => exact ih

theorem units_ofChars_append (cs : List Char) (t : Text)
    : units (ofChars cs ++ t) = cs.map .char ++ units t := by
  induction cs with
  | nil => rfl
  | cons c cs ih =>
    have hhead := decodeHead_utf8EncodeChar c (ofChars cs ++ t)
    obtain ⟨b, bytes, hbytes⟩ : ∃ b bytes, String.utf8EncodeChar c = b :: bytes :=
      List.exists_cons_of_ne_nil String.utf8EncodeChar_ne_nil
    rw [hbytes] at hhead
    rw [ofChars_cons, hbytes, List.append_assoc, units, List.cons_append, units.go]
    rw [List.cons_append] at hhead
    rw [hhead]
    simp only [List.length_cons, Nat.add_sub_cancel, List.map_cons, List.cons_append]
    rw [units.go_skip]
    exact congrArg (Unit8.char c :: ·) ih

@[simp]
theorem toChars_nil : toChars [] = [] := rfl

theorem toChars_ofChars_append (cs : List Char) (t : Text)
    : toChars (ofChars cs ++ t) = cs ++ toChars t := by
  rw [toChars, units_ofChars_append]
  simp [toChars, Unit8.toChar, Function.comp_def]

@[simp]
theorem toChars_ofChars (cs : List Char) : toChars (ofChars cs) = cs := by
  have := toChars_ofChars_append cs []
  rwa [List.append_nil, toChars_nil, List.append_nil] at this

theorem ofChars_toChars (h : isUtf8 t = true) : ofChars (toChars t) = t := by
  induction hn : t.length using Nat.strong_induction_on generalizing t with
  | _ n ih =>
    subst hn
    cases t with
    | nil => rfl
    | cons b t =>
      cases hhead : decodeHead (b :: t) with
      | none => simp [isUtf8, units, units.go, hhead] at h
      | some p =>
        obtain ⟨c, n⟩ := p
        obtain ⟨rest, heq⟩ := eq_append_of_decodeHead hhead
        have hunits := units_ofChars_append [c] rest
        simp only [ofChars_cons, ofChars_nil, List.append_nil] at hunits
        have hpos : 0 < (String.utf8EncodeChar c).length :=
          List.length_pos_iff.mpr String.utf8EncodeChar_ne_nil
        rw [heq] at h ⊢
        have hrest : isUtf8 rest = true := by simpa [isUtf8, hunits] using h
        rw [toChars, hunits, List.map_append, ← toChars, List.map_cons, List.map_nil, List.map_cons,
          List.map_nil,
          List.singleton_append, ofChars_cons, ih rest.length ?_ hrest rfl]
        . rfl
        . have := congrArg List.length heq
          rw [List.length_append] at this
          omega

theorem isUtf8_ofChars_append (cs : List Char) (t : Text)
    : isUtf8 (ofChars cs ++ t) = isUtf8 t := by
  simp [isUtf8, units_ofChars_append]

theorem isUtf8_ofChars (cs : List Char) : isUtf8 (ofChars cs) = true := by
  have := isUtf8_ofChars_append cs []
  rwa [List.append_nil] at this

theorem isUtf8_append (h : isUtf8 t = true) (u : Text) : isUtf8 (t ++ u) = isUtf8 u := by
  have := isUtf8_ofChars_append (toChars t) u
  rwa [ofChars_toChars h] at this

theorem toChars_append (h : isUtf8 t = true) (u : Text)
    : toChars (t ++ u) = toChars t ++ toChars u := by
  have := toChars_ofChars_append (toChars t) u
  rwa [ofChars_toChars h] at this

theorem le_of_mem_continuation {n v : Nat} {b : UInt8} (h : b ∈ continuation n v)
    : 128 ≤ b.toNat := by
  induction n with
  | zero => cases h
  | succ n ih =>
    rw [continuation, List.mem_cons] at h
    obtain h | h := h
    . rw [eq_ofNat_iff (by omega)] at h
      omega
    . exact ih h

theorem eq_of_mem_utf8EncodeChar {c : Char} {b : UInt8} (hb : b.toNat < 128)
    (h : b ∈ String.utf8EncodeChar c)
    : String.utf8EncodeChar c = [b] ∧ c = Char.ofNat b.toNat := by
  have hscalar := isScalar_toNat c
  simp only [isScalar, Bool.or_eq_true, Bool.and_eq_true, decide_eq_true_eq] at hscalar
  have hlead {k n : Nat} (hk : 128 ≤ k) (hk' : k < 256) : ¬ b ∈
    UInt8.ofNat k :: continuation n c.toNat := by
    rw [List.mem_cons, eq_ofNat_iff hk']
    rintro (h | h)
    . omega
    . have := le_of_mem_continuation h
      omega
  rw [utf8EncodeChar_eq] at h ⊢
  split at h
  . next hascii =>
    obtain rfl := List.mem_singleton.mp h
    rw [if_pos hascii, (eq_ofNat_iff (by omega)).mp rfl, Char.ofNat_toNat]
    exact ⟨rfl, rfl⟩
  . exfalso
    split at h
    . exact hlead (by omega) (by simp only [leading]; omega) h
    . split at h
      . exact hlead (by omega) (by simp only [leading]; omega) h
      . exact hlead (by omega) (by simp only [leading]; omega) h

variable {b : UInt8} {ts : List Text}

theorem exists_of_ofChars_eq_append (h : ofChars cs = ofChars ds ++ t)
    : ∃ es, cs = ds ++ es ∧ t = ofChars es := by
  have hutf8 : isUtf8 t = true := by rw [← isUtf8_ofChars_append ds, ← h, isUtf8_ofChars]
  refine ⟨toChars t, ?_, (ofChars_toChars hutf8).symm⟩
  rw [← toChars_ofChars_append, ← h, toChars_ofChars]

theorem exists_of_ofChars_eq_append_cons (hb : b.toNat < 128) (h : ofChars cs = t ++ b :: u)
    : ∃ ds es, cs = ds ++ Char.ofNat b.toNat :: es ∧ t = ofChars ds ∧ u = ofChars es := by
  induction cs generalizing t with
  | nil => simp [ofChars] at h
  | cons c cs ih =>
    rw [ofChars_cons] at h
    obtain ⟨v, rfl, hrest⟩ | ⟨v, hencode, hrest⟩ := List.append_eq_append_iff.mp h
    . obtain ⟨ds, es, rfl, rfl, rfl⟩ := ih hrest
      exact ⟨c :: ds, es, rfl, rfl, rfl⟩
    . cases v with
      | nil =>
        obtain ⟨ds, es, rfl, hds, rfl⟩ := ih (t := []) hrest.symm
        rw [List.append_nil] at hencode
        exact ⟨c :: ds, es, rfl, by rw [ofChars_cons, ← hds, List.append_nil, hencode], rfl⟩
      | cons b' v =>
        obtain ⟨rfl, rfl⟩ := List.cons.inj hrest
        have hmem : b ∈ String.utf8EncodeChar c :=
          hencode ▸ List.mem_append_right t List.mem_cons_self
        obtain ⟨hbyte, rfl⟩ := eq_of_mem_utf8EncodeChar hb hmem
        rw [hbyte, eq_comm, List.append_eq_singleton_iff] at hencode
        obtain ⟨rfl, hv⟩ | ⟨-, hv⟩ := hencode
        . rw [(List.cons.inj hv).2]
          exact ⟨[], cs, rfl, rfl, rfl⟩
        . cases hv

theorem ofChars_intercalate (ds : List Char) (ps : List (List Char))
    : ofChars (List.intercalate ds ps) = List.intercalate (ofChars ds) (ps.map ofChars) := by
  induction ps with
  | nil => rfl
  | cons p ps ih =>
    cases ps with
    | nil => simp
    | cons q ps =>
      rw [List.intercalate_cons_cons, ofChars_append, ofChars_append, ih]
      simp only [List.map_cons, List.intercalate_cons_cons]

theorem exists_of_ofChars_eq_intercalate (hb : b.toNat < 128) (hts : ts ≠ [])
    (h : ofChars cs = List.intercalate [b] ts)
    : ∃ ps, cs = List.intercalate [Char.ofNat b.toNat] ps ∧ ts = ps.map ofChars := by
  induction ts generalizing cs with
  | nil => exact absurd rfl hts
  | cons t ts ih =>
    cases ts with
    | nil =>
      rw [List.intercalate_singleton] at h
      exact ⟨[cs], (List.intercalate_singleton).symm, by rw [List.map_singleton, h]⟩
    | cons u ts =>
      rw [List.intercalate_cons_cons, List.append_assoc, List.singleton_append] at h
      obtain ⟨ds, es, rfl, rfl, hes⟩ := exists_of_ofChars_eq_append_cons hb h
      obtain ⟨ps, rfl, hps⟩ := ih (List.cons_ne_nil u ts) hes.symm
      rw [hps]
      cases ps with
      | nil => cases hps
      | cons p ps => exact ⟨ds :: p :: ps, by rw [List.intercalate_cons_cons]; simp, rfl⟩

theorem charCount_ofChars (cs : List Char) : charCount (ofChars cs) = cs.length := by
  have := units_ofChars_append cs []
  rw [List.append_nil] at this
  rw [charCount, this]
  simp [units, units.go]

theorem decodeTail_append_cons (hb : b.toNat < 128) (least n value : Nat) (t u : Text)
    : decodeTail least n value (t ++ b :: u) = decodeTail least n value t := by
  induction n generalizing value t with
  | zero => rfl
  | succ n ih =>
    cases t with
    | nil =>
      have hcontinuation : ¬ (0x80 ≤ b && b < 0xC0) = true := by
        rw [isContinuation_iff]
        omega
      rw [List.nil_append, decodeTail, if_neg hcontinuation, decodeTail]
    | cons c t => rw [List.cons_append, decodeTail, decodeTail, ih]

theorem decodeHead_append_cons (hb : b.toNat < 128) (ht : t ≠ []) (u : Text)
    : decodeHead (t ++ b :: u) = decodeHead t := by
  obtain ⟨c, t, rfl⟩ := List.exists_cons_of_ne_nil ht
  simp only [List.cons_append, decodeHead, decodeTail_append_cons hb]

theorem decodeHead_of_ascii (hb : b.toNat < 128) (t : Text)
    : decodeHead (b :: t) = some (Char.ofNat b.toNat, 1) := by
  simp only [decodeHead, if_pos hb]

theorem le_length_of_decodeHead {c : Char} {n : Nat} (h : decodeHead t = some (c, n))
    : n ≤ t.length := by
  obtain ⟨rest, rfl⟩ := eq_append_of_decodeHead h
  rw [decodeHead_utf8EncodeChar] at h
  simp only [Option.some.injEq, Prod.mk.injEq, true_and] at h
  rw [← h, List.length_append]
  omega

theorem units_go_append_cons (hb : b.toNat < 128) (t u : Text) {k : Nat} (hk : k ≤ t.length)
    : units.go (t ++ b :: u) k = units.go t k ++ .char (Char.ofNat b.toNat) :: units.go u 0 := by
  induction t generalizing k with
  | nil =>
    obtain rfl : k = 0 := by simpa using hk
    rw [units.go, List.nil_append, units.go, decodeHead_of_ascii hb]
    rfl
  | cons c t ih =>
    cases k with
    | succ k => exact ih (by simpa using hk)
    | zero =>
      have hhead := decodeHead_append_cons hb (List.cons_ne_nil c t) u
      rw [List.cons_append] at hhead ⊢
      rw [units.go, units.go, hhead]
      cases hdecode : decodeHead (c :: t) with
      | none => exact congrArg (Unit8.stray c :: ·) (ih (Nat.zero_le _))
      | some p =>
        obtain ⟨d, n⟩ := p
        have hle := le_length_of_decodeHead hdecode
        rw [List.length_cons] at hle
        exact congrArg (Unit8.char d :: ·) (ih (by omega))

/-- A byte of ASCII is a character of its own, wherever it stands. -/
theorem charCount_append_cons (hb : b.toNat < 128) (t u : Text)
    : charCount (t ++ b :: u) = charCount t + 1 + charCount u := by
  rw [charCount, units, units_go_append_cons hb t u (Nat.zero_le _), List.length_append,
    List.length_cons]
  simp only [charCount, units]
  omega

end Text
end YamlOrder
