import Mathlib.Data.List.TakeWhile
import YamlOrder.Proofs.Text.Numeral
import YamlOrder.Proofs.Tree.Styled

/-!
This module contains how the schemas relate to each other: what is more than a string to a narrower
one is the same to a wider one. So the narrower a schema is, the more scalars are quoted.
-/

namespace YamlOrder

open Yaml
open Text (isDigit)

namespace Schema

variable {t u rest whole : Text} {b : UInt8}

/--
What can follow the digits that a decimal number starts with: nothing, a point or an exponent.
-/
inductive AfterWhole : Text → Prop where
  | nothing : AfterWhole []
  | fraction {digits : Text} (h : (Number.exponent? (digits.dropWhile isDigit)).isSome = true)
    : AfterWhole (46 :: digits)
  | exponent {e : UInt8} {digits : Text} (he : e = 101 ∨ e = 69)
    (h : (Number.exponent? (e :: digits)).isSome = true) : AfterWhole (e :: digits)

/-- The parts of a decimal number without a sign. -/
structure IsDecimal (whole rest : Text) : Prop where
  nonempty : whole ≠ []
  digits : ∀ b ∈ whole, isDigit b = true
  after : AfterWhole rest

theorem AfterWhole.head (h : AfterWhole (b :: rest)) : b = 46 ∨ b = 101 ∨ b = 69 := by
  cases h with
  | fraction _ => exact .inl rfl
  | exponent he _ => exact .inr he

theorem AfterWhole.not_isDigit (h : AfterWhole (b :: rest)) : isDigit b = false := by
  obtain rfl | rfl | rfl := h.head
  all_goals decide

theorem afterWhole_of_exponent? (h : (Number.exponent? rest).isSome = true) : AfterWhole rest := by
  cases rest with
  | nil => exact .nothing
  | cons e digits =>
    refine .exponent ?_ h
    rw [Number.exponent?] at h
    split at h
    . next he => simpa using he
    . cases h

theorem exists_whole_of_afterJsonInt? (h : afterJsonInt? u = some rest)
    : ∃ whole, u = whole ++ rest ∧ whole ≠ [] ∧ ∀ b ∈ whole, isDigit b = true := by
  unfold afterJsonInt? at h
  split at h
  . next rest' =>
    cases h
    exact ⟨[48], rfl, by simp, List.forall_mem_singleton.mpr rfl⟩
  . next b digits hb =>
    split at h
    . next hrange =>
      cases h
      refine ⟨b :: digits.takeWhile isDigit, ?_, by simp, ?_⟩
      . rw [List.cons_append, List.takeWhile_append_dropWhile]
      . rw [List.forall_mem_cons]
        refine ⟨?_, fun c hc => List.mem_takeWhile_imp hc⟩
        simp only [isDigit, Bool.and_eq_true, decide_eq_true_eq, UInt8.le_iff_toNat_le] at hrange ⊢
        have h49 : (49 : UInt8).toNat = 49 := rfl
        have h48 : (48 : UInt8).toNat = 48 := rfl
        omega
    . cases h
  . cases h

theorem isJsonFloat_parts (h : isJsonFloat t = true)
    : ∃ whole rest, dropMinus t = whole ++ rest ∧ IsDecimal whole rest ∧
      (isJsonInt t = true ↔ rest = []) := by
  unfold isJsonFloat at h
  unfold isJsonInt
  cases hwhole : afterJsonInt? (dropMinus t) with
  | none => simp [hwhole] at h
  | some rest =>
    rw [hwhole] at h
    obtain ⟨whole, hparts, hne, hdigits⟩ := exists_whole_of_afterJsonInt? hwhole
    refine ⟨whole, rest, hparts, ⟨hne, hdigits, ?_⟩, by simp⟩
    split at h
    . cases h
    . next heq =>
      cases heq
      dsimp only at h
      split at h
      . exact .fraction h
      . exact afterWhole_of_exponent? h

theorem isJsonFloat_of_isJsonInt (h : isJsonInt t = true) : isJsonFloat t = true := by
  rw [isJsonInt, beq_iff_eq] at h
  rw [isJsonFloat, h]
  rfl

namespace IsDecimal

variable (h : IsDecimal whole rest)
include h

theorem exists_head : ∃ b ∈ (whole ++ rest).head?, isDigit b = true := by
  obtain ⟨b, digits, rfl⟩ := List.exists_cons_of_ne_nil h.nonempty
  exact ⟨b, rfl, h.digits b List.mem_cons_self⟩

theorem takeWhile_eq : (whole ++ rest).takeWhile isDigit = whole ∧
    (whole ++ rest).dropWhile isDigit = rest := by
  have hrest : rest.takeWhile isDigit = [] ∧ rest.dropWhile isDigit = rest := by
    cases rest with
    | nil => exact ⟨rfl, rfl⟩
    | cons b rest =>
      have hb := h.after.not_isDigit
      exact ⟨List.takeWhile_cons_of_neg (by simp [hb]), List.dropWhile_cons_of_neg (by simp [hb])⟩
  rw [List.takeWhile_append_of_pos h.digits, List.dropWhile_append_of_pos h.digits, hrest.1,
    hrest.2, List.append_nil]
  exact ⟨rfl, rfl⟩

theorem isSome_decimal? : (Number.decimal? (whole ++ rest)).isSome = true := by
  have hempty : whole.isEmpty = false := by simpa using h.nonempty
  rw [Number.decimal?, h.takeWhile_eq.1, h.takeWhile_eq.2, hempty]
  cases h.after with
  | nothing => rfl
  | fraction hexp => simpa using hexp
  | exponent he hexp =>
    obtain rfl | rfl := he
    all_goals simpa using hexp

theorem isSome_digits?_iff : (Text.digits? (whole ++ rest)).isSome = true ↔ rest = [] := by
  have hsome : (Text.digits? (whole ++ rest)).isSome =
    (!(whole ++ rest).isEmpty && (whole ++ rest).all isDigit) := by
    unfold Text.digits?
    split
    . next hall => exact hall.symm
    . next hall => exact (Bool.not_eq_true _ ▸ hall).symm
  rw [hsome]
  constructor
  . intro hall
    cases rest with
    | nil => rfl
    | cons b rest =>
      have hb := h.after.not_isDigit
      simp [hb] at hall
  . rintro rfl
    simpa [h.nonempty] using h.digits

theorem second {c : UInt8} {ds : Text} (heq : whole ++ rest = b :: c :: ds)
    : isDigit c = true ∨ c = 46 ∨ c = 101 ∨ c = 69 := by
  obtain ⟨d, whole, rfl⟩ := List.exists_cons_of_ne_nil h.nonempty
  rw [List.cons_append, List.cons.injEq] at heq
  cases whole with
  | nil =>
    obtain rfl : rest = c :: ds := heq.2
    exact .inr h.after.head
  | cons e whole =>
    cases heq.2
    exact .inl (h.digits c (by simp))

end IsDecimal

theorem dropMinus_cases (t : Text) : (∃ u, t = 45 :: u ∧ dropMinus t = u) ∨ dropMinus t = t := by
  unfold dropMinus
  split
  . exact .inl ⟨_, rfl, rfl⟩
  . exact .inr rfl

section Parts

variable (hparts : dropMinus t = whole ++ rest) (h : IsDecimal whole rest)
include hparts h

theorem splitSign_of_parts : (Text.splitSign t).2 = whole ++ rest := by
  obtain ⟨u, rfl, hu⟩ | hself := dropMinus_cases t
  . rw [← hparts, hu]
    rfl
  . obtain ⟨b, hb, hdigit⟩ := h.exists_head
    obtain ⟨u, hu⟩ := List.head?_eq_some_iff.mp hb
    rw [← hself, hparts, hu, Text.splitSign_of_isDigit hdigit]

theorem exists_head_of_parts : ∃ b ∈ t.head?, (b == 45 || isDigit b) = true := by
  obtain ⟨u, rfl, -⟩ | hself := dropMinus_cases t
  . exact ⟨45, rfl, rfl⟩
  . obtain ⟨b, hb, hdigit⟩ := h.exists_head
    rw [← hself, hparts]
    exact ⟨b, hb, by rw [hdigit, Bool.or_true]⟩

theorem not_contains {words : List Text}
    (hwords : ∀ w ∈ words, w.head?.any (fun b => b == 45 || isDigit b) = false)
    : words.contains t = false := by
  obtain ⟨b, hb, hnumber⟩ := exists_head_of_parts hparts h
  rw [List.contains_eq_mem, decide_eq_false_iff_not]
  intro hmem
  have := hwords t hmem
  rw [hb, Option.any_some, hnumber] at this
  cases this

theorem isCoreInt_iff : isCoreInt t = true ↔ rest = [] := by
  have hbase {c : UInt8} {ds : Text} (hc : c = 111 ∨ c = 120) : t ≠ 48 :: c :: ds := by
    rintro rfl
    have hsecond := h.second hparts.symm
    obtain rfl | rfl := hc
    all_goals exact absurd hsecond (by decide)
  unfold isCoreInt
  -- the digits decide, since the cases of another base are impossible
  rw [splitSign_of_parts hparts h, ← h.isSome_digits?_iff, Bool.or_eq_true, or_iff_left]
  split
  . exact absurd rfl (hbase (.inl rfl))
  . exact absurd rfl (hbase (.inr rfl))
  . exact Bool.false_ne_true

theorem isCoreFloat_of_parts : isCoreFloat t = true := by
  rw [isCoreFloat, Number.isDecimal, splitSign_of_parts hparts h, h.isSome_decimal?]
  rfl

theorem resolveCore_of_parts : resolveCore t = if rest = [] then Tag.int else Tag.float := by
  have hempty : t.isEmpty = false := by
    obtain ⟨b, hb, -⟩ := exists_head_of_parts hparts h
    obtain ⟨u, rfl⟩ := List.head?_eq_some_iff.mp hb
    rfl
  rw [resolveCore, hempty, not_contains hparts h (by decide), not_contains hparts h (by decide),
    isCoreFloat_of_parts hparts h]
  by_cases hrest : rest = []
  . rw [(isCoreInt_iff hparts h).mpr hrest, if_pos hrest]
    rfl
  . rw [Bool.eq_false_iff.mpr fun hint => hrest ((isCoreInt_iff hparts h).mp hint), if_neg hrest]
    rfl

end Parts

theorem resolveCore_of_resolveJson (h : resolveJson t ≠ Tag.str)
    : resolveCore t = resolveJson t := by
  unfold resolveJson at h ⊢
  split_ifs at h ⊢ with hnull hbool hint hfloat
  . rw [eq_of_beq hnull]
    decide
  . rw [Bool.or_eq_true, beq_iff_eq, beq_iff_eq] at hbool
    obtain rfl | rfl := hbool
    all_goals decide
  . obtain ⟨whole, rest, hparts, hdecimal, hrest⟩ :=
      isJsonFloat_parts (isJsonFloat_of_isJsonInt hint)
    rw [resolveCore_of_parts hparts hdecimal, if_pos (hrest.mp hint)]
  . obtain ⟨whole, rest, hparts, hdecimal, hrest⟩ := isJsonFloat_parts hfloat
    rw [resolveCore_of_parts hparts hdecimal, if_neg fun h => hint (hrest.mpr h)]
  . exact absurd rfl h

/-- The second schema is narrower: what is a string to the first is one to it too. -/
def KeepsStrings (s s' : Schema) : Prop :=
  ∀ i value, s.resolve i value .plain = Tag.str → s'.resolve i value .plain = Tag.str

theorem keepsStrings_core_json : KeepsStrings .core .json := by
  intro i value hstr
  cases htagged : i.tagged with
  | true => simpa [resolve, htagged] using hstr
  | false =>
    simp only [resolve, htagged] at hstr ⊢
    by_contra hjson
    exact hjson (resolveCore_of_resolveJson hjson ▸ hstr)

theorem keepsStrings_json_failsafe : KeepsStrings .json .failsafe := by
  intro i value hstr
  cases htagged : i.tagged with
  | true => simpa [resolve, htagged] using hstr
  | false => simp [resolve, htagged]

end Schema

namespace Tree

variable {s s' : Schema} {o : StyleOptions} {isKey : Bool} {i : NodeInfo} {value : Text}
  {style : ScalarStyle}

def IsQuoted (style : ScalarStyle) : Prop := style = .singleQuoted ∨ style = .doubleQuoted

theorem restyle_of_isQuoted (h : s.KeepsStrings s')
    (hquoted : IsQuoted (restyle s o isKey i value style))
    : restyle s' o isKey i value style = restyle s o isKey i value style := by
  obtain rfl | hstyle | hstyle := style_cases style
  . obtain hplain | ⟨⟨hkey, hfree, hstr⟩, -⟩ := restyle_plain s o isKey i value
    . rw [hplain] at hquoted
      obtain h | h := hquoted
      all_goals cases h
    . simp only [restyle, hkey, hfree, hstr, h i value hstr]
  . rw [restyle_quoted hstyle, restyle_quoted hstyle]
  . rw [restyle_block hstyle, restyle_block hstyle]

theorem restyled_applyStyles (h : s.KeepsStrings s') (o : StyleOptions) (t : Yaml.Tree)
    : Restyled (fun _ _ _ style style' => IsQuoted style → style' = style) false
      (applyStyles s o t).root
        (applyStyles s' o t).root :=
  (restyling_styleNode s o).restyled (restyling_styleNode s' o)
  (fun _ _ _ _ => restyle_of_isQuoted h) false t.root

/--
The schemas are nested. What is more than a string to the JSON schema has the same tag in the core
schema, and to the failsafe schema everything is a string. So a scalar that is quoted for the core
schema is quoted for the JSON schema, and one that is quoted for the JSON schema is quoted for the
failsafe schema.
-/
theorem schemas_nested
    : (∀ i value, i.tagged = false →
          (Schema.json.resolve i value .plain ≠ Tag.str →
            Schema.core.resolve i value .plain = Schema.json.resolve i value .plain) ∧
          Schema.failsafe.resolve i value .plain = Tag.str) ∧
        ∀ o t,
          Restyled (fun _ _ _ style style' => IsQuoted style → style' = style) false
          (applyStyles .core o t).root
            (applyStyles .json o t).root ∧
          Restyled (fun _ _ _ style style' => IsQuoted style → style' = style) false
          (applyStyles .json o t).root
            (applyStyles .failsafe o t).root := by
  refine ⟨fun i value htagged => ?_, fun o t => ⟨?_, ?_⟩⟩
  . simp only [Schema.resolve, htagged]
    exact ⟨Schema.resolveCore_of_resolveJson, rfl⟩
  . exact restyled_applyStyles Schema.keepsStrings_core_json o t
  . exact restyled_applyStyles Schema.keepsStrings_json_failsafe o t

/--
A number of the JSON schema, and a word that is quoted for the core schema and so for the others.
-/
theorem schemas_nested_forced
    : Schema.core.resolve {} "-1.5e+3" .plain = Tag.float ∧
      Schema.failsafe.resolve {} "-1.5e+3" .plain = Tag.str ∧
        (applyStyles .core ⟨.single, 80, true⟩ ⟨.scalar {} "word" .plain, 1, 1, [], []⟩).root =
          .scalar {} "word" .singleQuoted ∧
        (applyStyles .json ⟨.single, 80, true⟩ ⟨.scalar {} "word" .plain, 1, 1, [], []⟩).root =
          .scalar {} "word" .singleQuoted ∧
        (applyStyles .failsafe ⟨.single, 80, true⟩ ⟨.scalar {} "word" .plain, 1, 1, [], []⟩).root =
          .scalar {} "word" .singleQuoted := by
  obtain ⟨hresolve, hstyles⟩ := schemas_nested
  obtain ⟨hsame, hfailsafe⟩ := hresolve {} "-1.5e+3" rfl
  obtain ⟨hjson, hstr⟩ := hstyles ⟨.single, 80, true⟩ ⟨.scalar {} "word" .plain, 1, 1, [], []⟩
  have hcore : restyle .core ⟨.single, 80, true⟩ false {} "word" .plain = .singleQuoted := by decide
  simp only [applyStyles, styleNode, hcore, true_and] at hjson hstr ⊢
  refine ⟨(hsame (by decide)).trans (by decide), hfailsafe, ?_⟩
  cases hjson with
  | scalar hjson =>
    rw [hjson (.inl rfl)] at hstr ⊢
    cases hstr with
    | scalar hstr =>
      rw [hstr (.inl rfl)]
      exact ⟨rfl, rfl⟩

end Tree
end YamlOrder
