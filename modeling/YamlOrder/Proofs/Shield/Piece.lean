import YamlOrder.Proofs.Shield.Token

/-!
This module contains texts in which some pieces are hidden behind tokens, and the places where the
start of a token can be found in such a text: nowhere but where a piece is hidden.
-/

namespace YamlOrder

/-- A part of a text: it is written as it is, or a token stands for it. -/
inductive Piece where
  | plain (text : Text)
  | hidden (sub : Substitute)

namespace Piece

/-- What is written for a piece. -/
def shown : Piece → Text
  | .plain text => text
  | .hidden sub => sub.token

/-- What a piece stands for. -/
def meant : Piece → Text
  | .plain text => text
  | .hidden sub => sub.value

def shownText (ps : List Piece) : Text := ps.flatMap shown

def meantText (ps : List Piece) : Text := ps.flatMap meant

/-- The substitutes of the hidden pieces. -/
def subs : List Piece → List Substitute
  | [] => []
  | .plain _ :: rest => subs rest
  | .hidden sub :: rest => sub :: subs rest

/-- The text up to the next token. -/
def run : List Piece → Text
  | .plain text :: rest => text ++ run rest
  | _ => []

@[simp]
theorem shownText_nil : shownText [] = [] := rfl

@[simp]
theorem shownText_cons (p : Piece) (ps : List Piece)
    : shownText (p :: ps) = p.shown ++ shownText ps := rfl

@[simp]
theorem shownText_append (ps qs : List Piece)
    : shownText (ps ++ qs) = shownText ps ++ shownText qs := by
  simp [shownText]

@[simp]
theorem meantText_nil : meantText [] = [] := rfl

@[simp]
theorem meantText_cons (p : Piece) (ps : List Piece)
    : meantText (p :: ps) = p.meant ++ meantText ps := rfl

@[simp]
theorem subs_append (ps qs : List Piece) : subs (ps ++ qs) = subs ps ++ subs qs := by
  induction ps with
  | nil => rfl
  | cons p ps ih =>
    cases p
    all_goals simp [subs, ih]

theorem mem_subs_cons {sub : Substitute} {ps : List Piece} (p : Piece) (h : sub ∈ subs ps)
    : sub ∈ subs (p :: ps) := by
  cases p with
  | plain text => exact h
  | hidden s => exact List.mem_cons_of_mem s h

theorem mem_subs_iff {sub : Substitute} {ps : List Piece}
    : sub ∈ subs ps ↔ Piece.hidden sub ∈ ps := by
  induction ps with
  | nil => simp [subs]
  | cons p ps ih =>
    cases p
    all_goals simp [subs, ih]

end Piece

namespace Text

/-- No end of `t` is a start of `t'`, and `t` does not reach beyond a `t'` that it runs into. -/
def Apart (t t' : Text) : Prop :=
  t.length ≤ t'.length + 1 ∧ ∀ k < t.length, 0 < k → ¬ t.drop k <+: t'

instance (t t' : Text) : Decidable (Apart t t') :=
  inferInstanceAs (Decidable (_ ∧ _))

theorem Apart.prefix_append {t t' u v : Text} (ht : Apart t t') (hu : u ≠ [])
    (hv : v = [] ∨ t' <+: v) (h : t <+: u ++ v)
    : t <+: u := by
  by_cases hlen : t.length ≤ u.length
  . exact List.prefix_of_prefix_length_le h (List.prefix_append _ _) hlen
  . -- the end of `t` that lies in `v` would be a start of `t'`
    exfalso
    obtain ⟨w, rfl⟩ : u <+: t := List.prefix_of_prefix_length_le (List.prefix_append _ _)
      h (by omega)
    have hpos := List.length_pos_iff.mpr hu
    have hshort := ht.1
    rw [List.length_append] at hlen hshort
    have hwv : w <+: v := (List.prefix_append_right_inj _).mp h
    apply ht.2 u.length (by simp; omega) hpos
    rw [List.drop_left]
    cases hv with
    | inl hnil =>
      rw [hnil, List.prefix_nil] at hwv
      rw [hwv]
      exact List.nil_prefix
    | inr htv => exact List.prefix_of_prefix_length_le hwv htv (by omega)

theorem Apart.infix_of_prefix_drop {t t' u v : Text} {j : Nat} (ht : Apart t t')
    (hj : j < u.length) (hv : v = [] ∨ t' <+: v) (h : t <+: (u ++ v).drop j)
    : t <:+: u := by
  rw [List.drop_append_of_le_length (by omega)] at h
  have hne : u.drop j ≠ [] := by simpa using hj
  exact (ht.prefix_append hne hv h).isInfix.trans (List.drop_suffix j u).isInfix

end Text

namespace Substitution

variable {kind : Text}

/-- The bytes that tokens of a kind are made of. -/
def IsTokenByte (kind : Text) (b : UInt8) : Prop := b ∈ tokenStart kind ∨ Text.isDigit b

instance (kind : Text) (b : UInt8) : Decidable (IsTokenByte kind b) :=
  inferInstanceAs (Decidable (_ ∨ _))

theorem isTokenByte_of_mem_token {n : Nat} {b : UInt8} (h : b ∈ token kind n)
    : IsTokenByte kind b := by
  rw [token, List.mem_append] at h
  exact h.imp_right Text.isDigit_of_mem_ofNat

theorem head?_tokenStart : (tokenStart kind).head? = some 121 := rfl

theorem isDigit_of_getElem?_token {n j : Nat} {b : UInt8} (hj : (tokenStart kind).length ≤ j)
    (h : (token kind n)[j]? = some b)
    : Text.isDigit b := by
  rw [token, List.getElem?_append_right hj] at h
  exact Text.isDigit_of_mem_ofNat (List.mem_of_getElem? h)

theorem not_prefix_of_head?_eq {n : Nat} {u v : Text} (hu : (tokenStart kind).length ≤ u.length)
    (hlen : u.length < (token kind n).length) (hv : v.head? = some 121)
    : ¬ token kind n <+: u ++ v := by
  intro h
  have hhead : (u ++ v)[u.length]? = some 121 := by
    rw [List.getElem?_append_right (Nat.le_refl _), Nat.sub_self, ← List.head?_eq_getElem?, hv]
  have hget : (token kind n)[u.length]? = some 121 := by
    obtain ⟨w, hw⟩ := h
    rw [← hw, List.getElem?_append_left hlen] at hhead
    exact hhead
  have := isDigit_of_getElem?_token hu hget
  revert this
  decide

theorem not_prefix_of_tokenStart_prefix {n : Nat} {u v : Text}
    (hu : (tokenStart kind).length ≤ u.length) (hlen : u.length < (token kind n).length)
    (hv : tokenStart kind <+: v)
    : ¬ token kind n <+: u ++ v := by
  apply not_prefix_of_head?_eq hu hlen
  obtain ⟨w, rfl⟩ := hv
  rw [List.head?_append, head?_tokenStart, Option.some_or]

theorem not_prefix_drop_token {n j : Nat} {rest : Text}
    (hkind : Text.Apart (tokenStart kind) (tokenStart kind)) (h0 : 0 < j)
    (hj : j < (token kind n).length)
    : ¬ tokenStart kind <+: (token kind n ++ rest).drop j := by
  intro h
  by_cases hlt : j < (tokenStart kind).length
  . apply hkind.2 j hlt h0
    have hstart : (tokenStart kind).drop j <+: (token kind n ++ rest).drop j :=
      ((tokenStart_prefix_token n).trans (List.prefix_append _ _)).drop j
    exact List.prefix_of_prefix_length_le hstart h (by simp)
  . -- a token does not start with a digit
    obtain ⟨t, ht⟩ := h
    have hhead := congrArg List.head? ht
    rw [List.head?_drop, List.getElem?_append_left hj, List.head?_append, head?_tokenStart,
      Option.some_or] at hhead
    have := isDigit_of_getElem?_token (by omega) hhead.symm
    revert this
    decide

/-- A text that begins and ends with bytes that no token of the kind holds. -/
structure Fenced (kind v : Text) : Prop where
  head : ∃ b w, v = b :: w ∧ ¬ IsTokenByte kind b
  last : ∃ w b, v = w ++ [b] ∧ ¬ IsTokenByte kind b

theorem Fenced.infix_append {p u v w : Text} (hv : Fenced kind v)
    (hp : ∀ b ∈ p, IsTokenByte kind b) (h : p <:+: u ++ (v ++ w))
    : p <:+: u ∨ p <:+: v ∨ p <:+: w := by
  obtain ⟨b, v', hhead, hb⟩ := hv.head
  obtain ⟨v'', c, hlast, hc⟩ := hv.last
  have hb := fun hmem => hb (hp b hmem)
  have hc := fun hmem => hc (hp c hmem)
  have hsplit : p <:+: u ∨ p <:+: v' ++ w := by
    rw [hhead, List.cons_append] at h
    exact Text.infix_append_cons_of_not_mem hb h
  cases hsplit with
  | inl h => exact .inl h
  | inr h =>
    have : p <:+: v'' ++ c :: w := by
      have hvw : v ++ w = v'' ++ c :: w := by rw [hlast]; simp
      rw [← hvw, hhead]
      exact h.trans (List.suffix_cons b _).isInfix
    cases Text.infix_append_cons_of_not_mem hc this with
    | inl h =>
      have hpre : v'' <+: v := by rw [hlast]; exact List.prefix_append _ _
      exact .inr (.inl (h.trans hpre.isInfix))
    | inr h => exact .inr (.inr h)

/-- A prefix of token bytes does not reach into a fenced text. -/
theorem Fenced.prefix_append {p u v w : Text} (hv : Fenced kind v)
    (hp : ∀ b ∈ p, IsTokenByte kind b) (h : p <+: u ++ (v ++ w))
    : p <+: u := by
  obtain ⟨b, v', rfl, hb⟩ := hv.head
  exact Text.prefix_of_prefix_append_cons (fun hmem => hb (hp b hmem)) h

end Substitution
end YamlOrder
