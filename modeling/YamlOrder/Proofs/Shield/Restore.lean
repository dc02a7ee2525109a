import YamlOrder.Proofs.Shield.Piece

/-!
This module contains the theory of restoring a text: wherever the tokens stand, each of them is
found and replaced by what it hides, as long as no token can be mistaken for another one.
-/

namespace YamlOrder
namespace Piece

/--
No token can be mistaken: the start of a token occurs only where a piece is hidden, and what follows
a token does not turn it into a longer token of the store.
-/
def Clear (kind : Text) (store : List Substitute) : List Piece → Prop
  | [] => True
  | .plain _ :: rest => Clear kind store rest
  | .hidden sub :: rest =>
    (∃ n, sub.token = Substitution.token kind n) ∧
    (∀ t ∈ store, sub.token.length < t.token.length → ¬ t.token <+: sub.token ++ shownText rest) ∧
    ¬ Substitution.tokenStart kind <:+: run rest ∧
    Clear kind store rest

/-- Write what a substitute hides in place of its token. -/
def reveal (sub : Substitute) : List Piece → List Piece
  | [] => []
  | .plain text :: rest => .plain text :: reveal sub rest
  | .hidden s :: rest => (if s = sub then .plain s.value else .hidden s) :: reveal sub rest

variable {kind : Text} {store : List Substitute} {ps : List Piece}

theorem Clear.numbered (h : Clear kind store ps)
    : ∀ t ∈ subs ps, ∃ n, t.token = Substitution.token kind n := by
  induction ps with
  | nil => simp [subs]
  | cons p ps ih =>
    cases p with
    | plain text => exact ih h
    | hidden sub =>
      simp only [subs, List.mem_cons, forall_eq_or_imp]
      exact ⟨h.1, ih h.2.2.2⟩

theorem clear_of (h : ∀ pre sub post, ps = pre ++ .hidden sub :: post →
      (∃ n, sub.token = Substitution.token kind n) ∧
      (∀ t ∈ store, sub.token.length < t.token.length → ¬ t.token <+: sub.token ++ shownText post) ∧
      ¬ Substitution.tokenStart kind <:+: run post)
    : Clear kind store ps := by
  induction ps with
  | nil => trivial
  | cons p ps ih =>
    have ih := ih fun pre sub post hps => h (p :: pre) sub post (by simp [hps])
    cases p with
    | plain text => exact ih
    | hidden sub =>
      obtain ⟨htoken, hlong, hrun⟩ := h [] sub ps rfl
      exact ⟨htoken, hlong, hrun, ih⟩

theorem shownText_eq_run_append (h : ∀ t ∈ subs ps, ∃ n, t.token = Substitution.token kind n)
    : ∃ rest, shownText ps = run ps ++ rest ∧
      (rest = [] ∨ Substitution.tokenStart kind <+: rest) := by
  induction ps with
  | nil => exact ⟨[], rfl, .inl rfl⟩
  | cons p ps ih =>
    cases p with
    | plain text =>
      obtain ⟨rest, hrest, hstart⟩ := ih h
      exact ⟨rest, by simp [run, shown, hrest], hstart⟩
    | hidden sub =>
      obtain ⟨n, hn⟩ := h sub (by simp [subs])
      refine ⟨sub.token ++ shownText ps, rfl, .inr ?_⟩
      rw [hn]
      exact (Substitution.tokenStart_prefix_token n).trans (List.prefix_append _ _)

theorem Clear.append_right {qs : List Piece} (h : Clear kind store (ps ++ qs))
    : Clear kind store qs := by
  induction ps with
  | nil => exact h
  | cons p ps ih =>
    cases p with
    | plain text => exact ih h
    | hidden sub => exact ih h.2.2.2

theorem exists_hidden_of_prefix_drop {j : Nat}
    (hkind : Text.Apart (Substitution.tokenStart kind) (Substitution.tokenStart kind))
    (hclear : Clear kind store ps) (hrun : ¬ Substitution.tokenStart kind <:+: run ps)
    (h : Substitution.tokenStart kind <+: (shownText ps).drop j)
    : ∃ pre sub post, ps = pre ++ .hidden sub :: post ∧ j = (shownText pre).length := by
  induction ps generalizing j with
  | nil =>
    simp only [shownText_nil, List.drop_nil, List.prefix_nil] at h
    simp [Substitution.tokenStart, Substitution.namespaceWord] at h
  | cons p ps ih =>
    by_cases hj : p.shown.length ≤ j
    . rw [shownText_cons, List.drop_append, List.drop_eq_nil_of_le hj, List.nil_append] at h
      have hrest : Clear kind store ps ∧ ¬ Substitution.tokenStart kind <:+: run ps := by
        cases p with
        | plain text =>
          exact ⟨hclear, fun hi => hrun (hi.trans (List.suffix_append _ _).isInfix)⟩
        | hidden sub => exact ⟨hclear.2.2.2, hclear.2.2.1⟩
      obtain ⟨pre, sub, post, hps, hpre⟩ := ih hrest.1 hrest.2 h
      refine ⟨p :: pre, sub, post, by simp [hps], ?_⟩
      simp only [shownText_cons, List.length_append]
      omega
    . cases p with
      | plain text =>
        exfalso
        obtain ⟨rest, hshown, hstart⟩ := shownText_eq_run_append hclear.numbered
        rw [hshown] at h
        apply hrun
        refine hkind.infix_of_prefix_drop ?_ hstart h
        simp only [run, List.length_append]
        simp only [shown] at hj
        omega
      | hidden sub =>
        cases j with
        | zero => exact ⟨[], sub, ps, rfl, rfl⟩
        | succ j =>
          exfalso
          obtain ⟨n, hn⟩ := hclear.1
          simp only [shown, hn] at hj
          rw [shownText_cons, shown, hn] at h
          exact Substitution.not_prefix_drop_token hkind (Nat.succ_pos j) (by omega) h

theorem reveal_of_not_mem {sub : Substitute} (h : sub ∉ subs ps) : reveal sub ps = ps := by
  induction ps with
  | nil => rfl
  | cons p ps ih =>
    cases p with
    | plain text => simp [reveal, ih h]
    | hidden s =>
      simp only [subs, List.mem_cons, not_or] at h
      simp [reveal, ih h.2, Ne.symm h.1]

theorem reveal_append (sub : Substitute) (ps qs : List Piece)
    : reveal sub (ps ++ qs) = reveal sub ps ++ reveal sub qs := by
  induction ps with
  | nil => rfl
  | cons p ps ih =>
    cases p
    all_goals simp [reveal, ih]

theorem meantText_reveal (sub : Substitute) (ps : List Piece)
    : meantText (reveal sub ps) = meantText ps := by
  induction ps with
  | nil => rfl
  | cons p ps ih =>
    cases p with
    | plain text => simp [reveal, ih]
    | hidden s =>
      simp only [reveal, meantText_cons, ih]
      split
      all_goals rfl

theorem subs_reveal (sub : Substitute) (ps : List Piece)
    : subs (reveal sub ps) = (subs ps).filter (· ≠ sub) := by
  induction ps with
  | nil => rfl
  | cons p ps ih =>
    cases p with
    | plain text => simpa [reveal, subs] using ih
    | hidden s =>
      by_cases hs : s = sub
      . simpa [reveal, subs, hs] using ih
      . simpa [reveal, subs, hs] using ih

theorem reveal_eq {sub : Substitute} {pre post : List Piece}
    (hnodup : (subs (pre ++ .hidden sub :: post)).Nodup)
    : reveal sub (pre ++ .hidden sub :: post) = pre ++ .plain sub.value :: post := by
  simp only [subs_append, subs, List.nodup_append, List.nodup_cons] at hnodup
  have hpre : sub ∉ subs pre := fun h => hnodup.2.2 sub h sub (by simp) rfl
  simp [reveal_append, reveal, reveal_of_not_mem hpre, reveal_of_not_mem hnodup.2.1.1]

theorem exists_eq_append_of_mem_subs {sub : Substitute} (h : sub ∈ subs ps)
    : ∃ pre post, ps = pre ++ .hidden sub :: post :=
  List.append_of_mem (mem_subs_iff.mp h)

variable {sub : Substitute} {pre post : List Piece}

theorem run_append_plain (pre : List Piece) (text : Text) (post : List Piece)
    : run (pre ++ .plain text :: post) = run pre ++ (text ++ run post) ∨
      run (pre ++ .plain text :: post) = run pre := by
  induction pre with
  | nil => exact .inl rfl
  | cons p pre ih =>
    cases p with
    | plain u =>
      simp only [List.cons_append, run, List.append_assoc, List.append_cancel_left_eq]
      exact ih
    | hidden s => exact .inr rfl

theorem run_append_hidden (pre : List Piece) (sub : Substitute) (post : List Piece)
    : run (pre ++ .hidden sub :: post) = run pre := by
  induction pre with
  | nil => rfl
  | cons p pre ih =>
    cases p
    all_goals simp [run, ih]

theorem not_infix_run_plain (hfence : Substitution.Fenced kind sub.value)
    (hfree : ¬ Substitution.tokenStart kind <:+: sub.value)
    (hpost : ¬ Substitution.tokenStart kind <:+: run post)
    (hrun : ¬ Substitution.tokenStart kind <:+: run (pre ++ .hidden sub :: post))
    : ¬ Substitution.tokenStart kind <:+: run (pre ++ .plain sub.value :: post) := by
  rw [run_append_hidden] at hrun
  intro h
  cases run_append_plain pre sub.value post with
  | inl heq =>
    rw [heq] at h
    obtain h | h | h := hfence.infix_append (fun b hb => .inl hb) h
    . exact hrun h
    . exact hfree h
    . exact hpost h
  | inr heq => exact hrun (heq ▸ h)

theorem Clear.plain_of_hidden
    (hstore : ∀ t ∈ store, ∃ n, t.token = Substitution.token kind n)
    (hfence : Substitution.Fenced kind sub.value)
    (hfree : ¬ Substitution.tokenStart kind <:+: sub.value)
    (h : Clear kind store (pre ++ .hidden sub :: post))
    : Clear kind store (pre ++ .plain sub.value :: post) := by
  have hpost := h.append_right.2.2.1
  induction pre with
  | nil => exact h.2.2.2
  | cons p pre ih =>
    cases p with
    | plain text => exact ih h
    | hidden s =>
      obtain ⟨htoken, hshort, hrun, hrest⟩ := h
      refine ⟨htoken, ?_, not_infix_run_plain hfence hfree hpost hrun, ih hrest⟩
      intro t ht hlen hpre
      apply hshort t ht hlen
      obtain ⟨n, hn⟩ := hstore t ht
      have hpre : t.token <+: (s.token ++ shownText pre) ++ (sub.value ++ shownText post) := by
        simpa [shown] using hpre
      have hbytes : ∀ b ∈ t.token, Substitution.IsTokenByte kind b := by
        rw [hn]
        exact fun b => Substitution.isTokenByte_of_mem_token
      have := (hfence.prefix_append hbytes hpre).trans
        (List.prefix_append _ (sub.token ++ shownText post))
      simpa [shown] using this

end Piece

namespace Substitution

variable {s : Substitution} {token text : Text}

theorem startsLonger_iff
    : s.startsLonger token text = true ↔
      ∃ t ∈ s.store, token.length < t.token.length ∧ t.token <+: text := by
  simp [startsLonger]

theorem findToken?.go_eq_some {skip i : Nat} (htoken : token ≠ []) (hskip : skip ≤ i)
    (hat : token <+: text.drop i) (hshort : s.startsLonger token (text.drop i) = false)
    (hbefore : ∀ j, skip ≤ j → j < i → token <+: text.drop j →
      s.startsLonger token (text.drop j) = true ∧ j + token.length ≤ i)
    : findToken?.go s token text skip = some i := by
  induction text generalizing skip i with
  | nil => simp [htoken] at hat
  | cons b t ih =>
    cases skip with
    | succ skip =>
      obtain ⟨i, rfl⟩ := Nat.exists_eq_succ_of_ne_zero (by omega : i ≠ 0)
      unfold findToken?.go
      rw [ih (by omega) hat hshort]
      . rfl
      . intro j hj hi hpre
        have := hbefore (j + 1) (by omega) (by omega) hpre
        exact ⟨this.1, by omega⟩
    | zero =>
      unfold findToken?.go
      cases i with
      | zero =>
        rw [List.drop_zero] at hat hshort
        simp [hat, hshort]
      | succ i =>
        by_cases hpre : token <+: b :: t
        . have hlong := hbefore 0 (Nat.le_refl 0) (Nat.succ_pos i) hpre
          rw [List.drop_zero] at hlong
          have hpos := List.length_pos_iff.mpr htoken
          simp only [List.isPrefixOf_iff_prefix.mpr hpre, hlong.1, ↓reduceIte]
          rw [ih (by omega) hat hshort]
          . rfl
          . intro j hj hi hpre
            have := hbefore (j + 1) (by omega) (by omega) hpre
            exact ⟨this.1, by omega⟩
        . have : token.isPrefixOf (b :: t) = false := by
            rw [Bool.eq_false_iff]
            exact fun h => hpre (List.isPrefixOf_iff_prefix.mp h)
          simp only [this, Bool.false_eq_true, ↓reduceIte]
          rw [ih (Nat.zero_le i) hat hshort]
          . rfl
          . intro j hj hi hpre
            have := hbefore (j + 1) (by omega) (by omega) hpre
            exact ⟨this.1, by omega⟩

theorem findToken?.go_eq_none {skip : Nat} (htoken : token ≠ [])
    (hall : ∀ j, token <+: text.drop j → s.startsLonger token (text.drop j) = true)
    : findToken?.go s token text skip = none := by
  induction text generalizing skip with
  | nil =>
    unfold findToken?.go
    simp [htoken]
  | cons b t ih =>
    have ih (skip : Nat) : findToken?.go s token t skip = none := ih fun j => hall (j + 1)
    cases skip with
    | succ skip =>
      unfold findToken?.go
      simp [ih]
    | zero =>
      unfold findToken?.go
      split
      . next hpre =>
        have := hall 0 (List.isPrefixOf_iff_prefix.mp hpre)
        rw [List.drop_zero] at this
        simp [this, ih]
      . simp [ih]

/-- The tokens of a store have numbers that are all different. -/
structure Numbered (s : Substitution) : Prop where
  numbered : ∀ t ∈ s.store, ∃ n, t.token = Substitution.token s.kind n
  distinct : (s.store.map (·.token)).Nodup

/-- What a store must keep so that its tokens can be told apart, whatever is revealed. -/
structure Issued (s : Substitution) : Prop extends Numbered s where
  fenced : ∀ t ∈ s.store, Fenced s.kind t.value
  free : ∀ t ∈ s.store, ¬ tokenStart s.kind <:+: t.value

/-- A text whose tokens belong to a store. -/
structure Hides (s : Substitution) (ps : List Piece) : Prop where
  clear : Piece.Clear s.kind s.store ps
  run : ¬ tokenStart s.kind <:+: Piece.run ps
  nodup : (Piece.subs ps).Nodup
  stored : ∀ t ∈ Piece.subs ps, t ∈ s.store

open Piece (shownText meantText subs reveal)

variable {ps : List Piece} {sub : Substitute}

theorem Numbered.token_ne_nil (hs : s.Numbered) (hsub : sub ∈ s.store) : sub.token ≠ [] := by
  obtain ⟨n, hn⟩ := hs.numbered sub hsub
  intro h
  have := two_le_length_token s.kind n
  simp [← hn, h] at this

theorem Hides.length_lt {other : Substitute} {pre post : List Piece} (hs : s.Numbered)
    (hsub : sub ∈ s.store) (h : s.Hides (pre ++ .hidden other :: post)) (hne : other ≠ sub)
    (hpre : sub.token <+: shownText (.hidden other :: post))
    : sub.token.length < other.token.length := by
  have hmem : other ∈ s.store := h.stored other (by simp [subs])
  have hpre : sub.token <+: other.token ++ shownText post := hpre
  by_contra hlen
  cases Nat.eq_or_lt_of_le (Nat.le_of_not_lt hlen) with
  | inl heq =>
    have : sub.token = other.token :=
      (List.prefix_of_prefix_length_le hpre (List.prefix_append _ _)
      (Nat.le_of_eq heq.symm)).eq_of_length
        heq.symm
    exact hne (List.inj_on_of_nodup_map hs.distinct hmem hsub this.symm)
  | inr hlt => exact h.clear.append_right.2.1 sub hsub hlt hpre

theorem Hides.startsLonger {other : Substitute} {pre post : List Piece} (hs : s.Numbered)
    (hsub : sub ∈ s.store) (h : s.Hides (pre ++ .hidden other :: post)) (hne : other ≠ sub)
    (hpre : sub.token <+: shownText (.hidden other :: post))
    : s.startsLonger sub.token (shownText (.hidden other :: post)) = true := by
  rw [startsLonger_iff]
  exact ⟨other, h.stored other (by simp [subs]), h.length_lt hs hsub hne hpre,
    List.prefix_append _ _⟩

theorem Hides.exists_hidden {j : Nat} (hkind : Text.Apart (tokenStart s.kind) (tokenStart s.kind))
    (hs : s.Numbered) (hsub : sub ∈ s.store) (h : s.Hides ps)
    (hpre : sub.token <+: (shownText ps).drop j)
    : ∃ pre other post, ps = pre ++ .hidden other :: post ∧ j = (shownText pre).length := by
  obtain ⟨n, hn⟩ := hs.numbered sub hsub
  apply Piece.exists_hidden_of_prefix_drop hkind h.clear h.run
  rw [hn] at hpre
  exact (tokenStart_prefix_token n).trans hpre

theorem drop_shownText (pre : List Piece) (p : Piece) (post : List Piece)
    : (shownText (pre ++ p :: post)).drop (shownText pre).length = shownText (p :: post) := by
  rw [Piece.shownText_append, List.drop_left]

theorem findToken?_eq_none (hkind : Text.Apart (tokenStart s.kind) (tokenStart s.kind))
    (hs : s.Numbered) (hsub : sub ∈ s.store) (h : s.Hides ps) (hnot : sub ∉ subs ps)
    : s.findToken? sub.token (shownText ps) = none := by
  apply findToken?.go_eq_none (hs.token_ne_nil hsub)
  intro j hpre
  obtain ⟨pre, other, post, rfl, rfl⟩ := h.exists_hidden hkind hs hsub hpre
  have hne : other ≠ sub := by
    rintro rfl
    simp [subs] at hnot
  rw [drop_shownText] at hpre ⊢
  exact h.startsLonger hs hsub hne hpre

theorem findToken?_eq_some {pre post : List Piece}
    (hkind : Text.Apart (tokenStart s.kind) (tokenStart s.kind)) (hs : s.Numbered)
    (hsub : sub ∈ s.store) (h : s.Hides (pre ++ .hidden sub :: post))
    : s.findToken? sub.token (shownText (pre ++ .hidden sub :: post)) =
      some (shownText pre).length := by
  apply findToken?.go_eq_some (hs.token_ne_nil hsub) (Nat.zero_le _)
  . rw [drop_shownText]
    exact List.prefix_append _ _
  . rw [drop_shownText, Bool.eq_false_iff, Ne, startsLonger_iff]
    rintro ⟨t, ht, hlen, hpre⟩
    exact h.clear.append_right.2.1 t ht hlen hpre
  . intro j _ hj hpre
    obtain ⟨pre', other, post', heq, rfl⟩ := h.exists_hidden hkind hs hsub hpre
    -- the earlier place lies in `pre`, which does not hide `sub`
    obtain ⟨w, hw, _⟩ | ⟨w, hw, hpost⟩ := List.append_eq_append_iff.mp heq
    . have : (shownText pre).length ≤ (shownText pre').length := by simp [hw]
      omega
    . cases w with
      | nil =>
        simp only [List.append_nil] at hw
        simp [hw] at hj
      | cons p w =>
        simp only [List.cons_append, List.cons.injEq] at hpost
        obtain ⟨rfl, _⟩ := hpost
        have hne : other ≠ sub := by
          rintro rfl
          have := h.nodup
          simp [hw, subs, List.nodup_append] at this
        rw [heq] at h hpre ⊢
        rw [drop_shownText] at hpre ⊢
        have hlt := h.length_lt hs hsub hne hpre
        refine ⟨h.startsLonger hs hsub hne hpre, ?_⟩
        rw [hw]
        simp only [Piece.shownText_append, Piece.shownText_cons, Piece.shown, List.length_append]
        omega

theorem restoreOne_shownText (hkind : Text.Apart (tokenStart s.kind) (tokenStart s.kind))
    (hs : s.Numbered) (hsub : sub ∈ s.store) (h : s.Hides ps)
    : s.restoreOne (shownText ps) sub = shownText (reveal sub ps) := by
  unfold restoreOne
  by_cases hmem : sub ∈ subs ps
  . obtain ⟨pre, post, rfl⟩ := Piece.exists_eq_append_of_mem_subs hmem
    rw [findToken?_eq_some hkind hs hsub h, Piece.reveal_eq h.nodup]
    simp [Piece.shown]
  . rw [findToken?_eq_none hkind hs hsub h hmem, Piece.reveal_of_not_mem hmem]

theorem Hides.reveal (hs : s.Issued) (hsub : sub ∈ s.store) (h : s.Hides ps)
    : s.Hides (reveal sub ps) := by
  by_cases hmem : sub ∈ subs ps
  . have hfence := hs.fenced sub hsub
    have hfree := hs.free sub hsub
    obtain ⟨pre, post, rfl⟩ := Piece.exists_eq_append_of_mem_subs hmem
    have hsubs := Piece.subs_reveal sub (pre ++ .hidden sub :: post)
    rw [Piece.reveal_eq h.nodup] at hsubs ⊢
    exact {
      clear := h.clear.plain_of_hidden hs.numbered hfence hfree
      run := Piece.not_infix_run_plain hfence hfree h.clear.append_right.2.2.1 h.run
      nodup := hsubs ▸ h.nodup.filter _
      stored := fun t ht => h.stored t (List.mem_of_mem_filter (hsubs ▸ ht))
    }
  . rw [Piece.reveal_of_not_mem hmem]
    exact h

theorem shownText_of_subs_eq_nil (h : subs ps = []) : shownText ps = meantText ps := by
  induction ps with
  | nil => rfl
  | cons p ps ih =>
    cases p with
    | plain text => simp [Piece.shown, Piece.meant, ih h]
    | hidden s => simp [subs] at h

theorem restore_shownText_of (hkind : Text.Apart (tokenStart s.kind) (tokenStart s.kind))
    (hs : s.Numbered) {I : List Piece → Prop} (hhides : ∀ ps, I ps → s.Hides ps)
    (hreveal : ∀ ps, I ps → ∀ sub ∈ s.store, I (reveal sub ps)) (h : I ps)
    : s.restore (shownText ps) = meantText ps := by
  suffices hfold : ∀ store : List Substitute, (∀ t ∈ store, t ∈ s.store) → ∀ ps, I ps →
      (∀ t ∈ subs ps, t ∈ store) → store.foldl s.restoreOne (shownText ps) = meantText ps from
    hfold s.store (fun _ ht => ht) ps h (hhides ps h).stored
  intro store
  induction store with
  | nil =>
    intro _ ps h hmem
    exact shownText_of_subs_eq_nil
      (List.eq_nil_iff_forall_not_mem.mpr fun t ht => by simpa using hmem t ht)
  | cons sub store ih =>
    intro hstore ps h hmem
    have hsub := hstore sub (by simp)
    rw [List.foldl_cons, restoreOne_shownText hkind hs hsub (hhides ps h),
      ← Piece.meantText_reveal sub ps]
    apply ih (fun t ht => hstore t (by simp [ht])) _ (hreveal ps h sub hsub)
    intro t ht
    rw [Piece.subs_reveal] at ht
    have hne : t ≠ sub := by simpa using (List.mem_filter.mp ht).2
    have := hmem t (List.mem_of_mem_filter ht)
    simpa [hne] using this

theorem restore_shownText (hkind : Text.Apart (tokenStart s.kind) (tokenStart s.kind))
    (hs : s.Issued) (h : s.Hides ps)
    : s.restore (shownText ps) = meantText ps :=
  restore_shownText_of hkind hs.toNumbered (fun _ h => h) (fun _ h _ hsub => h.reveal hs hsub) h

end Substitution
end YamlOrder
