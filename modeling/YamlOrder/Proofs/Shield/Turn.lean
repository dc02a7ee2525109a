import YamlOrder.Proofs.Shield.Hide

/-!
This module contains the run of a substitution whose matches are not kept apart from their
surroundings: something else may be replaced in place of a match, but only further ahead, so every
match still occurs when its turn comes.
-/

namespace YamlOrder
namespace Pattern

variable {p : Pattern} {text : Text} {ms : List Text} {slots : List (Text × Text)} {tail : Text}

theorem findAll_sublist (p : Pattern) (text : Text)
    : (p.findAll text).Sublist ((p.spans text).map (slice text)) := by
  unfold findAll
  induction p.spans text with
  | nil => exact .slnil
  | cons span spans ih =>
    rw [List.filterMap_cons, List.map_cons]
    dsimp only
    split
    . exact ih.cons _
    . next h =>
      obtain rfl := Option.some.inj (Option.ite_none_right_eq_some.mp h).2
      exact ih.cons_cons _

theorem exists_laid_append (u : Text) (slots : List (Text × Text)) (tail : Text)
    : ∃ slots' tail', u ++ laid slots tail = laid slots' tail' ∧
      slots'.map (·.2) = slots.map (·.2) := by
  cases slots with
  | nil => exact ⟨[], u ++ tail, rfl, rfl⟩
  | cons slot slots => exact ⟨(u ++ slot.1, slot.2) :: slots, tail, by simp [laid], rfl⟩

theorem exists_laid_of_sublist (tail : Text) (h : ms.Sublist (slots.map (·.2)))
    : ∃ slots' tail', laid slots tail = laid slots' tail' ∧ ms = slots'.map (·.2) := by
  induction slots generalizing ms with
  | nil =>
    obtain rfl := List.sublist_nil.mp h
    exact ⟨[], tail, rfl, rfl⟩
  | cons slot slots ih =>
    obtain ⟨gap, found⟩ := slot
    rw [List.map_cons] at h
    obtain hrest | ⟨ms, rfl, hrest⟩ := List.sublist_cons_iff.mp h
    . obtain ⟨slots', tail', hlaid, rfl⟩ := ih hrest
      obtain ⟨slots'', tail'', hlaid', hmap⟩ := exists_laid_append (gap ++ found) slots' tail'
      exact ⟨slots'', tail'', by rw [laid_cons, hlaid, ← List.append_assoc, hlaid'], hmap.symm⟩
    . obtain ⟨slots', tail', hlaid, rfl⟩ := ih hrest
      exact ⟨(gap, found) :: slots', tail', by rw [laid_cons, hlaid, laid_cons], rfl⟩

theorem Scanned.exists_length? (h : p.Scanned slots tail)
    : ∀ m ∈ slots.map (·.2), ∃ v, p.length? (m ++ v) = some m.length := by
  induction slots with
  | nil => simp
  | cons slot slots ih =>
    simp only [List.map_cons, List.mem_cons, forall_eq_or_imp]
    exact ⟨⟨_, h.2.1⟩, ih h.2.2⟩

theorem Bounded.exists_laid (hp : p.Bounded) (text : Text)
    : ∃ slots tail, text = laid slots tail ∧ p.findAll text = slots.map (·.2) ∧
        ∀ m ∈ p.findAll text, ∃ v, p.length? (m ++ v) = some m.length := by
  obtain ⟨slots, tail, htext, hscan, hspans⟩ := hp.exists_scanned text
  have hsublist := hspans ▸ p.findAll_sublist text
  obtain ⟨slots', tail', hlaid, hfind⟩ := exists_laid_of_sublist tail hsublist
  exact ⟨slots', tail', htext.trans hlaid, hfind,
    fun m hm => hscan.exists_length? m (hsublist.subset hm)⟩

end Pattern

namespace Substitution

open Pattern (laid Bounded)

variable {s s' : Substitution} {text text' u v m : Text} {ms : List Text}

/-- A substitution that has put a token with the number `n` in for a value. -/
def issue (s : Substitution) (n : Nat) (value : Text) : Substitution :=
  { s with store := s.store ++ [⟨token s.kind n, value⟩], next := n + 1 }

@[simp]
theorem kind_issue (s : Substitution) (n : Nat) (value : Text)
    : (s.issue n value).kind = s.kind := rfl

@[simp]
theorem store_issue (s : Substitution) (n : Nat) (value : Text)
    : (s.issue n value).store = s.store ++ [⟨token s.kind n, value⟩] := rfl

@[simp]
theorem next_issue (s : Substitution) (n : Nat) (value : Text)
    : (s.issue n value).next = n + 1 := rfl

/-- A run that hides texts in turn, each of them where it occurs first. -/
inductive Hiding : Substitution → Text → List Text → Substitution → Text → Prop where
  | done (s : Substitution) (text : Text) : Hiding s text [] s text
  | hide {s s' : Substitution} {u m v text' : Text} {ms : List Text} {n : Nat}
      (hfirst : Text.find? m (u ++ (m ++ v)) = some u.length)
        (hn : n = freeNumber s.kind (u ++ (m ++ v)) s.next)
      (hrest : Hiding (s.issue n m) (u ++ (token s.kind n ++ v)) ms s' text')
      : Hiding s (u ++ (m ++ v)) (m :: ms) s' text'

theorem exists_first (before m after : Text)
    : ∃ u v w, before ++ (m ++ after) = u ++ (m ++ v) ∧
      Text.find? m (u ++ (m ++ v)) = some u.length ∧
        v = w ++ after := by
  cases hfind : Text.find? m (before ++ (m ++ after)) with
  | none =>
    rw [Text.find?_eq_none_iff] at hfind
    exact absurd ⟨before, after, by simp⟩ hfind
  | some i =>
    obtain ⟨hpre, hfirst⟩ := Text.find?_eq_some_iff.mp hfind
    have hi : i ≤ before.length := by
      by_contra hlt
      apply hfirst before.length (by omega)
      rw [List.drop_left]
      exact List.prefix_append _ _
    obtain ⟨v, hv⟩ := hpre
    have hsplit : before ++ (m ++ after) = (before ++ (m ++ after)).take i ++ (m ++ v) := by
      rw [hv, List.take_append_drop]
    have hlength : ((before ++ (m ++ after)).take i).length = i := by
      simp
      omega
    obtain ⟨w, rfl⟩ : after <:+ v := by
      have hafter : after <:+ before ++ (m ++ after) := ⟨before ++ m, by simp⟩
      have hvtext : v <:+ before ++ (m ++ after) := by
        rw [hsplit, ← List.append_assoc]
        exact List.suffix_append _ _
      refine List.suffix_of_suffix_length_le hafter hvtext ?_
      have htotal := congrArg List.length hsplit
      simp only [List.length_append, hlength] at htotal
      omega
    exact ⟨_, _, w, hsplit, by rw [hlength, ← hsplit, hfind], rfl⟩

theorem hiding_foldl (slots : List (Text × Text)) (tail : Text) (before : Text)
    (h : (slots.map (·.2)).foldl (fun (s, text) found => s.hide text found)
      (s, before ++ laid slots tail) =
      (s', text'))
    : Hiding s (before ++ laid slots tail) (slots.map (·.2)) s' text' := by
  induction slots generalizing s before with
  | nil =>
    obtain ⟨rfl, rfl⟩ := Prod.mk.inj h
    exact .done _ _
  | cons slot slots ih =>
    obtain ⟨gap, m⟩ := slot
    obtain ⟨u, v, w, hsplit, hfirst, rfl⟩ := exists_first (before ++ gap) m (laid slots tail)
    rw [Pattern.laid_cons, ← List.append_assoc, hsplit, List.map_cons, List.foldl_cons] at h
    rw [Pattern.laid_cons, ← List.append_assoc, hsplit]
    dsimp only at h
    rw [hide_of_find? s hfirst] at h
    obtain ⟨n, hn⟩ : ∃ n, n = freeNumber s.kind (u ++ (m ++ (w ++ laid slots tail)))
      s.next := ⟨_, rfl⟩
    have htext : u ++ (token s.kind n ++ (w ++ laid slots tail)) = u ++ (token s.kind n ++ w) ++
      laid slots tail := by
      simp
    rw [← hn, htext] at h
    apply Hiding.hide hfirst hn
    rw [htext]
    exact ih _ h

theorem hiding_shield (s : Substitution) (hp : s.pattern.Bounded) (text : Text)
    : Hiding s text (s.pattern.findAll text) (s.shield text).1 (s.shield text).2 := by
  obtain ⟨slots, tail, htext, hfind, -⟩ := hp.exists_laid text
  unfold shield
  rw [hfind]
  nth_rewrite 1 [htext]
  apply hiding_foldl slots tail []
  rw [List.nil_append, ← htext]

theorem Hiding.kind_eq (h : Hiding s text ms s' text') : s'.kind = s.kind := by
  induction h with
  | done => rfl
  | hide _ _ _ ih => exact ih

/-- The store grows by the texts that are hidden, each behind a token with a larger number. -/
theorem Hiding.exists_store (h : Hiding s text ms s' text')
    : ∃ added, s'.store = s.store ++ added ∧ added.map (·.value) = ms ∧
        ∀ sub ∈ added, ∃ n, s.next ≤ n ∧ sub.token = token s.kind n := by
  induction h with
  | done => exact ⟨[], by simp⟩
  | hide _ hn _ ih =>
    obtain ⟨added, hstore, hvalues, htokens⟩ := ih
    refine ⟨_, by rw [hstore, store_issue, List.append_assoc], by simp [hvalues], ?_⟩
    have hge := hn ▸ freeNumber_ge _
    simp only [List.cons_append, List.nil_append, List.mem_cons, forall_eq_or_imp]
    refine ⟨⟨_, hge, rfl⟩, fun sub hsub => ?_⟩
    obtain ⟨k, hk, htoken⟩ := htokens sub hsub
    rw [next_issue] at hk
    exact ⟨k, by omega, htoken⟩

end Substitution
end YamlOrder
