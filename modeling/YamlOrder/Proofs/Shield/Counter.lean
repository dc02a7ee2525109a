import Mathlib.Order.Bounds.Basic
import YamlOrder.Proofs.Shield.Restore
import YamlOrder.Proofs.Shield.Turn

/-!
This module contains the counter of a substitution: a new token has the least number, from the
counter on, that the text leaves free. The counter moves past it, so no two tokens of a substitution
are ever the same, however often it hides and restores.
-/

namespace YamlOrder
namespace Substitution

variable {kind text : Text} {n m : Nat} {s : Substitution} {ns : List Nat}

/--
A search that has no bound: it ends at the first number whose token does not occur in the text.
-/
inductive Searches (kind text : Text) : Nat → Nat → Prop where
  | free {n : Nat} (hfree : Text.occursIn (token kind n) text = false) : Searches kind text n n
  | taken {n m : Nat} (htaken : Text.occursIn (token kind n) text = true)
      (hrest : Searches kind text (n + 1) m) : Searches kind text n m

theorem Searches.isLeast (h : Searches kind text n m)
    : IsLeast {k | n ≤ k ∧ ¬ token kind k <:+: text} m := by
  induction h with
  | free hfree =>
    rw [← Bool.not_eq_true, Text.occursIn_iff] at hfree
    exact ⟨⟨Nat.le_refl _, hfree⟩, fun k hk => hk.1⟩
  | @taken n m htaken _ ih =>
    obtain ⟨⟨hge, hfree⟩, hleast⟩ := ih
    refine ⟨⟨by omega, hfree⟩, ?_⟩
    rintro k ⟨hk, hkfree⟩
    have hne : k ≠ n := by
      rintro rfl
      exact hkfree (Text.occursIn_iff.mp htaken)
    exact hleast ⟨by omega, hkfree⟩

theorem freeNumber.go_searches (fuel n : Nat)
    (h : ¬ token kind (freeNumber.go kind text fuel n) <:+: text)
    : Searches kind text n (freeNumber.go kind text fuel n) := by
  induction fuel generalizing n with
  | zero =>
    apply Searches.free
    rw [← Bool.not_eq_true, Text.occursIn_iff]
    exact h
  | succ fuel ih =>
    unfold freeNumber.go at h ⊢
    split
    . next htaken =>
      rw [if_pos htaken] at h
      exact .taken htaken (ih (n + 1) h)
    . next hfree => exact .free (Bool.not_eq_true _ ▸ hfree)

theorem searches_iff : Searches kind text n m ↔ m = freeNumber kind text n := by
  have hends : Searches kind text n (freeNumber kind text n) :=
    freeNumber.go_searches _ n (freeNumber_free n)
  constructor
  . intro h
    exact h.isLeast.unique hends.isLeast
  . rintro rfl
    exact hends

/-- The tokens of a store have these numbers, which grow and stay below the counter. -/
structure Counted (s : Substitution) (ns : List Nat) : Prop where
  tokens : s.store.map (·.token) = ns.map (token s.kind)
  ascending : ns.Pairwise (· < ·)
  below : ∀ n ∈ ns, n < s.next

/--
A call of a substitution with a text: it hides the matches of the text, or puts back what its tokens
stand for.
-/
inductive Call where
  | shield (text : Text)
  | restore (text : Text)

/-- The substitution after a call, and the text that the call gives. -/
def call (s : Substitution) : Call → Substitution × Text
  | .shield text => s.shield text
  | .restore text => (s, s.restore text)

/-- The substitution after calls that are made one after the other. -/
def callAll (s : Substitution) (calls : List Call) : Substitution :=
    calls.foldl (fun s c => (s.call c).1) s

theorem hide_eq (s : Substitution) (text found : Text)
    : s.hide text found =
        (s.issue (freeNumber s.kind text s.next) found,
          Text.replaceFirst found (token s.kind (freeNumber s.kind text s.next)) text) := rfl

namespace Counted

theorem numbered (h : s.Counted ns) : s.Numbered where
  numbered := by
    intro t ht
    have hmem : t.token ∈ s.store.map (·.token) := List.mem_map_of_mem ht
    rw [h.tokens, List.mem_map] at hmem
    obtain ⟨n, -, htoken⟩ := hmem
    exact ⟨n, htoken.symm⟩
  distinct := by
    rw [h.tokens]
    exact (h.ascending.imp Nat.ne_of_lt).map _ fun _ _ hne heq => hne (token_injective heq)

theorem issue (h : s.Counted ns) (hn : s.next ≤ n) (found : Text)
    : (s.issue n found).Counted (ns ++ [n]) where
  tokens := by simp [h.tokens]
  ascending := by
    rw [List.pairwise_append]
    refine ⟨h.ascending, List.pairwise_singleton _ _, ?_⟩
    intro k hk _ hlast
    have := h.below k hk
    rw [List.mem_singleton.mp hlast]
    omega
  below := by
    intro k hk
    rw [next_issue]
    obtain hk | hk := List.mem_append.mp hk
    . have := h.below k hk
      omega
    . rw [List.mem_singleton.mp hk]
      omega

theorem foldl_hide (h : s.Counted ns) (founds : List Text) (text : Text)
    : ∃ ms, (founds.foldl (fun (s, text) found => s.hide text found) (s, text)).1.Counted
      (ns ++ ms) := by
  induction founds generalizing s ns text with
  | nil => exact ⟨[], by simpa using h⟩
  | cons found founds ih =>
    rw [List.foldl_cons]
    dsimp only
    rw [hide_eq]
    obtain ⟨ms, hms⟩ := ih (h.issue (freeNumber_ge s.next) found) _
    exact ⟨_ :: ms, by simpa using hms⟩

theorem call (h : s.Counted ns) (c : Call) : ∃ ms, (s.call c).1.Counted (ns ++ ms) := by
  cases c with
  | shield text => exact h.foldl_hide (s.pattern.findAll text) text
  | restore text => exact ⟨[], by simpa [Substitution.call] using h⟩

theorem callAll (h : s.Counted ns) (calls : List Call)
    : ∃ ms, (s.callAll calls).Counted (ns ++ ms) := by
  -- The substitution and its numbers change with every call; that they are counted is what carries
  -- over.
  induction calls generalizing s ns with
  | nil => exact ⟨[], by simpa [Substitution.callAll] using h⟩
  | cons c calls ih =>
    obtain ⟨ks, hks⟩ := h.call c
    obtain ⟨ms, hms⟩ := ih hks
    rw [List.append_assoc] at hms
    exact ⟨ks ++ ms, hms⟩

end Counted

/--
The search for a token ends for every text and counter: the token has the least number from the
counter on that does not occur in the text, and the counter stands behind it afterwards. Whatever
calls are made of a substitution, with whatever texts, all tokens that it stores are different.
-/
theorem tokens_least_and_distinct
    : (∀ (s : Substitution) (text found : Text), ∃ n,
          (∀ m, Searches s.kind text s.next m ↔ m = n) ∧
            IsLeast {k | s.next ≤ k ∧ ¬ token s.kind k <:+: text} n ∧
            s.hide text found = (s.issue n found, Text.replaceFirst found (token s.kind n) text)) ∧
        ∀ (kind : Text) (pattern : Pattern) (next : Nat) (calls : List Call),
          ((callAll { kind, pattern, next } calls).store.map (·.token)).Nodup := by
  constructor
  . intro s text found
    refine ⟨freeNumber s.kind text s.next, fun m => searches_iff, ?_, hide_eq s text found⟩
    exact (searches_iff.mpr rfl).isLeast
  . intro kind pattern next calls
    have hstart : Counted { kind, pattern, next } [] := ⟨rfl, .nil, by simp⟩
    obtain ⟨ns, hns⟩ := hstart.callAll calls
    exact hns.numbered.distinct

/-- The counter passes a number that the second text holds. -/
example : (array.callAll [.shield "[a]", .restore "b", .shield "yamlsort.array.1: [c]"]).store =
    [⟨token "array" 0, "[a]"⟩, ⟨token "array" 2, "[c]"⟩] := by decide +kernel

end Substitution
end YamlOrder
