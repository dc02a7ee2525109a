import YamlOrder.Proofs.Tree.Arrange

/-!
This module contains that sorting a mapping by keywords is the same as taking out the pairs of one
keyword after the other and sorting what is left.
-/

namespace YamlOrder
namespace Tree

open Yaml
open YamlOrder.Order (byKeywords byKeywords_cons_self_left byKeywords_cons_of_ne
  byKeywords_eq_eq_iff)
open Std (OrientedCmp TransCmp)

variable {fallback : Comparator} {keyword key : Text} {keywords : List Text}
  {ps : List (Node × Node)}

/--
Take the pairs of one keyword after the other out of a mapping, and put what is left in order behind
them.
-/
def extractSort (fallback : Comparator) : List Text → List (Node × Node) → List (Node × Node)
  | [], ps => sortPairs fallback ps
  | keyword :: keywords, ps =>
    ps.filter (·.1.keyText == keyword) ++
      extractSort fallback keywords (ps.filter fun p => !(p.1.keyText == keyword))

theorem tie_first (keyword : Text) (keywords : List Text) (fallback : Comparator) (a : Text)
    : (byKeywords (keyword :: keywords) fallback a keyword == .eq) = (a == keyword) := by
  rw [Bool.eq_iff_iff, beq_iff_eq, beq_iff_eq, byKeywords_eq_eq_iff (Or.inr List.mem_cons_self)]

theorem tie_of_ne (h : key ≠ keyword) (keywords : List Text) (fallback : Comparator) (a : Text)
    : (byKeywords (keyword :: keywords) fallback a key == .eq) =
        (byKeywords keywords fallback a key == .eq && !(a == keyword)) := by
  by_cases ha : a = keyword
  . rw [ha, byKeywords_cons_self_left h]
    simp
  . rw [byKeywords_cons_of_ne ha h]
    simp [ha]

theorem stablySorted_byKeywords_cons (keyword : Text) (keywords : List Text) (fallback : Comparator)
    [TransCmp fallback] (ps : List (Node × Node))
    : StablySorted (byKeywords (keyword :: keywords) fallback) ps
        (ps.filter (·.1.keyText == keyword) ++
          sortPairs (byKeywords keywords fallback)
            (ps.filter fun p => !(p.1.keyText == keyword))) := by
  set taken := ps.filter (·.1.keyText == keyword) with htaken
  set left := ps.filter fun p => !(p.1.keyText == keyword) with hleft
  have hsorted : StablySorted (byKeywords keywords fallback) left
    (sortPairs (byKeywords keywords fallback) left) :=
    stablySorted_sortPairs left
  obtain ⟨hperm, hordered, hstable⟩ := hsorted
  set sorted := sortPairs (byKeywords keywords fallback) left
  have hof_taken : ∀ p ∈ taken, p.1.keyText = keyword := by simp [htaken]
  have hof_sorted : ∀ p ∈ sorted, p.1.keyText ≠ keyword := by
    intro p hp
    simpa using (List.mem_filter.mp (hperm.mem_iff.mp hp)).2
  refine ⟨?perm, ?ordered, ?stable⟩
  case perm => exact (hperm.append_left taken).trans (List.filter_append_perm _ ps)
  case ordered =>
    rw [List.pairwise_append]
    refine ⟨?_, hordered.imp_of_mem ?_, ?_⟩
    . apply List.pairwise_of_forall_mem_list
      intro p hp q hq
      rw [hof_taken p hp, hof_taken q hq,
        (byKeywords_eq_eq_iff (Or.inl List.mem_cons_self)).mpr rfl]
      rfl
    . intro p q hp hq hpq
      rwa [byKeywords_cons_of_ne (hof_sorted p hp) (hof_sorted q hq)]
    . intro p hp q hq
      rw [hof_taken p hp, byKeywords_cons_self_left (hof_sorted q hq)]
      rfl
  case stable =>
    intro key
    by_cases hkey : key = keyword
    . have hnone : sorted.filter (·.1.keyText == keyword) = [] := by simpa using hof_sorted
      simp only [hkey, tie_first, List.filter_append, hnone, List.append_nil, htaken,
        List.filter_filter, Bool.and_self]
    . have hnone : taken.filter (fun p => !(p.1.keyText == keyword)) = [] := by simpa
        using hof_taken
      have hall : sorted.filter (fun p => !(p.1.keyText == keyword)) = sorted := by simpa
        using hof_sorted
      simp only [tie_of_ne hkey, List.filter_append, ← List.filter_filter, hnone, hall,
        List.filter_nil,
        List.nil_append, hstable, hleft]

theorem sortPairs_byKeywords_cons (keyword : Text) (keywords : List Text) (fallback : Comparator)
    [TransCmp fallback] (ps : List (Node × Node))
    : sortPairs (byKeywords (keyword :: keywords) fallback) ps =
        ps.filter (·.1.keyText == keyword) ++
          sortPairs (byKeywords keywords fallback) (ps.filter fun p => !(p.1.keyText == keyword)) :=
  (stablySorted_iff.mp (stablySorted_byKeywords_cons keyword keywords fallback ps)).symm

theorem sortPairs_byKeywords_eq (keywords : List Text) (fallback : Comparator) [TransCmp fallback]
    (ps : List (Node × Node)) : sortPairs (byKeywords keywords fallback) ps =
    extractSort fallback keywords ps := by
  induction keywords generalizing ps with
  | nil => rfl
  | cons keyword keywords ih => rw [sortPairs_byKeywords_cons, extractSort, ih]

theorem extractSort_of_taken (fallback : Comparator) (taken keywords : List Text)
    (ps : List (Node × Node))
    : extractSort fallback keywords (ps.filter fun p => !taken.contains p.1.keyText) =
        ((keywords.removeAll taken).eraseDups.flatMap fun keyword =>
          ps.filter (·.1.keyText == keyword)) ++
          sortPairs fallback (ps.filter fun p => !(taken ++ keywords).contains p.1.keyText) := by
  induction keywords generalizing taken with
  | nil => simp [extractSort]
  | cons keyword keywords ih =>
    rw [extractSort, List.filter_filter, List.filter_filter, List.cons_removeAll]
    by_cases hmem : keyword ∈ taken
    . have hnone : (ps.filter fun p => p.1.keyText == keyword && !taken.contains p.1.keyText) =
        [] := by
        simp only [List.filter_eq_nil_iff]
        intro p _
        grind
      have hleft (p : Node × Node) :
          (!(p.1.keyText == keyword) && !taken.contains p.1.keyText) =
            !taken.contains p.1.keyText := by
        grind
      have hlisted (p : Node × Node) :
          (taken ++ keyword :: keywords).contains p.1.keyText =
            (taken ++ keywords).contains p.1.keyText := by
        grind
      simp only [hnone, hleft, hlisted, List.nil_append, ih]
      rw [if_neg (by simpa using hmem)]
    . have hfirst (p : Node × Node) :
          (p.1.keyText == keyword && !taken.contains p.1.keyText) = (p.1.keyText == keyword) := by
        grind
      have hleft (p : Node × Node) :
          (!(p.1.keyText == keyword) && !taken.contains p.1.keyText) =
            !(taken ++ [keyword]).contains p.1.keyText := by
        grind
      have hrest : (keywords.removeAll taken).filter (fun k => !(k == keyword)) =
          keywords.removeAll (taken ++ [keyword]) := by
        simp only [List.removeAll, List.filter_filter]
        refine List.filter_congr fun k _ => ?_
        grind
      simp only [hfirst, hleft, ih]
      rw [if_pos (by simpa using hmem), List.eraseDups_cons, List.flatMap_cons, hrest,
        List.append_assoc,
        List.append_assoc]
      rfl

/--
Sorting by keywords is taking them out: first come the pairs of each keyword, in the order of the
list without what it repeats, and then all other pairs in the order of the fallback, ties as they
were. A key counts by its text, which is the name of an alias and nothing for a collection.
-/
theorem sortPairs_byKeywords (keywords : List Text) (fallback : Comparator) [TransCmp fallback]
    (ps : List (Node × Node))
    : ∃ others, StablySorted fallback (ps.filter fun p => !keywords.contains p.1.keyText) others ∧
        sortPairs (byKeywords keywords fallback) ps =
          (keywords.eraseDups.flatMap fun keyword => ps.filter (·.1.keyText == keyword)) ++ others ∧
        extractSort fallback keywords ps = sortPairs (byKeywords keywords fallback) ps := by
  have htaken := extractSort_of_taken fallback [] keywords ps
  have hnone : ps.filter (fun p => !([] : List Text).contains p.1.keyText) = ps := by simp
  rw [hnone, List.nil_append, List.removeAll_nil] at htaken
  exact ⟨_, stablySorted_sortPairs _, (sortPairs_byKeywords_eq keywords fallback ps).trans htaken,
    (sortPairs_byKeywords_eq keywords fallback ps).symm⟩

/-- A keyword that is listed twice, and a key that is an alias with its name. -/
theorem sortPairs_byKeywords_twice
    : TransCmp bytewise ∧
      sortPairs (byKeywords ["kind", "data", "kind"] bytewise)
          [(wordNode "data", wordNode "1"), (wordNode "b", wordNode "2"),
            (.alias {} "kind" 0, wordNode "3"),
            (wordNode "a", wordNode "4"), (wordNode "kind", wordNode "5")] =
        [(.alias {} "kind" 0, wordNode "3"), (wordNode "kind", wordNode "5"),
          (wordNode "data", wordNode "1"),
          (wordNode "a", wordNode "4"), (wordNode "b", wordNode "2")] := by
  refine ⟨inferInstance, ?_⟩
  obtain ⟨others, hothers, hsorted, -⟩ := sortPairs_byKeywords ["kind", "data", "kind"] bytewise
    [(wordNode "data", wordNode "1"), (wordNode "b", wordNode "2"),
      (.alias {} "kind" 0, wordNode "3"),
      (wordNode "a", wordNode "4"), (wordNode "kind", wordNode "5")]
  have hgt : bytewise "b" "a" = .gt := by decide
  have hothers : others = [(wordNode "a", wordNode "4"), (wordNode "b", wordNode "2")] := by
    rw [stablySorted_iff.mp hothers]
    show sortPairs bytewise [(wordNode "b", wordNode "2"), (wordNode "a", wordNode "4")] = _
    simp [sortPairs, List.mergeSort, List.MergeSort.Internal.splitInTwo, wordNode,
      Node.keyText, hgt]
  rw [hsorted, hothers]
  decide

end Tree
end YamlOrder
