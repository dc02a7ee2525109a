import YamlOrder.Proofs.Order.Total
import YamlOrder.Proofs.Tree.Children
import YamlOrder.Proofs.Tree.Reorder

/-!
This module contains what sorting does to a tree: the pairs of each mapping are put in order, ties
stay as they were, and nothing else changes.
-/

namespace YamlOrder
namespace Tree

open Yaml
open YamlOrder.Order (isLE_total)
open Std (OrientedCmp TransCmp)

variable {cmp top nested : Comparator} {n n' : Node} {ps qs rs : List (Node × Node)}

/--
Pairs as they stand in order: the same pairs, none before one that the order of keys puts before it,
and pairs whose keys tie with any one key in the order that they had.
-/
structure StablySorted (cmp : Comparator) (ps qs : List (Node × Node)) : Prop where
  perm : qs.Perm ps
  ordered : qs.Pairwise fun p q => (cmp p.1.keyText q.1.keyText).isLE = true
  stable : ∀ key, (qs.filter fun p => cmp p.1.keyText key == .eq) =
    ps.filter fun p => cmp p.1.keyText key == .eq

theorem pairwise_sortPairs [TransCmp cmp] (ps : List (Node × Node))
    : (sortPairs cmp ps).Pairwise fun p q => (cmp p.1.keyText q.1.keyText).isLE = true :=
  List.pairwise_mergeSort (fun _ _ _ => TransCmp.isLE_trans) (fun _ _ => isLE_total cmp _ _) ps

theorem filter_sortPairs [TransCmp cmp] (ps : List (Node × Node)) (key : Text)
    : ((sortPairs cmp ps).filter fun p => cmp p.1.keyText key == .eq)
        = ps.filter fun p => cmp p.1.keyText key == .eq := by
  set tied : Node × Node → Bool := fun p => cmp p.1.keyText key == .eq with htied
  have hle : (ps.filter tied).Pairwise fun p q => (cmp p.1.keyText q.1.keyText).isLE = true := by
    apply List.pairwise_of_forall_mem_list
    intro p hp q hq
    have hp : cmp p.1.keyText key = .eq := by simpa [htied] using (List.mem_filter.mp hp).2
    have hq : cmp q.1.keyText key = .eq := by simpa [htied] using (List.mem_filter.mp hq).2
    rw [TransCmp.eq_trans hp (OrientedCmp.eq_symm hq)]
    rfl
  have hsub : (ps.filter tied).Sublist (sortPairs cmp ps) :=
    List.sublist_mergeSort (fun _ _ _ => TransCmp.isLE_trans) (fun _ _ => isLE_total cmp _ _) hle
      List.filter_sublist
  have hsub : (ps.filter tied).Sublist ((sortPairs cmp ps).filter tied) := by
    simpa using hsub.filter tied
  exact (hsub.eq_of_length ((List.mergeSort_perm _ _).filter tied).length_eq.symm).symm

theorem stablySorted_sortPairs [TransCmp cmp] (ps : List (Node × Node))
    : StablySorted cmp ps (sortPairs cmp ps) :=
  ⟨List.mergeSort_perm _ _, pairwise_sortPairs ps, filter_sortPairs ps⟩

theorem eq_of_filter_eq [TransCmp cmp] (hperm : qs.Perm rs)
    (hqs : qs.Pairwise fun p q => (cmp p.1.keyText q.1.keyText).isLE = true)
    (hrs : rs.Pairwise fun p q => (cmp p.1.keyText q.1.keyText).isLE = true)
    (h : ∀ key, (qs.filter fun p => cmp p.1.keyText key == .eq) =
      rs.filter fun p => cmp p.1.keyText key == .eq)
    : qs = rs := by
  induction qs generalizing rs with
  | nil => exact (List.nil_perm.mp hperm).symm
  | cons q qs ih =>
    cases rs with
    | nil => exact absurd hperm (by simp)
    | cons r rs =>
      -- each of the two first pairs is at or before the other one
      have hqr : (cmp q.1.keyText r.1.keyText).isLE = true := by
        obtain rfl | hmem := List.mem_cons.mp (hperm.mem_iff.mpr List.mem_cons_self : r ∈ q :: qs)
        . simpa using isLE_total cmp r.1.keyText r.1.keyText
        . exact List.rel_of_pairwise_cons hqs hmem
      have hrq : (cmp r.1.keyText q.1.keyText).isLE = true := by
        obtain rfl | hmem := List.mem_cons.mp (hperm.mem_iff.mp List.mem_cons_self : q ∈ r :: rs)
        . simpa using isLE_total cmp q.1.keyText q.1.keyText
        . exact List.rel_of_pairwise_cons hrs hmem
      have htie : cmp q.1.keyText r.1.keyText = .eq := OrientedCmp.isLE_antisymm hqr hrq
      have hself : cmp r.1.keyText r.1.keyText = .eq :=
        TransCmp.eq_trans (OrientedCmp.eq_symm htie) htie
      have hfirst := h r.1.keyText
      simp only [List.filter_cons, htie, hself, beq_self_eq_true, if_true,
        List.cons.injEq] at hfirst
      obtain ⟨rfl, -⟩ := hfirst
      rw [ih (List.perm_cons q |>.mp hperm) hqs.of_cons hrs.of_cons]
      intro key
      have hkey := h key
      simp only [List.filter_cons] at hkey
      split at hkey
      . exact List.tail_eq_of_cons_eq hkey
      . exact hkey

theorem StablySorted.eq [TransCmp cmp] (h : StablySorted cmp ps qs) (h' : StablySorted cmp ps rs)
    : qs = rs :=
  eq_of_filter_eq (h.perm.trans h'.perm.symm) h.ordered h'.ordered fun key =>
  (h.stable key).trans (h'.stable key).symm

theorem stablySorted_iff [TransCmp cmp] : StablySorted cmp ps qs ↔ qs = sortPairs cmp ps := by
  constructor
  . intro h
    exact h.eq (stablySorted_sortPairs ps)
  . rintro rfl
    exact stablySorted_sortPairs ps

/--
A tree with the pairs of its mappings in order. A mapping at its top is in the order `cmp` and every
mapping below it in the order `nested`, in keys and values of mappings and items of sequences alike.
A pair keeps its key and its value, a sequence its items in their order, and scalars and aliases
stay as they are, as does what all nodes have: tags, styles, anchors, comments and places.
-/
inductive Arranged (nested : Comparator) : Comparator → Node → Node → Prop
  | scalar (cmp : Comparator) (i : NodeInfo) (value : Text) (style : ScalarStyle)
    : Arranged nested cmp (.scalar i value style) (.scalar i value style)
  | alias (cmp : Comparator) (i : NodeInfo) (name : Text) (target : Nat)
    : Arranged nested cmp (.alias i name target) (.alias i name target)
  | sequence (cmp : Comparator) (i : NodeInfo) (flow : Bool) {items items' : List Node}
    (h : List.Forall₂ (Arranged nested nested) items items')
    : Arranged nested cmp (.sequence i flow items) (.sequence i flow items')
  | mapping (cmp : Comparator) (i : NodeInfo) (flow : Bool) {ps qs rs : List (Node × Node)}
    (h : List.Forall₂ (Arranged nested nested) (flatten ps) (flatten qs))
    (hsort : StablySorted cmp qs rs)
    : Arranged nested cmp (.mapping i flow ps) (.mapping i flow rs)

section

variable {i : NodeInfo} {flow : Bool}

theorem arranged_scalar_iff {value : Text} {style : ScalarStyle}
    : Arranged nested cmp (.scalar i value style) n' ↔ n' = .scalar i value style := by
  constructor
  . rintro ⟨⟩
    rfl
  . rintro rfl
    exact .scalar cmp i value style

theorem arranged_alias_iff {name : Text} {target : Nat}
    : Arranged nested cmp (.alias i name target) n' ↔ n' = .alias i name target := by
  constructor
  . rintro ⟨⟩
    rfl
  . rintro rfl
    exact .alias cmp i name target

theorem arranged_sequence_iff {items : List Node}
    : Arranged nested cmp (.sequence i flow items) n' ↔
        ∃ items', List.Forall₂ (Arranged nested nested) items items' ∧
        n' = .sequence i flow items' := by
  constructor
  . intro h
    cases h with
    | sequence _ _ _ h => exact ⟨_, h, rfl⟩
  . rintro ⟨items', h, rfl⟩
    exact .sequence cmp i flow h

theorem arranged_mapping_iff
    : Arranged nested cmp (.mapping i flow ps) n' ↔
        ∃ qs rs, List.Forall₂ (Arranged nested nested) (flatten ps)
        (flatten qs) ∧ StablySorted cmp qs rs ∧
          n' = .mapping i flow rs := by
  constructor
  . intro h
    cases h with
    | mapping _ _ _ h hsort => exact ⟨_, _, h, hsort, rfl⟩
  . rintro ⟨qs, rs, h, hsort, rfl⟩
    exact .mapping cmp i flow h hsort

theorem sortRoot_sequence (items : List Node)
    : sortRoot top nested (.sequence i flow items) =
      .sequence i flow (items.map (sortNested nested)) := by
  simp [sortRoot, sortNested, sortItems_eq]

theorem sortRoot_mapping (ps : List (Node × Node))
    : sortRoot top nested (.mapping i flow ps)
        = .mapping i flow
        (sortPairs top (ps.map (Prod.map (sortNested nested) (sortNested nested)))) := by
  rw [sortRoot, sortBoth_eq]
  rfl

end

theorem sortRoot_self (cmp : Comparator) (n : Node) : sortRoot cmp cmp n = sortNested cmp n := by
  cases n
  all_goals rfl

theorem flatten_injective : Function.Injective flatten := by
  intro ps qs h
  induction ps generalizing qs with
  | nil =>
    cases qs with
    | nil => rfl
    | cons q qs => simp at h
  | cons p ps ih =>
    cases qs with
    | nil => simp at h
    | cons q qs =>
      simp only [flatten_cons, List.cons.injEq] at h
      rw [Prod.ext h.1 h.2.1, ih h.2.2]

theorem flatten_map (f : Node → Node) (ps : List (Node × Node))
    : flatten (ps.map (Prod.map f f)) = (flatten ps).map f := by
  rw [map_flatten, flatten]
  rfl

theorem eq_map_pairs_iff {f : Node → Node} : flatten qs = (flatten ps).map f ↔
    qs = ps.map (Prod.map f f) := by
  rw [← flatten_map]
  exact flatten_injective.eq_iff

theorem forall₂_map_iff {cs ds : List Node} {R : Node → Node → Prop} {f : Node → Node}
    (h : ∀ c ∈ cs, ∀ d, R c d ↔ d = f c) : List.Forall₂ R cs ds ↔ ds = cs.map f := by
  induction cs generalizing ds with
  | nil => simp
  | cons c cs ih =>
    simp only [List.mem_cons, forall_eq_or_imp] at h
    rw [List.map_cons, List.forall₂_cons_left_iff]
    constructor
    . rintro ⟨d, ds, hd, hds, rfl⟩
      rw [(h.1 d).mp hd, (ih h.2).mp hds]
    . rintro rfl
      exact ⟨f c, cs.map f, (h.1 _).mpr rfl, (ih h.2).mpr rfl, rfl⟩

/-- Sorting is the one way to put the pairs of a tree in order and to leave all else alone. -/
theorem arranged_iff_eq_sortRoot [TransCmp nested] (cmp : Comparator) [TransCmp cmp] (n n' : Node)
    : Arranged nested cmp n n' ↔ n' = sortRoot cmp nested n := by
  induction n using Node.induction_on_children generalizing cmp n' with
  | h n ih =>
    -- below the root the order is the same at all depths, so the hypothesis is about `nested` twice
    have hchildren (ds : List Node) : List.Forall₂ (Arranged nested nested) n.children ds ↔
        ds = n.children.map (sortNested nested) :=
      forall₂_map_iff fun c hc d => by rw [ih c hc nested d, sortRoot_self]
    match n with
    | .scalar _ _ _ => exact arranged_scalar_iff
    | .alias _ _ _ => exact arranged_alias_iff
    | .sequence i flow items =>
      rw [Node.children] at hchildren
      simp only [arranged_sequence_iff, sortRoot_sequence, hchildren, exists_eq_left]
    | .mapping i flow ps =>
      rw [Node.children] at hchildren
      simp only [arranged_mapping_iff, sortRoot_mapping, hchildren, eq_map_pairs_iff,
        stablySorted_iff,
        exists_and_left, exists_eq_left]

/-- The order of texts by their bytes. -/
def bytewise : Comparator := List.compareLex compare

instance : TransCmp bytewise := inferInstanceAs (TransCmp (List.compareLex compare))

/-- A string without quotes. -/
def wordNode (value : Text) : Node := .scalar { tag := Tag.str } value .plain

/--
Keys that are collections tie; a mapping that is a key or an item has the order of mappings below
the root.
-/
theorem arranged_keys_and_items
    : TransCmp bytewise ∧ TransCmp (Order.byKeywords ["b"] bytewise) ∧
      Arranged bytewise (Order.byKeywords ["b"] bytewise)
        (.mapping {} false
          [(.sequence {} true [], wordNode "p"),
            (.mapping {} true [(wordNode "b", wordNode "x"), (wordNode "a", .alias {} "n" 0)],
              wordNode "q"),
            (wordNode "a", .sequence { anchor := some ⟨"n", 0⟩ } false
            [.mapping {} false [(wordNode "b", wordNode "1"), (wordNode "a", wordNode "2")]]),
          (wordNode "b", wordNode "r")])
      (.mapping {} false
        [(wordNode "b", wordNode "r"),
          (.sequence {} true [], wordNode "p"),
          (.mapping {} true [(wordNode "a", .alias {} "n" 0), (wordNode "b", wordNode "x")],
          wordNode "q"),
          (wordNode "a", .sequence { anchor := some ⟨"n", 0⟩ } false
            [.mapping {} false [(wordNode "a", wordNode "2"), (wordNode "b", wordNode "1")]])]) :=
              by
  refine ⟨inferInstance, inferInstance, (arranged_iff_eq_sortRoot _ _ _).mpr ?_⟩
  have hnested : bytewise "b" "a" = .gt := by decide
  have htie : Order.byKeywords ["b"] bytewise [] [] = .eq := by decide
  have hkeys : Order.byKeywords ["b"] bytewise [] "a" = .lt := by decide
  have hkeyword : Order.byKeywords ["b"] bytewise [] "b" = .gt := by decide
  have hkeyword' : Order.byKeywords ["b"] bytewise "a" "b" = .gt := by decide
  simp [wordNode, sortRoot, sortBoth, sortNested, sortItems, sortPairs, List.mergeSort,
    List.MergeSort.Internal.splitInTwo, Node.keyText, hnested, htie, hkeys, hkeyword, hkeyword']

end Tree
end YamlOrder
