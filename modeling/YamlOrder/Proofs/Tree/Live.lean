import Mathlib.Data.List.Nodup
import Mathlib.Data.List.Perm.Basic
import YamlOrder.Proofs.Tree.Children

/-!
This module contains the anchors that a walk over a tree still meets when some nodes have left their
places: a node that has left is not walked over, and neither is what was below it.
-/

namespace YamlOrder
namespace Tree

open Yaml
open Node (nodes induction_on_children sizeOf_lt_of_mem_children)

variable {moved : List Nat} {n d : Node} {ns : List Node} {a : Anchor} {number : Nat}

/-- A node whose number is among those of the nodes that have left their places. -/
def Gone (moved : List Nat) (n : Node) : Prop := ∃ a, n.anchor = some a ∧ a.number ∈ moved

instance : Decidable (Gone moved n) :=
  decidable_of_iff (n.anchor.any fun a => decide (a.number ∈ moved))
  (by simp [Gone, Option.any_eq_true])

/--
The anchors that a walk over a node meets when the nodes of some numbers have left their places.
-/
def live (moved : List Nat) (n : Node) : List Anchor :=
  if Gone moved n then [] else n.anchor.toList ++ n.children.attach.flatMap fun c => live moved c.1
termination_by sizeOf n
decreasing_by exact sizeOf_lt_of_mem_children c.2

/-- The anchors that a walk over several nodes meets. -/
def liveAll (moved : List Nat) (ns : List Node) : List Anchor := ns.flatMap (live moved)

@[simp]
theorem liveAll_nil (moved : List Nat) : liveAll moved [] = [] := rfl

@[simp]
theorem liveAll_cons (moved : List Nat) (n : Node) (ns : List Node)
    : liveAll moved (n :: ns) = live moved n ++ liveAll moved ns := by
  simp [liveAll]

@[simp]
theorem liveAll_append (moved : List Nat) (ns ms : List Node)
    : liveAll moved (ns ++ ms) = liveAll moved ns ++ liveAll moved ms := by
  simp [liveAll]

theorem live_of_gone (h : Gone moved n) : live moved n = [] := by
  rw [live, if_pos h]

theorem live_of_not_gone (h : ¬ Gone moved n)
    : live moved n = n.anchor.toList ++ liveAll moved n.children := by
  rw [live, if_neg h, liveAll]
  simp

theorem liveAll_congr {moved' : List Nat} (h : ∀ n ∈ ns, live moved' n = live moved n)
    : liveAll moved' ns = liveAll moved ns := by
  induction ns with
  | nil => rfl
  | cons n ns ih =>
    simp only [List.mem_cons, forall_eq_or_imp] at h
    rw [liveAll_cons, liveAll_cons, h.1, ih h.2]

theorem live_nil (n : Node) : live [] n = n.anchors := by
  induction n using induction_on_children with
  | h n ih =>
    have hn : ¬ Gone [] n := by simp [Gone]
    rw [live_of_not_gone hn, Node.anchors_eq, Node.filterMap_nodes]
    congr 1
    exact List.flatMap_congr ih

theorem live_move_of_not_mem (h : number ∉ (live moved n).map (·.number))
    : live (number :: moved) n = live moved n := by
  induction n using induction_on_children with
  | h n ih =>
    by_cases hgone : Gone moved n
    . have hgone' : Gone (number :: moved) n := by
        obtain ⟨a, ha, hmem⟩ := hgone
        exact ⟨a, ha, List.mem_cons_of_mem _ hmem⟩
      rw [live_of_gone hgone, live_of_gone hgone']
    . rw [live_of_not_gone hgone] at h
      have hgone' : ¬ Gone (number :: moved) n := by
        rintro ⟨a, ha, hmem⟩
        rw [List.mem_cons] at hmem
        cases hmem with
        | inl heq => exact h (by simp [ha, heq])
        | inr hmem => exact hgone ⟨a, ha, hmem⟩
      rw [live_of_not_gone hgone, live_of_not_gone hgone']
      congr 1
      apply liveAll_congr
      intro c hc
      apply ih c hc
      intro hmem
      apply h
      rw [List.map_append, List.mem_append]
      right
      obtain ⟨b, hb, hnum⟩ := List.mem_map.mp hmem
      exact List.mem_map.mpr ⟨b, List.mem_flatMap.mpr ⟨c, hc, hb⟩, hnum⟩

theorem liveAll_move_of_not_mem (h : number ∉ (liveAll moved ns).map (·.number))
    : liveAll (number :: moved) ns = liveAll moved ns := by
  apply liveAll_congr
  intro n hn
  apply live_move_of_not_mem
  intro hmem
  obtain ⟨b, hb, hnum⟩ := List.mem_map.mp hmem
  exact h (List.mem_map.mpr ⟨b, List.mem_flatMap.mpr ⟨n, hn, hb⟩, hnum⟩)

theorem liveAll_perm_of_forall {below : List Anchor} (ha : a ∈ liveAll moved ns)
    (hnodup : ((liveAll moved ns).map (·.number)).Nodup)
    (hnode : ∀ n ∈ ns, a ∈ live moved n → ((live moved n).map (·.number)).Nodup →
      (live moved n).Perm (a :: (below ++ live (a.number :: moved) n)))
    : (liveAll moved ns).Perm (a :: (below ++ liveAll (a.number :: moved) ns)) := by
  induction ns with
  | nil => simp at ha
  | cons n ns ih =>
    simp only [List.mem_cons, forall_eq_or_imp] at hnode
    rw [liveAll_cons, List.map_append, List.nodup_append] at hnodup
    obtain ⟨hn, hns, hdisjoint⟩ := hnodup
    rw [liveAll_cons, List.mem_append] at ha
    rw [liveAll_cons, liveAll_cons]
    by_cases han : a ∈ live moved n
    . have hother : a.number ∉ (liveAll moved ns).map (·.number) := by
        intro hmem
        exact hdisjoint _ (List.mem_map_of_mem han) _ hmem rfl
      rw [liveAll_move_of_not_mem hother]
      refine ((hnode.1 han hn).append_right _).trans ?_
      simp
    . have hans := ha.resolve_left han
      have hother : a.number ∉ (live moved n).map (·.number) := by
        intro hmem
        exact hdisjoint _ hmem _ (List.mem_map_of_mem hans) rfl
      rw [live_move_of_not_mem hother]
      -- the anchor comes from further behind
      refine ((ih hans hns hnode.2).append_left _).trans ?_
      refine List.perm_middle.trans (List.Perm.cons a ?_)
      rw [← List.append_assoc, ← List.append_assoc]
      exact List.perm_append_comm.append_right _

theorem live_move_perm (hd : d.anchor = some a) (ha : a ∈ live moved n)
    (hnodup : ((live moved n).map (·.number)).Nodup)
    (hunique : ∀ c ∈ n.preorder, ∀ b, c.anchor = some b → b.number = a.number → c = d)
    : (live moved n).Perm
        (a :: (liveAll (a.number :: moved) d.children ++ live (a.number :: moved) n)) := by
  induction n using induction_on_children with
  | h n ih =>
    by_cases hgone : Gone moved n
    . simp [live_of_gone hgone] at ha
    . by_cases hleaves : Gone (a.number :: moved) n
      . -- the node itself leaves
        obtain ⟨b, hb, hmem⟩ := hleaves
        have hnumber : b.number = a.number := by
          rw [List.mem_cons] at hmem
          exact hmem.resolve_right fun hmem => hgone ⟨b, hb, hmem⟩
        obtain rfl := hunique n (Node.self_mem_preorder n) b hb hnumber
        rw [hd] at hb
        obtain rfl : a = b := by simpa using hb
        rw [live_of_not_gone hgone, hd] at hnodup ⊢
        rw [live_of_gone ⟨a, hd, List.mem_cons_self⟩]
        simp only [Option.toList_some, List.singleton_append, List.map_cons,
          List.nodup_cons] at hnodup ⊢
        rw [liveAll_move_of_not_mem hnodup.1, List.append_nil]
      . have hother : ¬ a ∈ n.anchor.toList := by
          intro hmem
          exact hleaves ⟨a, by simpa using hmem, List.mem_cons_self⟩
        rw [live_of_not_gone hgone] at ha hnodup
        rw [live_of_not_gone hgone, live_of_not_gone hleaves]
        rw [List.map_append, List.nodup_append] at hnodup
        have ha := (List.mem_append.mp ha).resolve_left hother
        have hbelow := liveAll_perm_of_forall ha hnodup.2.1 fun c hc hac hcnodup =>
          ih c hc hac hcnodup fun x hx =>
            hunique x (Node.nodes_children_subset n (Node.mem_nodes.mpr ⟨c, hc, hx⟩))
        refine (hbelow.append_left _).trans ?_
        refine List.perm_middle.trans (List.Perm.cons a ?_)
        rw [← List.append_assoc, ← List.append_assoc]
        exact List.perm_append_comm.append_right _

/--
When a node leaves its place, the walk meets its anchor and what is below it elsewhere, and
everything else as before.
-/
theorem liveAll_move_perm (hd : d.anchor = some a) (ha : a ∈ liveAll moved ns)
    (hnodup : ((liveAll moved ns).map (·.number)).Nodup)
    (hunique : ∀ c ∈ nodes ns, ∀ b, c.anchor = some b → b.number = a.number → c = d)
    : (liveAll moved ns).Perm
        (a :: liveAll (a.number :: moved) (d.children ++ ns)) := by
  rw [liveAll_append]
  refine liveAll_perm_of_forall ha hnodup fun n hn han hnnodup => ?_
  exact live_move_perm hd han hnnodup fun c hc => hunique c (Node.mem_nodes.mpr ⟨n, hn, hc⟩)

end Tree
end YamlOrder
