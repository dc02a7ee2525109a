import YamlOrder.Proofs.Tree.Linked
import YamlOrder.Proofs.Tree.Live

/-!
This module contains what one step of the repair of anchors does. At every moment the anchors that
have been written and those that the rest of the walk meets are the anchors of the tree.
-/

namespace YamlOrder
namespace Tree

open Yaml
open Node (nodes)

variable {root n d : Node} {rest : List Node} {written : List Anchor} {m : Moves} {a : Anchor}
variable {name : Text} {target : Nat}

/--
A moment of the walk: some anchors have been written, and some nodes are still to be walked over.
Nothing is lost and nothing is met twice.
-/
structure Pending (root : Node) (written : List Anchor) (m : Moves) (rest : List Node) : Prop where
  perm : (written ++ liveAll m.moved rest).Perm root.anchors
  defined : ∀ name, name ∈ m.defined ↔ name ∈ written.map (·.name)
  moved : ∀ number ∈ m.moved, number ∈ written.map (·.number)
  nodup : m.moved.Nodup
  subset : nodes rest ⊆ root.preorder

theorem Moves.left?_eq_none_iff : m.left? n = none ↔ ¬ Gone m.moved n := by
  unfold left? Gone
  cases n.anchor with
  | none => simp
  | some a => simp

theorem Moves.left?_eq_some_iff : m.left? n = some a ↔ n.anchor = some a ∧ a.number ∈ m.moved := by
  unfold left?
  simp [Option.filter_eq_some_iff]

theorem Moves.moved_define (m : Moves) (a : Option Anchor) : (m.define a).moved = m.moved := by
  cases a
  all_goals rfl

theorem Moves.mem_defined_define (m : Moves) (a : Option Anchor) (name : Text)
    : name ∈ (m.define a).defined ↔ name ∈ a.toList.map (·.name) ∨ name ∈ m.defined := by
  cases a
  all_goals simp [define]

theorem pending_root (root : Node) : Pending root [] {} [root] := by
  constructor
  . simp [live_nil]
  . simp
  . simp
  . simp
  . simp

theorem Pending.define (h : Pending root written m (n :: rest)) (hleft : m.left? n = none)
    : Pending root (written ++ n.anchor.toList) (m.define n.anchor) (n.children ++ rest) := by
  rw [Moves.left?_eq_none_iff] at hleft
  constructor
  . rw [Moves.moved_define, liveAll_append]
    have := h.perm
    rw [liveAll_cons, live_of_not_gone hleft] at this
    simpa using this
  . intro name
    rw [Moves.mem_defined_define, h.defined, List.map_append, List.mem_append, Or.comm]
  . intro number hnumber
    rw [Moves.moved_define] at hnumber
    rw [List.map_append]
    exact List.mem_append_left _ (h.moved number hnumber)
  . rw [Moves.moved_define]
    exact h.nodup
  . have := h.subset
    rw [Node.nodes_cons, List.append_subset] at this
    rw [Node.nodes_append, List.append_subset]
    exact ⟨List.Subset.trans (Node.nodes_children_subset n) this.1, this.2⟩

theorem Pending.leave (h : Pending root written m (n :: rest)) (hleft : m.left? n = some a)
    : Pending root written m rest := by
  have hgone : Gone m.moved n := ⟨a, Moves.left?_eq_some_iff.mp hleft⟩
  constructor
  . have := h.perm
    rwa [liveAll_cons, live_of_gone hgone, List.nil_append] at this
  . exact h.defined
  . exact h.moved
  . exact h.nodup
  . have := h.subset
    rw [Node.nodes_cons, List.append_subset] at this
    exact this.2

theorem Pending.keep (h : Pending root written m (n :: rest)) (halias : n.isAlias = true)
    : Pending root written m rest := by
  have hlive : live m.moved n = [] := by
    cases n
    all_goals simp_all [Node.isAlias]
    rw [live_of_not_gone (by simp [Gone])]
    simp [Node.children]
  constructor
  . have := h.perm
    rwa [liveAll_cons, hlive, List.nil_append] at this
  . exact h.defined
  . exact h.moved
  . exact h.nodup
  . have := h.subset
    rw [Node.nodes_cons, List.append_subset] at this
    exact this.2

theorem Pending.written_subset (h : Pending root written m rest) : written ⊆ root.anchors := by
  intro a ha
  exact h.perm.mem_iff.mp (List.mem_append_left _ ha)

theorem Pending.name_mem_of_moved (h : Pending root written m rest) (hlinked : Linked root)
    (ha : a ∈ root.anchors) (hmoved : a.number ∈ m.moved) : a.name ∈ written.map (·.name) := by
  obtain ⟨b, hb, hnumber⟩ := List.mem_map.mp (h.moved a.number hmoved)
  obtain rfl := hlinked.anchor_eq (h.written_subset hb) ha hnumber
  exact List.mem_map_of_mem hb

theorem Moves.due?_eq_some (h : m.due? root target = some d)
    : target ∉ m.moved ∧ findAnchor? target root = some d ∧
        ∀ a, d.anchor = some a → a.name ∉ m.defined := by
  unfold due? at h
  split at h
  . simp at h
  . next hmoved =>
    rw [Option.filter_eq_some_iff] at h
    refine ⟨by simpa using hmoved, h.1, ?_⟩
    intro a ha
    simpa [ha] using h.2

theorem Moves.mem_of_due?_eq_none (hlinked : Linked root) (ha : a ∈ root.anchors)
    (h : m.due? root a.number = none) : a.number ∈ m.moved ∨ a.name ∈ m.defined := by
  unfold due? at h
  split at h
  . next hmoved => exact Or.inl (by simpa using hmoved)
  . obtain ⟨d, hd⟩ := Option.isSome_iff_exists.mp (isSome_findAnchor? ha)
    obtain ⟨hmem, b, hb, hnumber⟩ := findAnchor?_eq_some hd
    obtain rfl := hlinked.anchor_eq (Node.mem_anchors.mpr ⟨d, hmem, hb⟩) ha hnumber
    rw [hd, Option.filter_eq_none_iff] at h
    exact Or.inr (by simpa [hb] using h)

theorem Pending.name_mem_of_due?_eq_none (h : Pending root written m rest) (hlinked : Linked root)
    (ha : a ∈ root.anchors) (hdue : m.due? root a.number = none)
    : a.name ∈ written.map (·.name) := by
  cases Moves.mem_of_due?_eq_none hlinked ha hdue with
  | inl hmoved => exact h.name_mem_of_moved hlinked ha hmoved
  | inr hdefined => exact (h.defined _).mp hdefined

theorem Pending.move (h : Pending root written m rest) (hlinked : Linked root)
    (hdue : m.due? root target = some d)
    : Pending root (written ++ d.anchor.toList) ((m.move target).define d.anchor)
        (d.children ++ rest) := by
  obtain ⟨hmoved, hfind, hname⟩ := Moves.due?_eq_some hdue
  obtain ⟨hd, a, ha, rfl⟩ := findAnchor?_eq_some hfind
  -- the name of the node is new, so its anchor is not written yet and must be met later
  have hwritten : a ∉ written := by
    intro hmem
    exact hname a ha ((h.defined _).mpr (List.mem_map_of_mem hmem))
  have hlive : a ∈ liveAll m.moved rest := by
    have := h.perm.mem_iff.mpr (Node.mem_anchors.mpr ⟨d, hd, ha⟩)
    exact (List.mem_append.mp this).resolve_left hwritten
  have hnodup : ((liveAll m.moved rest).map (·.number)).Nodup := by
    have := (h.perm.map (·.number)).nodup_iff.mpr hlinked.nodup
    rw [List.map_append] at this
    exact this.of_append_right
  have hperm := liveAll_move_perm ha hlive hnodup fun c hc b hb hnumber =>
    hlinked.node_eq (h.subset hc) hd hb ha hnumber
  rw [ha]
  constructor
  . rw [Moves.moved_define]
    refine List.Perm.trans ?_ h.perm
    rw [Option.toList_some, List.append_assoc, List.singleton_append]
    exact (hperm.symm).append_left written
  . intro name
    rw [Moves.mem_defined_define, List.map_append, List.mem_append, ← h.defined, Or.comm]
    rfl
  . intro number hnumber
    rw [Moves.moved_define] at hnumber
    rw [List.map_append, List.mem_append]
    obtain rfl | hnumber := List.mem_cons.mp hnumber
    . exact Or.inr (by simp)
    . exact Or.inl (h.moved number hnumber)
  . rw [Moves.moved_define]
    exact List.nodup_cons.mpr ⟨hmoved, h.nodup⟩
  . rw [Node.nodes_append, List.append_subset]
    exact ⟨List.Subset.trans (Node.nodes_children_subset d)
      (Node.preorder_subset_of_mem hd), h.subset⟩

theorem Pending.length_moved_lt (h : Pending root written m rest)
    (hdue : m.due? root target = some d) : m.moved.length < root.anchors.length := by
  obtain ⟨hmoved, hfind, -⟩ := Moves.due?_eq_some hdue
  obtain ⟨hd, a, ha, rfl⟩ := findAnchor?_eq_some hfind
  -- the numbers that have moved and that of the node are different numbers of anchors
  have hnodup : (a.number :: m.moved).Nodup := List.nodup_cons.mpr ⟨hmoved, h.nodup⟩
  have hsubset : a.number :: m.moved ⊆ root.anchors.map (·.number) := by
    rw [List.cons_subset]
    refine ⟨List.mem_map_of_mem (Node.mem_anchors.mpr ⟨d, hd, ha⟩), ?_⟩
    intro number hnumber
    exact List.map_subset _ h.written_subset (h.moved number hnumber)
  have := (List.subperm_of_subset hnodup hsubset).length_le
  simp only [List.length_cons, List.length_map] at this
  omega

end Tree
end YamlOrder
