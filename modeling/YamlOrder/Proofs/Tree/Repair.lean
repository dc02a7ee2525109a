import YamlOrder.Proofs.Tree.Linked
import YamlOrder.Proofs.Tree.Walk

/-!
This module contains the meaning of a document tree: what it looks like when every alias is replaced
by the node that it stands for, told by its number, or by its name if no name is given twice. The
repair of anchors ends, no alias comes before its name, no anchor is lost, and the tree means what
it meant before.
-/

namespace YamlOrder
namespace Tree

open Yaml
open Node (nodes)

variable {root fixed n n' d d' : Node} {a : Anchor} {name : Text}

/-- The node with a name. -/
def definition? (root : Node) (name : Text) : Option Node :=
  root.preorder.find? (·.anchor.any (·.name == name))

/-- A node, or for an alias the node with its name. -/
def resolve (root : Node) : Node → Node
  | .alias i name target => (definition? root name).getD (.alias i name target)
  | n => n

/-- A node, or for an alias the node with its number. -/
def follow (root : Node) : Node → Node
  | .alias i name target => (findAnchor? target root).getD (.alias i name target)
  | n => n

/-- A tree without aliases that is cut at some depth. -/
inductive Expansion where
  | cut
  | node (head : Node) (children : List Expansion)

/--
A node with every alias replaced by the node with its name, down to some depth. Comments and places
in the source are left out.
-/
def expand (root : Node) : Nat → Node → Expansion
  | 0, _ => .cut
  | depth + 1, n =>
    .node (resolve root n).head ((resolve root n).children.map (expand root depth))

/--
A node with every alias replaced by the node with its number, down to some depth. Comments and
places in the source are left out.
-/
def expandLinks (root : Node) : Nat → Node → Expansion
  | 0, _ => .cut
  | depth + 1, n => .node (follow root n).head
      ((follow root n).children.map (expandLinks root depth))

/-- A node with the head of another one, whose children match those of the other one. -/
def Renews (root d n' : Node) : Prop :=
  n'.head = d.head ∧ List.Forall₂ (Matches root) d.children n'.children

theorem preorder_subset_of_mem_children {c : Node} (hc : c ∈ d.children)
    : c.preorder ⊆ d.preorder := by
  intro x hx
  exact Node.nodes_children_subset d (Node.mem_nodes.mpr ⟨c, hc, hx⟩)

theorem StandsFor.mem (h : StandsFor root n d) (hn : n.preorder ⊆ root.preorder)
    : d ∈ root.preorder := by
  obtain ⟨-, rfl⟩ | ⟨_, _, -, hd, -⟩ := h
  . exact hn (Node.self_mem_preorder d)
  . exact hd

theorem StandsFor.isAlias_eq_false (h : StandsFor root n d) : d.isAlias = false := by
  obtain ⟨hn, rfl⟩ | ⟨_, _, -, -, ha⟩ := h
  . exact hn
  . exact Node.isAlias_eq_false_of_anchor ha

theorem exists_mem_of_forall₂ {α β : Type} {r : α → β → Prop} {xs : List α} {ys : List β} {y : β}
    (h : List.Forall₂ r xs ys) (hy : y ∈ ys) : ∃ x ∈ xs, r x y := by
  induction h with
  | nil => simp at hy
  | cons hxy _ ih =>
    cases hy with
    | head => exact ⟨_, List.mem_cons_self, hxy⟩
    | tail _ hy =>
      obtain ⟨x, hx, hr⟩ := ih hy
      exact ⟨x, List.mem_cons_of_mem _ hx, hr⟩

theorem map_eq_of_forall₂ {α β γ : Type} {r : α → β → Prop} {xs : List α} {ys : List β} {f : α → γ}
    {g : β → γ} (h : List.Forall₂ r xs ys) (hfg : ∀ x ∈ xs, ∀ y, r x y → g y = f x)
    : ys.map g = xs.map f := by
  induction h with
  | nil => rfl
  | cons hxy _ ih =>
    simp only [List.mem_cons, forall_eq_or_imp] at hfg
    rw [List.map_cons, List.map_cons, hfg.1 _ hxy, ih hfg.2]

theorem Matches.exists_renews (h : Matches root n n') (hn : n.preorder ⊆ root.preorder)
    : ∀ x ∈ n'.preorder, x.isAlias = false → ∃ d ∈ root.preorder, Renews root d x := by
  induction n' using Node.induction_on_children generalizing n with
  | h n' ih =>
    intro x hx halias
    cases h with
    | link =>
      obtain rfl : x = _ := by simpa [Node.preorder] using hx
      simp [Node.isAlias] at halias
    | leave =>
      obtain rfl : x = _ := by simpa [Node.preorder] using hx
      simp [Node.isAlias] at halias
    | renew hstands hhead hchildren =>
      have hd := hstands.mem hn
      rw [Node.preorder_eq, List.mem_cons] at hx
      cases hx with
      | inl hx => exact ⟨_, hd, hx ▸ hhead, hx ▸ hchildren⟩
      | inr hx =>
        obtain ⟨c', hc', hx⟩ := Node.mem_nodes.mp hx
        obtain ⟨c, hc, hmatch⟩ := exists_mem_of_forall₂ hchildren hc'
        refine ih c' hc' hmatch ?_ x hx halias
        exact List.Subset.trans (preorder_subset_of_mem_children hc)
          (Node.preorder_subset_of_mem hd)

theorem definition?_eq_some (h : definition? root name = some d)
    : d ∈ root.preorder ∧ ∃ a, d.anchor = some a ∧ a.name = name := by
  refine ⟨List.mem_of_find?_eq_some h, ?_⟩
  have := List.find?_some h
  simpa [Option.any_eq_true] using this

theorem isSome_definition? (ha : a ∈ root.anchors) : (definition? root a.name).isSome = true := by
  obtain ⟨d, hd, hanchor⟩ := Node.mem_anchors.mp ha
  rw [definition?, List.find?_isSome]
  exact ⟨d, hd, by simp [hanchor]⟩

theorem definition?_of_nodup (hnames : (root.anchors.map (·.name)).Nodup) (hd : d ∈ root.preorder)
    (ha : d.anchor = some a) : definition? root a.name = some d := by
  obtain ⟨e, he⟩ := Option.isSome_iff_exists.mp
    (isSome_definition? (Node.mem_anchors.mpr ⟨d, hd, ha⟩))
  obtain ⟨hmem, b, hb, hname⟩ := definition?_eq_some he
  rw [he, eq_of_nodup_filterMap hnames hmem hd hb ha hname]

theorem findAnchor?_of_mem (h : Linked root) (hd : d ∈ root.preorder) (ha : d.anchor = some a)
    : findAnchor? a.number root = some d := by
  obtain ⟨e, he⟩ := Option.isSome_iff_exists.mp
    (isSome_findAnchor? (Node.mem_anchors.mpr ⟨d, hd, ha⟩))
  obtain ⟨hmem, b, hb, hnumber⟩ := findAnchor?_eq_some he
  rw [he, h.node_eq hmem hd hb ha hnumber]

theorem Matches.target (h : Matches root n n') (hlinked : Linked root)
    (hn : n.preorder ⊆ root.preorder)
    : ∀ i name target, .alias i name target ∈ n'.preorder → ⟨name, target⟩ ∈ root.anchors := by
  induction n' using Node.induction_on_children generalizing n with
  | h n' ih =>
    intro i name target hx
    have hself := hn (Node.self_mem_preorder n)
    cases h with
    | link =>
      simp only [Node.preorder, List.mem_singleton, Node.alias.injEq] at hx
      obtain ⟨-, rfl, rfl⟩ := hx
      exact hlinked.target _ _ _ hself
    | leave _ ha =>
      simp only [Node.preorder, List.mem_singleton, Node.alias.injEq] at hx
      obtain ⟨-, rfl, rfl⟩ := hx
      exact Node.mem_anchors.mpr ⟨n, hself, ha⟩
    | renew hstands hhead hchildren =>
      have hd := hstands.mem hn
      rw [Node.preorder_eq, List.mem_cons] at hx
      cases hx with
      | inl hx =>
        have halias := Node.isAlias_eq_of_head_eq hhead
        rw [hstands.isAlias_eq_false, ← hx] at halias
        simp [Node.isAlias] at halias
      | inr hx =>
        obtain ⟨c', hc', hx⟩ := Node.mem_nodes.mp hx
        obtain ⟨c, hc, hmatch⟩ := exists_mem_of_forall₂ hchildren hc'
        refine ih c' hc' hmatch ?_ i name target hx
        exact List.Subset.trans (preorder_subset_of_mem_children hc)
          (Node.preorder_subset_of_mem hd)

theorem Matches.linked (hroot : Matches root root fixed) (hlinked : Linked root)
    (hperm : fixed.anchors.Perm root.anchors) : Linked fixed where
  nodup := (hperm.map _).nodup_iff.mpr hlinked.nodup
  target i name target hx :=
    hperm.mem_iff.mpr (hroot.target hlinked (List.Subset.refl _) i name target hx)

theorem exists_findAnchor?_renews (hlinked : Linked root) (hroot : Matches root root fixed)
    (hperm : fixed.anchors.Perm root.anchors) (hd : d ∈ root.preorder) (ha : d.anchor = some a)
    : ∃ d', findAnchor? a.number fixed = some d' ∧ Renews root d d' := by
  have hmem : a ∈ fixed.anchors := hperm.mem_iff.mpr (Node.mem_anchors.mpr ⟨d, hd, ha⟩)
  obtain ⟨d', hd'⟩ := Option.isSome_iff_exists.mp (isSome_findAnchor? hmem)
  obtain ⟨hmem', b, hb, hnumber⟩ := findAnchor?_eq_some hd'
  obtain ⟨e, he, hrenews⟩ := hroot.exists_renews (List.Subset.refl _) d' hmem'
    (Node.isAlias_eq_false_of_anchor hb)
  -- the node that the result has under this number was there before, under the same number
  have heb : e.anchor = some b := by
    rw [← Node.anchor_eq_of_head_eq hrenews.1, hb]
  obtain rfl := hlinked.node_eq he hd heb ha hnumber
  exact ⟨d', hd', hrenews⟩

theorem follow_of_not_alias (h : n.isAlias = false) : follow root n = n := by
  cases n
  all_goals simp_all [Node.isAlias, follow]

theorem follow_alias {i : NodeInfo} {target : Nat} (h : findAnchor? target root = some d)
    : follow root (.alias i name target) = d := by
  simp [follow, h]

theorem Matches.renews_follow (h : Matches root n n') (hn : n.preorder ⊆ root.preorder)
    (hlinked : Linked root) (hroot : Matches root root fixed)
    (hperm : fixed.anchors.Perm root.anchors)
    : follow root n ∈ root.preorder ∧ Renews root (follow root n) (follow fixed n') := by
  have hself := hn (Node.self_mem_preorder n)
  cases h with
  | link i i' name target =>
    obtain ⟨d, hd, ha⟩ := Node.mem_anchors.mp (hlinked.target i name target hself)
    obtain ⟨d', hd', hrenews⟩ := exists_findAnchor?_renews hlinked hroot hperm hd ha
    rw [follow_alias (findAnchor?_of_mem hlinked hd ha), follow_alias hd']
    exact ⟨hd, hrenews⟩
  | leave i ha =>
    obtain ⟨d', hd', hrenews⟩ := exists_findAnchor?_renews hlinked hroot hperm hself ha
    rw [follow_of_not_alias (Node.isAlias_eq_false_of_anchor ha), follow_alias hd']
    exact ⟨hself, hrenews⟩
  | renew hstands hhead hchildren =>
    have hd := hstands.mem hn
    have halias := Node.isAlias_eq_of_head_eq hhead
    rw [hstands.isAlias_eq_false] at halias
    rw [follow_of_not_alias halias]
    obtain ⟨hnalias, rfl⟩ | ⟨i, a, rfl, -, ha⟩ := hstands
    . rw [follow_of_not_alias hnalias]
      exact ⟨hd, hhead, hchildren⟩
    . rw [follow_alias (findAnchor?_of_mem hlinked hd ha)]
      exact ⟨hd, hhead, hchildren⟩

theorem Matches.expandLinks_eq (h : Matches root n n') (hn : n.preorder ⊆ root.preorder)
    (hlinked : Linked root) (hroot : Matches root root fixed)
    (hperm : fixed.anchors.Perm root.anchors) (depth : Nat)
    : expandLinks fixed depth n' = expandLinks root depth n := by
  induction depth generalizing n n' with
  | zero => rfl
  | succ depth ih =>
    obtain ⟨hd, hhead, hchildren⟩ := h.renews_follow hn hlinked hroot hperm
    rw [expandLinks, expandLinks, hhead]
    congr 1
    apply map_eq_of_forall₂ hchildren
    intro c hc c' hmatch
    apply ih hmatch
    exact List.Subset.trans (preorder_subset_of_mem_children hc) (Node.preorder_subset_of_mem hd)

theorem resolve_eq_follow (hlinked : Linked root) (hnames : (root.anchors.map (·.name)).Nodup)
    (hn : ∀ i name target, n = .alias i name target → ⟨name, target⟩ ∈ root.anchors)
    : resolve root n = follow root n := by
  match n with
  | .scalar _ _ _ => rfl
  | .sequence _ _ _ => rfl
  | .mapping _ _ _ => rfl
  | .alias i name target =>
    obtain ⟨d, hd, ha⟩ := Node.mem_anchors.mp (hn i name target rfl)
    simp only [resolve, follow, definition?_of_nodup hnames hd ha, findAnchor?_of_mem hlinked hd ha,
      Option.getD_some]

theorem Matches.renews_resolve (h : Matches root n n') (hn : n.preorder ⊆ root.preorder)
    (hlinked : Linked root) (hroot : Matches root root fixed)
    (hperm : fixed.anchors.Perm root.anchors) (hnames : (root.anchors.map (·.name)).Nodup)
    : resolve root n ∈ root.preorder ∧ Renews root (resolve root n) (resolve fixed n') := by
  have hself := hn (Node.self_mem_preorder n)
  have hself' := Node.self_mem_preorder n'
  rw [resolve_eq_follow hlinked hnames fun i name target heq =>
    hlinked.target i name target (heq ▸ hself),
    resolve_eq_follow (hroot.linked hlinked hperm) ((hperm.map _).nodup_iff.mpr hnames)
      fun i name target heq => hperm.mem_iff.mpr (h.target hlinked hn i name target (heq ▸ hself'))]
  exact h.renews_follow hn hlinked hroot hperm

theorem Matches.expand_eq (h : Matches root n n') (hn : n.preorder ⊆ root.preorder)
    (hlinked : Linked root) (hroot : Matches root root fixed)
    (hperm : fixed.anchors.Perm root.anchors) (hnames : (root.anchors.map (·.name)).Nodup)
    (depth : Nat)
    : expand fixed depth n' = expand root depth n := by
  induction depth generalizing n n' with
  | zero => rfl
  | succ depth ih =>
    obtain ⟨hd, hhead, hchildren⟩ := h.renews_resolve hn hlinked hroot hperm hnames
    rw [expand, expand, hhead]
    congr 1
    apply map_eq_of_forall₂ hchildren
    intro c hc c' hmatch
    apply ih hmatch
    exact List.Subset.trans (preorder_subset_of_mem_children hc) (Node.preorder_subset_of_mem hd)

theorem fixWithin_walked (h : Linked root)
    : ∃ n' m', (∀ bound ≥ root.anchors.length, fixWithin bound root = n') ∧
        Walked root [] {} [] [root] [n'] m' := by
  have hbound : root.anchors.length ≤ root.anchors.length + ({} : Moves).moved.length :=
    Nat.le_add_right _ _
  obtain ⟨n', m', hvisit, hwalked⟩ := visit_walked h (fun j _ d => settled h j d)
    (settled h root.anchors.length root) (pending_root root) hbound
  refine ⟨n', m', ?_, hwalked⟩
  intro bound hle
  rw [fixWithin, hvisit bound hle]

theorem Ordered.name_mem {written : List Anchor} {before after : List Node} {i : NodeInfo}
    {name : Text} {target : Nat} (h : Ordered written (before ++ .alias i name target :: after))
    : name ∈ (written ++ before.filterMap Node.anchor).map (·.name) := by
  rw [ordered_append] at h
  exact h.2.1 i name target rfl

theorem exists_anchor_of_ordered {before after : List Node} {i : NodeInfo} {name : Text}
    {target : Nat} (h : Ordered [] (before ++ .alias i name target :: after))
    : ∃ n ∈ before, ∃ a, n.anchor = some a ∧ a.name = name := by
  obtain ⟨a, ha, hname⟩ := List.mem_map.mp h.name_mem
  obtain ⟨n, hn, hanchor⟩ := List.mem_filterMap.mp ha
  exact ⟨n, hn, a, hanchor, hname⟩

/--
The repair of anchors keeps a tree loadable and its meaning. It ends, since no bound above the
number of anchors makes a difference; a node with its name comes before every alias; the names of
the nodes are the same ones; and if they are distinct, the tree is the same down to every depth when
aliases are replaced by the nodes with their names. All of this also holds after sorting, which
leaves a tree linked.
-/
theorem fixAnchors_repairs (root : Node) (h : Linked root)
    : (∀ bound ≥ root.anchors.length, fixWithin bound root = fixAnchors root) ∧
      (∀ before i name target after,
        (fixAnchors root).preorder = before ++ .alias i name target :: after →
          ∃ n ∈ before, ∃ a, n.anchor = some a ∧ a.name = name) ∧
      ((fixAnchors root).anchors.map (·.name)).Perm (root.anchors.map (·.name)) ∧
      ((root.anchors.map (·.name)).Nodup →
        ∀ depth, expand (fixAnchors root) depth (fixAnchors root) = expand root depth root) ∧
      ∀ top nested, Linked (sortRoot top nested root) := by
  obtain ⟨n', m', hbound, hwalked⟩ := fixWithin_walked h
  have hfix : fixAnchors root = n' := hbound _ (Nat.le_refl _)
  rw [hfix]
  have hperm : n'.anchors.Perm root.anchors := by
    simpa [Node.anchors] using hwalked.pending.perm
  have hmatch : Matches root root n' := by
    cases hwalked.matched with
    | cons hmatch _ => exact hmatch
  refine ⟨hbound, ?_, hperm.map _, ?_, fun top nested => h.sortRoot top nested⟩
  . intro before i name target after hsplit
    have hordered := hwalked.ordered
    rw [Node.nodes_cons, Node.nodes_nil, List.append_nil, hsplit] at hordered
    exact exists_anchor_of_ordered hordered
  . intro hnames depth
    exact hmatch.expand_eq (List.Subset.refl _) h hmatch hperm hnames depth

/-- A sorted mapping whose aliases come before a node and before another one inside of it. -/
def crossed : Node :=
  .mapping {} false
    [(.scalar {} "a" .plain, .alias {} "y" 1), (.scalar {} "b" .plain, .alias {} "x" 0),
      (.scalar {} "c" .plain,
        .sequence { anchor := some ⟨"x", 0⟩ } false
          [.scalar { anchor := some ⟨"y", 1⟩ } "z" .plain, .alias {} "y" 1])]

/-- Both nodes of the mapping move, the inner one first. -/
theorem fixAnchors_repairs_crossed
    : Linked crossed ∧ (crossed.anchors.map (·.name)).Nodup ∧
      (fixAnchors crossed).anchors = [⟨"y", 1⟩, ⟨"x", 0⟩] ∧
      ((fixAnchors crossed).anchors.map (·.name)).Perm (crossed.anchors.map (·.name)) ∧
      ∀ depth, expand (fixAnchors crossed) depth
      (fixAnchors crossed) = expand crossed depth crossed := by
  have hlinked : Linked crossed := by decide
  have hnames : (crossed.anchors.map (·.name)).Nodup := by decide
  obtain ⟨-, -, hperm, hexpand, -⟩ := fixAnchors_repairs crossed hlinked
  exact ⟨hlinked, hnames, by decide, hperm, hexpand hnames⟩

end Tree
end YamlOrder
