import YamlOrder.Proofs.Tree.Mention
import YamlOrder.Proofs.Tree.Repair

/-!
This module contains what the repair of anchors does to the aliases of a name that several nodes
have. Only the first of all nodes and aliases with the name can change anything: if it is an alias,
its node moves there.
-/

namespace YamlOrder
namespace Tree

open Yaml
open Node (nodes)
open Mention (definitions Bound)

variable {root n n' d : Node} {ns ns' : List Node} {name used : Text} {m m' m₁ : Moves} {a : Anchor}
variable {i : NodeInfo} {target k : Nat} {cs cs' ds ds' : List Mention}

/--
How far a walk has come with a name: it has not met it, or a node may have moved to its first alias.
-/
inductive Stage where
  | fresh
  | known (gone : Option Nat)

namespace Stage

def isKnown : Stage → Bool
  | .fresh => false
  | .known _ => true

def gone : Stage → Option Nat
  | .fresh => none
  | .known gone => gone

/-- The stage after a node or an alias with the name. -/
def after : Stage → Mention → Stage
  | .fresh, .define _ => .known none
  | .fresh, .use k => .known (some k)
  | .known gone, _ => .known gone

/-- What takes the place of a node or an alias with the name. -/
def write : Stage → Mention → Mention
  | .fresh, c => .define c.number
  | .known none, c => c
  | .known (some k), c => c.leave k

def run : Stage → List Mention → List Mention
  | _, [] => []
  | st, c :: cs => st.write c :: (st.after c).run cs

theorem run_append (st : Stage) (cs ds : List Mention)
    : st.run (cs ++ ds) = st.run cs ++ (cs.foldl after st).run ds := by
  induction cs generalizing st with
  | nil => rfl
  | cons c cs ih => simp only [List.cons_append, run, List.foldl_cons, ih]

theorem run_known (gone : Option Nat) (cs : List Mention)
    : (known gone).run cs = cs.map (known gone).write := by
  induction cs with
  | nil => rfl
  | cons c cs ih => rw [run, List.map_cons, after, ih]

theorem run_known_none (cs : List Mention) : (known none).run cs = cs := by
  rw [run_known]
  exact List.map_id cs

theorem bound_run_fresh_iff (hnodup : (definitions cs).Nodup)
    (huse : ∀ k, .use k ∈ cs → k ∈ definitions cs)
    : Bound none (fresh.run cs) ↔ Bound (definitions cs).head? cs := by
  cases cs with
  | nil => simp [run, Bound]
  | cons c cs =>
    cases c with
    | define k => simp only [run, write, after, Mention.number, run_known_none, Bound]
    | use k =>
      have hk : k ∈ definitions cs := huse k List.mem_cons_self
      have hmap : (known (some k)).write = Mention.leave k := rfl
      simp only [run, write, after, Mention.number, run_known, hmap, Bound, definitions,
        Mention.bound_map_leave_iff hk hnodup]
      grind

@[simp]
theorem isKnown_after (st : Stage) (c : Mention) : (st.after c).isKnown = true := by
  cases st
  all_goals
    cases c
    all_goals rfl

@[simp]
theorem gone_after_define (st : Stage) (k : Nat) : (st.after (.define k)).gone = st.gone := by
  cases st
  all_goals rfl

theorem after_of_isKnown {st : Stage} (h : st.isKnown = true) (c : Mention) : st.after c = st := by
  cases st with
  | fresh => simp [isKnown] at h
  | known gone => rfl

theorem write_define {st : Stage} (h : st.gone ≠ some k) : st.write (.define k) = .define k := by
  unfold write
  split
  . rfl
  . rfl
  . next gone =>
    have hne : k ≠ gone := by
      rintro rfl
      exact h rfl
    simp [Mention.leave, hne]

theorem write_gone {st : Stage} (h : st.gone = some k) : st.write (.define k) = .use k := by
  cases st with
  | fresh => simp [gone] at h
  | known gone' =>
    obtain rfl : gone' = some k := h
    simp [write, Mention.leave]

theorem write_use {st : Stage} (h : st.isKnown = true) : st.write (.use k) = .use k := by
  unfold write
  split
  . simp [isKnown] at h
  . rfl
  . rfl

/-- A moment of a walk at which a name has come to a stage. -/
structure At (root : Node) (name : Text) (m : Moves) (st : Stage) : Prop where
  defined : name ∈ m.defined ↔ st.isKnown = true
  moved : ∀ a ∈ root.anchors, a.name = name → (a.number ∈ m.moved ↔ st.gone = some a.number)
  aimed : ∀ k ∈ m.moved, ∃ a ∈ root.preorder.filterMap link?, a.number = k

variable {st : Stage}

theorem At.define (h : At root name m st) (hname : a.name = name)
    : At root name (m.define (some a)) (st.after (.define a.number)) := by
  refine ⟨?_, ?_, h.aimed⟩
  . simp [Moves.define, hname]
  . rw [gone_after_define]
    exact h.moved

theorem At.define_other (h : At root name m st) (hname : a.name ≠ name)
    : At root name (m.define (some a)) st := by
  refine ⟨?_, h.moved, h.aimed⟩
  rw [← h.defined]
  simp [Moves.define, Ne.symm hname]

theorem At.aimed_move (h : At root name m st) (hlink : .alias i used target ∈ root.preorder)
    : ∀ k ∈ (m.move target).moved, ∃ a ∈ root.preorder.filterMap link?, a.number = k := by
  intro k hk
  obtain rfl | hk := List.mem_cons.mp hk
  . exact ⟨⟨used, k⟩, mem_links.mpr ⟨i, hlink⟩, rfl⟩
  . exact h.aimed k hk

theorem At.move (h : At root name m .fresh) (hlink : .alias i name target ∈ root.preorder)
    : At root name ((m.move target).define (some ⟨name, target⟩)) (.known (some target)) := by
  refine ⟨by simp [Moves.define, isKnown], ?_, h.aimed_move hlink⟩
  intro a ha hname
  have hmoved : a.number ∉ m.moved := by
    rw [h.moved a ha hname]
    simp [gone]
  simp [Moves.define, Moves.move, gone, hmoved, eq_comm]

theorem At.move_other (h : At root name m st) (hlinked : Linked root)
    (hlink : .alias i used target ∈ root.preorder) (hused : used ≠ name)
    : At root name ((m.move target).define (some ⟨used, target⟩)) st := by
  apply At.define_other _ hused
  refine ⟨h.defined, ?_, h.aimed_move hlink⟩
  intro a ha hname
  have hne : a.number ≠ target := by
    rintro rfl
    have := hlinked.anchor_eq ha (hlinked.target i used a.number hlink) rfl
    rw [this] at hname
    exact hused hname
  rw [← h.moved a ha hname]
  simp [Moves.move, hne]

end Stage

/-- What a part of a walk does to the nodes and aliases with a name. -/
def Follows (root : Node) (name : Text) (m : Moves) (cs cs' : List Mention) (m' : Moves) : Prop :=
  ∀ st, Stage.At root name m st → Stage.At root name m' (cs.foldl Stage.after st) ∧ cs' = st.run cs

theorem Follows.nil (root : Node) (name : Text) (m : Moves) : Follows root name m [] [] m :=
  fun _ hst => ⟨hst, rfl⟩

theorem Follows.append (hcs : Follows root name m cs cs' m₁) (hds : Follows root name m₁ ds ds' m')
    : Follows root name m (cs ++ ds) (cs' ++ ds') m' := by
  intro st hst
  obtain ⟨hst₁, rfl⟩ := hcs st hst
  obtain ⟨hst', rfl⟩ := hds _ hst₁
  rw [List.foldl_append, Stage.run_append]
  exact ⟨hst', rfl⟩

theorem follows_keep (hlinked : Linked root) (hlink : .alias i used target ∈ root.preorder)
    (hdue : m.due? root target = none)
    : Follows root name m (mention? name (.alias i used target)).toList
        (mention? name (.alias i used target)).toList m := by
  by_cases hused : used = name
  . subst hused
    intro st hst
    have hanchor := hlinked.target i used target hlink
    have hknown : st.isKnown = true := by
      cases Moves.mem_of_due?_eq_none hlinked hanchor hdue with
      | inl hmoved =>
        have := (hst.moved _ hanchor rfl).mp hmoved
        cases st with
        | fresh => simp [Stage.gone] at this
        | known gone => rfl
      | inr hdefined => exact hst.defined.mp hdefined
    rw [mention?_alias_self]
    simp only [Option.toList_some, List.foldl_cons, List.foldl_nil, Stage.run,
      Stage.write_use hknown,
      Stage.after_of_isKnown hknown, and_true]
    exact hst
  . rw [mention?_alias_other hused]
    exact Follows.nil root name m

theorem follows_move (name : Text) (hlinked : Linked root)
    (hlink : .alias i used target ∈ root.preorder) (hdue : m.due? root target = some d)
    (hhead : n'.head = d.head)
    : d.anchor = some ⟨used, target⟩ ∧
        Follows root name m (mention? name (.alias i used target)).toList (mention? name n').toList
          ((m.move target).define d.anchor) := by
  obtain ⟨-, hfind, hnew⟩ := Moves.due?_eq_some hdue
  obtain ⟨hd, a, ha, hnumber⟩ := findAnchor?_eq_some hfind
  obtain rfl := hlinked.anchor_eq (Node.mem_anchors.mpr ⟨d, hd, ha⟩)
    (hlinked.target i used target hlink) hnumber
  refine ⟨ha, ?_⟩
  have ha' : n'.anchor = some ⟨used, target⟩ := by
    rw [Node.anchor_eq_of_head_eq hhead, ha]
  intro st hst
  rw [ha]
  by_cases hused : used = name
  . subst hused
    cases st with
    | fresh =>
      rw [mention?_alias_self, mention?_of_anchor ha' rfl]
      exact ⟨hst.move hlink, rfl⟩
    | known gone => exact absurd (hst.defined.mpr rfl) (hnew _ ha)
  . rw [mention?_alias_other hused, mention?_of_other_anchor ha' hused]
    exact ⟨hst.move_other hlinked hlink hused, rfl⟩

theorem follows_leave (hn : n ∈ root.preorder) (hleft : m.left? n = some a)
    : Follows root name m (mention? name n).toList
      (mention? name (leaveAlias n.info a)).toList m := by
  obtain ⟨ha, hmoved⟩ := Moves.left?_eq_some_iff.mp hleft
  by_cases hname : a.name = name
  . subst hname
    intro st hst
    have hgone := (hst.moved a (Node.mem_anchors.mpr ⟨n, hn, ha⟩) rfl).mp hmoved
    have hknown : st.isKnown = true := by
      cases st with
      | fresh => simp [Stage.gone] at hgone
      | known gone => rfl
    rw [mention?_of_anchor ha rfl, leaveAlias, mention?_alias_self]
    simp only [Option.toList_some, List.foldl_cons, List.foldl_nil, Stage.run,
      Stage.write_gone hgone,
      Stage.after_of_isKnown hknown, and_true]
    exact hst
  . rw [mention?_of_other_anchor ha hname, leaveAlias, mention?_alias_other hname]
    exact Follows.nil root name m

theorem follows_enter (hn : n ∈ root.preorder) (halias : n.isAlias = false)
    (hleft : m.left? n = none) (hhead : n'.head = n.head)
    : Follows root name m (mention? name n).toList (mention? name n').toList
      (m.define n.anchor) := by
  have halias' := Node.isAlias_eq_of_head_eq hhead
  rw [halias] at halias'
  have hanchor := Node.anchor_eq_of_head_eq hhead
  cases ha : n.anchor with
  | none =>
    rw [ha] at hanchor
    rw [mention?_of_anchor_eq_none halias ha, mention?_of_anchor_eq_none halias' hanchor]
    exact Follows.nil root name m
  | some a =>
    rw [ha] at hanchor
    intro st hst
    by_cases hname : a.name = name
    . have hgone : st.gone ≠ some a.number := by
        rw [Moves.left?_eq_none_iff] at hleft
        intro hgone
        exact hleft ⟨a, ha, (hst.moved a (Node.mem_anchors.mpr ⟨n, hn, ha⟩) hname).mpr hgone⟩
      rw [mention?_of_anchor ha hname, mention?_of_anchor hanchor hname]
      simp only [Option.toList_some, List.foldl_cons, List.foldl_nil, Stage.run,
        Stage.write_define hgone,
        and_true]
      exact hst.define hname
    . rw [mention?_of_other_anchor ha hname, mention?_of_other_anchor hanchor hname]
      exact ⟨hst.define_other hname, rfl⟩

/-- Nodes that an alias stands for have nothing to do with a name below them. -/
def Clear (root : Node) (name : Text) : Prop :=
  ∀ d ∈ root.preorder, ∀ a, d.anchor = some a → a ∈ root.preorder.filterMap link? →
    mentions name (nodes d.children) = []

theorem mentions_nodes_cons (name : Text) (n : Node) (ns : List Node)
    : mentions name (nodes (n :: ns)) =
        (mention? name n).toList ++ mentions name (nodes n.children) ++ mentions name
        (nodes ns) := by
  rw [Node.nodes_cons, mentions_append, Node.preorder_eq, mentions_cons]

theorem Walks.follows (h : Walks root ns m ns' m') (hlinked : Linked root)
    (hclear : Clear root name) (hns : nodes ns ⊆ root.preorder)
    : Follows root name m (mentions name (nodes ns)) (mentions name (nodes ns')) m' := by
  induction h with
  | nil m => exact Follows.nil root name m
  | keep i used target hdue _ ih =>
    rw [Node.nodes_cons, List.append_subset] at hns
    have hlink := hns.1 (Node.self_mem_preorder _)
    rw [mentions_nodes_cons, mentions_nodes_cons]
    exact ((follows_keep hlinked hlink hdue).append (Follows.nil root name _)).append (ih hns.2)
  | @move ns ns' d n' m m₁ m' i used target hdue hhead _ _ ihbelow ih =>
    rw [Node.nodes_cons, List.append_subset] at hns
    have hlink := hns.1 (Node.self_mem_preorder _)
    obtain ⟨-, hfind, -⟩ := Moves.due?_eq_some hdue
    obtain ⟨hd, -⟩ := findAnchor?_eq_some hfind
    obtain ⟨ha, hfollows⟩ := follows_move name hlinked hlink hdue hhead
    have hbelow :=
      ihbelow (List.Subset.trans (Node.nodes_children_subset d) (Node.preorder_subset_of_mem hd))
    rw [hclear d hd _ ha (mem_links.mpr ⟨i, hlink⟩)] at hbelow
    rw [mentions_nodes_cons, mentions_nodes_cons]
    exact (hfollows.append hbelow).append (ih hns.2)
  | @leave ns ns' n a m m' hleft _ ih =>
    rw [Node.nodes_cons, List.append_subset] at hns
    have hn := hns.1 (Node.self_mem_preorder n)
    obtain ⟨ha, hmoved⟩ := Moves.left?_eq_some_iff.mp hleft
    rw [mentions_nodes_cons, mentions_nodes_cons]
    intro st hst
    -- a node that has moved is the node of an alias
    obtain ⟨b, hb, hnumber⟩ := hst.aimed a.number hmoved
    obtain ⟨j, hlink⟩ := mem_links.mp hb
    obtain rfl := hlinked.anchor_eq (hlinked.target j b.name b.number hlink)
      (Node.mem_anchors.mpr ⟨n, hn, ha⟩) hnumber
    rw [hclear n hn b ha hb]
    exact ((follows_leave hn hleft).append (Follows.nil root name m)).append (ih hns.2) st hst
  | @enter ns ns' n n' m m₁ m' halias hleft hhead _ _ ihbelow ih =>
    rw [Node.nodes_cons, List.append_subset] at hns
    have hn := hns.1 (Node.self_mem_preorder n)
    have hbelow := ihbelow (List.Subset.trans (Node.nodes_children_subset n) hns.1)
    rw [mentions_nodes_cons, mentions_nodes_cons]
    exact ((follows_enter hn halias hleft hhead).append hbelow).append (ih hns.2)

/-- No name that several nodes have is found below a node that an alias stands for. -/
def Shallow (root : Node) : Prop :=
  ∀ d ∈ root.preorder, ∀ a ∈ d.anchor, a ∈ root.preorder.filterMap link? →
    ∀ b ∈ root.anchors, Repeated root b.name → mentions b.name (nodes d.children) = []

instance : Decidable (Shallow root) :=
  inferInstanceAs
  (Decidable (∀ d ∈ root.preorder, ∀ a ∈ d.anchor, a ∈ root.preorder.filterMap link? →
    ∀ b ∈ root.anchors, Repeated root b.name → mentions b.name (nodes d.children) = []))

theorem Shallow.clear (h : Shallow root) (hname : Repeated root name) : Clear root name := by
  intro d hd a ha hlink
  obtain ⟨k, hk⟩ := List.exists_mem_of_length_pos (Nat.lt_of_succ_lt hname)
  exact h d hd a ha hlink ⟨name, k⟩ (mem_numbersOf.mp hk) hname

theorem bound_of_forall_eq {latest : Option Nat} (hnumbers : ∀ j ∈ numbersOf name ns, j = k)
    (htarget : ∀ i target, .alias i name target ∈ ns → target = k)
    (hbefore : ∀ before i target after, ns = before ++ .alias i name target :: after →
      numbersOf name before ≠ [] ∨ latest = some k)
    : Bound latest (mentions name ns) := by
  rw [bound_mentions_iff]
  intro before i target after hsplit
  obtain rfl := htarget i target (by simp [hsplit])
  have hall : ∀ j ∈ numbersOf name before, j = target := by
    intro j hj
    apply hnumbers
    rw [hsplit, numbersOf_append]
    exact List.mem_append_left _ hj
  cases hlast : (numbersOf name before).getLast? with
  | none =>
    rw [List.getLast?_eq_none_iff] at hlast
    simpa using (hbefore before i target after hsplit).resolve_left (by simp [hlast])
  | some j =>
    rw [hall j (List.mem_of_getLast? hlast)]
    rfl

theorem fixAnchors_walked (hlinked : Linked root)
    : ∃ m, Walked root [] {} [] [root] [fixAnchors root] m := by
  obtain ⟨n', m, hbound, hwalked⟩ := fixWithin_walked hlinked
  have hfix : fixAnchors root = n' := hbound _ (Nat.le_refl _)
  exact ⟨m, by rw [hfix]; exact hwalked⟩

theorem anchors_fixAnchors_perm (hlinked : Linked root)
    : (fixAnchors root).anchors.Perm root.anchors := by
  obtain ⟨m, hwalked⟩ := fixAnchors_walked hlinked
  simpa [Node.anchors] using hwalked.pending.perm

theorem matches_fixAnchors (hlinked : Linked root) : Matches root root (fixAnchors root) := by
  obtain ⟨m, hwalked⟩ := fixAnchors_walked hlinked
  cases hwalked.matched with
  | cons hmatch _ => exact hmatch

theorem linked_fixAnchors (hlinked : Linked root) : Linked (fixAnchors root) :=
  (matches_fixAnchors hlinked).linked hlinked (anchors_fixAnchors_perm hlinked)

theorem numbersOf_ne_nil_of_fixAnchors (hlinked : Linked root) {before after : List Node}
    (hsplit : (fixAnchors root).preorder = before ++ .alias i name target :: after)
    : numbersOf name before ≠ [] := by
  obtain ⟨m, hwalked⟩ := fixAnchors_walked hlinked
  have hordered := hwalked.ordered
  rw [Node.nodes_cons, Node.nodes_nil, List.append_nil, hsplit] at hordered
  obtain ⟨n, hn, a, ha, rfl⟩ := exists_anchor_of_ordered hordered
  exact List.ne_nil_of_mem (mem_numbersOf.mpr (List.mem_filterMap.mpr ⟨n, hn, ha⟩))

theorem Linked.target_mem_numbersOf (hlinked : Linked root)
    (hlink : .alias i name target ∈ root.preorder)
    : target ∈ numbersOf name root.preorder :=
  mem_numbersOf.mpr (hlinked.target i name target hlink)

theorem Linked.nodup_numbersOf (hlinked : Linked root) (name : Text)
    : (numbersOf name root.preorder).Nodup := by
  rw [numbersOf_eq]
  exact hlinked.nodup.sublist (List.Sublist.map _ List.filter_sublist)

theorem bound_of_not_repeated (hlinked : Linked root) (hname : ¬ Repeated root name)
    : Bound none (mentions name (fixAnchors root).preorder) ∧
        Bound (numbersOf name root.preorder).head? (mentions name root.preorder) := by
  have hperm : (numbersOf name (fixAnchors root).preorder).Perm (numbersOf name root.preorder) := by
    rw [numbersOf_eq, numbersOf_eq]
    exact ((anchors_fixAnchors_perm hlinked).filter _).map _
  have hlinked' := linked_fixAnchors hlinked
  -- without a node with the name there is no alias either, so any number will do
  obtain ⟨k, hk⟩ : ∃ k, ∀ j ∈ numbersOf name root.preorder, j = k := by
    unfold Repeated at hname
    cases hnumbers : numbersOf name root.preorder with
    | nil => exact ⟨0, by simp⟩
    | cons k ks =>
      obtain rfl : ks = [] := by
        simpa [hnumbers] using hname
      exact ⟨k, by simp⟩
  constructor
  . refine bound_of_forall_eq (k := k) (fun j hj => hk j (hperm.mem_iff.mp hj)) ?_ ?_
    . intro i target hlink
      exact hk target (hperm.mem_iff.mp (hlinked'.target_mem_numbersOf hlink))
    . intro before i target after hsplit
      exact Or.inl (numbersOf_ne_nil_of_fixAnchors hlinked hsplit)
  . refine bound_of_forall_eq (k := k) hk ?_ ?_
    . intro i target hlink
      exact hk target (hlinked.target_mem_numbersOf hlink)
    . intro before i target after hsplit
      right
      have hmem := hlinked.target_mem_numbersOf
        (show .alias i name target ∈ root.preorder by simp [hsplit])
      cases hnumbers : numbersOf name root.preorder with
      | nil => simp [hnumbers] at hmem
      | cons j js =>
        rw [List.head?_cons, hk j (by simp [hnumbers])]

/--
After the repair of anchors every alias is read as the node that it stands for, exactly if it would
have been before, an alias before the first node with its name being read as this node.
-/
theorem scoped_fixAnchors_iff (hlinked : Linked root) (hshallow : Shallow root)
    : Scoped (fixAnchors root).preorder ↔ InOrder root.preorder := by
  rw [scoped_iff, inOrder_iff]
  apply forall_congr'
  intro name
  by_cases hname : Repeated root name
  . obtain ⟨m, hwalked⟩ := fixAnchors_walked hlinked
    have hstart : Stage.At root name {} .fresh := by
      refine ⟨?_, ?_, ?_⟩
      all_goals simp [Stage.isKnown, Stage.gone]
    have hfollows := hwalked.walks.follows hlinked (hshallow.clear hname) (by simp)
    obtain ⟨-, hmentions⟩ := hfollows .fresh hstart
    simp only [Node.nodes_cons, Node.nodes_nil, List.append_nil] at hmentions
    rw [hmentions, ← definitions_mentions]
    apply Stage.bound_run_fresh_iff
    . rw [definitions_mentions]
      exact hlinked.nodup_numbersOf name
    . intro k hk
      rw [definitions_mentions]
      obtain ⟨i, hlink⟩ := mem_mentions_use.mp hk
      exact hlinked.target_mem_numbersOf hlink
  . have := bound_of_not_repeated hlinked hname
    simp only [this]

end Tree
end YamlOrder
