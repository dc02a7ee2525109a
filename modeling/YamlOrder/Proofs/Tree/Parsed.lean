import YamlOrder.Proofs.Event.Outline
import YamlOrder.Proofs.Tree.Scope
import YamlOrder.Yaml.Node.Compose

/-!
This module contains the aliases of a document that has been read: no node is lost on the way, so
every alias has a node to stand for, and that is the nearest one before it with its name.
-/

namespace YamlOrder
namespace Yaml

variable {b b' : Builder} {n : Node} {ns : List Node} {o : Outline} {known : List Anchor}

/-- What a node has to do with names: it has one itself, or it is an alias of a node with one. -/
inductive Naming where
  | define (a : Anchor)
  | use (a : Anchor)

/-- What a node has to do with names. -/
def naming? : Node → Option Naming
  | .alias _ name target => some (.use ⟨name, target⟩)
  | n => n.anchor.map .define

def namings (ns : List Node) : List Naming := ns.filterMap naming?

namespace Naming

/-- The anchors that have been given, the latest first, after those that are known. -/
def given (known : List Anchor) : List Naming → List Anchor
  | [] => known
  | .define a :: rest => given (a :: known) rest
  | .use _ :: rest => given known rest

/-- Every alias stands for the node that got its name last. -/
def Read (known : List Anchor) : List Naming → Prop
  | [] => True
  | .define a :: rest => Read (a :: known) rest
  | .use a :: rest => known.find? (·.name == a.name) = some a ∧ Read known rest

theorem given_append (known : List Anchor) (xs ys : List Naming)
    : given known (xs ++ ys) = given (given known xs) ys := by
  induction xs generalizing known with
  | nil => rfl
  | cons x xs ih =>
    cases x
    all_goals exact ih _

theorem subset_given (known : List Anchor) (xs : List Naming) : known ⊆ given known xs := by
  induction xs generalizing known with
  | nil => exact List.Subset.refl _
  | cons x xs ih =>
    cases x with
    | define a => exact List.Subset.trans (List.subset_cons_self a known) (ih _)
    | use a => exact ih known

theorem read_append {xs ys : List Naming}
    : Read known (xs ++ ys) ↔ Read known xs ∧ Read (given known xs) ys := by
  induction xs generalizing known with
  | nil => simp [Read, given]
  | cons x xs ih =>
    cases x with
    | define a => exact ih
    | use a => simp only [List.cons_append, Read, given, ih, and_assoc]

end Naming

open Naming (given Read)

/-- Where a collection stands that has no children yet, or an open one, or a scalar. -/
def ownNaming (i : NodeInfo) : List Naming := (i.anchor.map Naming.define).toList

namespace Frame

def shape : Frame → Shape
  | .sequence _ _ _ => .item
  | .mapping _ _ _ none => .key
  | .mapping _ _ _ (some _) => .value

def namings : Frame → List Naming
  | .sequence i _ items => ownNaming i ++ Yaml.namings (Node.nodes items.reverse)
  | .mapping i _ pairs key =>
    ownNaming i ++ (Yaml.namings (Node.nodes (flatten pairs.reverse)) ++
      Yaml.namings (Node.nodes key.toList))

end Frame

namespace Builder

def outline (b : Builder) : Outline := (b.frames.map Frame.shape, b.root.isSome)

/-- What the nodes so far have to do with names, in the order of the document. -/
def namings (b : Builder) : List Naming :=
  Yaml.namings (Node.nodes b.root.toList) ++ b.frames.reverse.flatMap Frame.namings

end Builder

@[simp]
theorem namings_nil : namings [] = [] := rfl

theorem namings_cons (n : Node) (ns : List Node)
    : namings (n :: ns) = (naming? n).toList ++ namings ns := by
  unfold namings
  cases h : naming? n with
  | none => simp [h]
  | some x => simp [h]

theorem namings_append (ns ms : List Node) : namings (ns ++ ms) = namings ns ++ namings ms :=
  List.filterMap_append

theorem namings_preorder (n : Node)
    : namings n.preorder = (naming? n).toList ++ namings (Node.nodes n.children) :=
  Node.filterMap_preorder naming? n

theorem naming?_withRemarks (r : Remarks) (n : Node) : naming? (n.withRemarks r) = naming? n := by
  cases n
  all_goals rfl

theorem namings_setFoot (foot : Text) (n : Node)
    : namings (Builder.setFoot foot n).preorder = namings n.preorder := by
  rw [namings_preorder, namings_preorder, Builder.setFoot, naming?_withRemarks,
    Node.children_withRemarks]

theorem namings_sequence (i : NodeInfo) (flow : Bool) (items : List Node)
    : namings (Node.sequence i flow items).preorder = ownNaming i ++ namings (Node.nodes items) :=
  namings_preorder _

theorem namings_mapping (i : NodeInfo) (flow : Bool) (pairs : List (Node × Node))
    : namings (Node.mapping i flow pairs).preorder = ownNaming i ++
      namings (Node.nodes (flatten pairs)) :=
  namings_preorder _

namespace Builder

theorem namings_addKey (flow : Bool) (key : Node) (pairs : List (Node × Node))
    : Yaml.namings (addKey flow key pairs).2.preorder = Yaml.namings key.preorder ∧
      Yaml.namings (Node.nodes (flatten (addKey flow key pairs).1.reverse)) =
        Yaml.namings (Node.nodes (flatten pairs.reverse)) := by
  unfold addKey
  split
  . split
    . simp [namings_append, namings_setFoot, flatten]
    . simp
  . simp

theorem namings_pair (key value : Node)
    : Yaml.namings (pair key value).1.preorder = Yaml.namings key.preorder ∧
      Yaml.namings (pair key value).2.preorder = Yaml.namings value.preorder := by
  unfold pair
  split
  . simp [namings_setFoot]
  . simp

theorem attach_eq (hfill : b.outline.fill = some o)
    : (b.attach n).outline = o ∧ (b.attach n).namings = b.namings ++ Yaml.namings n.preorder := by
  unfold attach
  split
  . next hframes =>
    cases hroot : b.root with
    | none =>
      simp only [outline, hframes, hroot, List.map_nil, Option.isSome_none, Outline.fill,
        Option.some.injEq] at hfill
      subst hfill
      simp [outline, namings, hframes, hroot]
    | some root => simp [outline, hframes, hroot, Outline.fill] at hfill
  . next info flow items rest hframes =>
    simp only [outline, hframes, List.map_cons, Frame.shape, Outline.fill,
      Option.some.injEq] at hfill
    subst hfill
    simp [outline, namings, hframes, Frame.shape, Frame.namings, namings_append]
  . next info flow pairs rest hframes =>
    simp only [outline, hframes, List.map_cons, Frame.shape, Outline.fill,
      Option.some.injEq] at hfill
    subst hfill
    have := namings_addKey flow n pairs
    simp [outline, namings, hframes, Frame.shape, Frame.namings, this]
  . next info flow pairs key rest hframes =>
    simp only [outline, hframes, List.map_cons, Frame.shape, Outline.fill,
      Option.some.injEq] at hfill
    subst hfill
    have := namings_pair key n
    simp [outline, namings, hframes, Frame.shape, Frame.namings, namings_append, flatten, this]

theorem namings_closeMapping (info : NodeInfo) (flow : Bool) (pairs : List (Node × Node))
    (r : Remarks)
    : Yaml.namings (closeMapping info flow pairs r).preorder =
        ownNaming info ++ Yaml.namings (Node.nodes (flatten pairs.reverse)) := by
  unfold closeMapping
  split
  . split
    . rw [namings_mapping]
      simp [ownNaming, endRemarks, flatten, namings_append, namings_setFoot]
    . rw [namings_mapping]
      rfl
  . rw [namings_mapping]
    rfl

theorem close_eq {k : EventKind} (r : Remarks) (hk : k = .sequenceEnd ∨ k = .mappingEnd)
    (hstep : b.outline.step k = some o) : (b.close r).outline = o ∧
    (b.close r).namings = b.namings := by
  unfold close
  split
  . next info flow items rest hframes =>
    simp only [outline, hframes, List.map_cons, Frame.shape] at hstep
    obtain rfl | rfl := hk
    . obtain ⟨houtline, hnamings⟩ :=
        attach_eq (b := { b with frames := rest })
        (n := .sequence (endRemarks info r) flow items.reverse) hstep
      refine ⟨houtline, hnamings.trans ?_⟩
      simp [namings, hframes, Frame.namings, namings_sequence, ownNaming, endRemarks]
    . simp [Outline.step] at hstep
  . next info flow pairs key rest hframes =>
    cases key with
    | none =>
      simp only [outline, hframes, List.map_cons, Frame.shape] at hstep
      obtain rfl | rfl := hk
      . simp [Outline.step] at hstep
      . obtain ⟨houtline, hnamings⟩ :=
          attach_eq (b := { b with frames := rest }) (n := closeMapping info flow pairs r) hstep
        refine ⟨houtline, hnamings.trans ?_⟩
        simp [namings, hframes, Frame.namings, namings_closeMapping]
    | some key =>
      simp only [outline, hframes, List.map_cons, Frame.shape] at hstep
      obtain rfl | rfl := hk
      all_goals simp [Outline.step] at hstep
  . next hframes =>
    simp only [outline, hframes, List.map_nil] at hstep
    obtain rfl | rfl := hk
    all_goals simp [Outline.step] at hstep

/--
A moment while a document is read: what it has to do with names so far, and the anchors it has
given.
-/
structure Reading (b : Builder) : Prop where
  anchors : given [] b.namings = b.anchors
  read : Read [] b.namings
  numbers : ∀ a ∈ b.anchors, a.number < b.nextAnchor
  nodup : (b.anchors.map (·.number)).Nodup

theorem Reading.keep (h : Reading b) (hnamings : b'.namings = b.namings)
    (hanchors : b'.anchors = b.anchors) (hnext : b'.nextAnchor = b.nextAnchor) : Reading b' := by
  obtain ⟨h₁, h₂, h₃, h₄⟩ := h
  constructor
  all_goals simp only [hnamings, hanchors, hnext]
  all_goals assumption

theorem anchors_attach (b : Builder) (n : Node)
    : (b.attach n).anchors = b.anchors ∧ (b.attach n).nextAnchor = b.nextAnchor := by
  unfold attach
  split
  all_goals exact ⟨rfl, rfl⟩

theorem anchors_close (b : Builder) (r : Remarks)
    : (b.close r).anchors = b.anchors ∧ (b.close r).nextAnchor = b.nextAnchor := by
  unfold close
  split
  . exact anchors_attach _ _
  . exact anchors_attach _ _
  . exact ⟨rfl, rfl⟩

theorem Reading.name (h : Reading b) (anchor : Text)
    (hnamings : b'.namings = b.namings ++ ((b.name anchor).2.map Naming.define).toList)
    (hanchors : b'.anchors = (b.name anchor).1.anchors)
    (hnext : b'.nextAnchor = (b.name anchor).1.nextAnchor) : Reading b' := by
  unfold Builder.name at hnamings hanchors hnext
  split at hnamings
  . next hempty =>
    simp only [hempty, if_true] at hanchors hnext
    exact h.keep (by simpa using hnamings) hanchors hnext
  . next hempty =>
    simp only [hempty, Bool.false_eq_true, if_false] at hanchors hnext
    simp only [Option.map_some, Option.toList_some] at hnamings
    constructor
    . rw [hnamings, Naming.given_append, h.anchors, hanchors]
      rfl
    . rw [hnamings, Naming.read_append]
      exact ⟨h.read, trivial⟩
    . rw [hanchors, hnext]
      intro a ha
      obtain rfl | ha := List.mem_cons.mp ha
      . exact Nat.lt_succ_self _
      . exact Nat.lt_succ_of_lt (h.numbers a ha)
    . rw [hanchors, List.map_cons, List.nodup_cons]
      refine ⟨?_, h.nodup⟩
      intro hmem
      obtain ⟨a, ha, hnumber⟩ := List.mem_map.mp hmem
      exact absurd (h.numbers a ha) (by simp [hnumber])

theorem Reading.use (h : Reading b) {a : Anchor} {name : Text}
    (ha : b.anchors.find? (·.name == name) = some a)
    (hnamings : b'.namings = b.namings ++ [.use ⟨name, a.number⟩])
    (hanchors : b'.anchors = b.anchors) (hnext : b'.nextAnchor = b.nextAnchor) : Reading b' := by
  obtain rfl : a.name = name := by simpa using List.find?_some ha
  constructor
  . rw [hnamings, Naming.given_append, h.anchors, hanchors]
    rfl
  . rw [hnamings, Naming.read_append, h.anchors]
    exact ⟨h.read, ha, trivial⟩
  . rw [hanchors, hnext]
    exact h.numbers
  . rw [hanchors]
    exact h.nodup

theorem namings_scalar (i : NodeInfo) (value : Text) (style : ScalarStyle)
    : Yaml.namings (Node.scalar i value style).preorder = ownNaming i := by
  rw [namings_preorder]
  exact List.append_nil _

theorem outline_name (b : Builder) (anchor : Text)
    : (b.name anchor).1.outline = b.outline ∧ (b.name anchor).1.namings = b.namings := by
  unfold Builder.name
  split
  all_goals exact ⟨rfl, rfl⟩

theorem Reading.enter (h : Reading b) (anchor : Text) (frame : Frame)
    (hframe : frame.namings = ((b.name anchor).2.map Naming.define).toList)
    : Reading { (b.name anchor).1 with frames := frame :: (b.name anchor).1.frames } := by
  refine h.name anchor ?_ rfl rfl
  rw [← hframe, ← (outline_name b anchor).2]
  simp [namings]

theorem Reading.step {e : Event} (h : Reading b) (hstep : b.step e = .ok b')
    (houtline : b.outline.step e.kind = some o) : b'.outline = o ∧ Reading b' := by
  unfold Builder.step at hstep
  split at hstep
  . next name hkind =>
    rw [hkind] at houtline
    split at hstep
    . next a ha =>
      rw [Except.ok.injEq] at hstep
      subst hstep
      obtain ⟨hfill, hnamings⟩ := attach_eq
        (n := .alias (infoOf e none [] []) name a.number) houtline
      exact ⟨hfill, h.use ha hnamings (anchors_attach _ _).1 (anchors_attach _ _).2⟩
    . simp at hstep
  . next anchor tag value style hkind =>
    rw [hkind] at houtline
    rw [Except.ok.injEq] at hstep
    subst hstep
    obtain ⟨hfill, hnamings⟩ := attach_eq (b := (b.name anchor).1)
      (n := .scalar (infoOf e (b.name anchor).2 tag (defaultTag value style)) value style)
      ((outline_name b anchor).1 ▸ houtline)
    refine ⟨hfill, h.name anchor ?_ (anchors_attach _ _).1 (anchors_attach _ _).2⟩
    rw [hnamings, (outline_name b anchor).2, namings_scalar]
    rfl
  . next anchor tag flow hkind =>
    rw [hkind] at houtline
    rw [Except.ok.injEq] at hstep
    subst hstep
    refine ⟨?_, h.enter anchor _ ?_⟩
    . rw [← (outline_name b anchor).1] at houtline
      exact Option.some.inj houtline
    . simp [Frame.namings, ownNaming, infoOf]
  . next anchor tag flow hkind =>
    rw [hkind] at houtline
    rw [Except.ok.injEq] at hstep
    subst hstep
    refine ⟨?_, h.enter anchor _ ?_⟩
    . rw [← (outline_name b anchor).1] at houtline
      exact Option.some.inj houtline
    . simp [Frame.namings, ownNaming, infoOf]
  . next hkind =>
    rw [hkind] at houtline
    rw [Except.ok.injEq] at hstep
    subst hstep
    obtain ⟨hfill, hnamings⟩ := close_eq e.remarks (Or.inl rfl) houtline
    exact ⟨hfill, h.keep hnamings (anchors_close b e.remarks).1 (anchors_close b e.remarks).2⟩
  . next hkind =>
    rw [hkind] at houtline
    rw [Except.ok.injEq] at hstep
    subst hstep
    obtain ⟨hfill, hnamings⟩ := close_eq e.remarks (Or.inr rfl) houtline
    exact ⟨hfill, h.keep hnamings (anchors_close b e.remarks).1 (anchors_close b e.remarks).2⟩
  . rw [Except.ok.injEq] at hstep
    subst hstep
    refine ⟨?_, h⟩
    cases hkind : e.kind
    all_goals
      rw [hkind] at houtline
      grind [Outline.step]

end Builder

namespace Parser

theorem events_run (fuel : Nat) (p : Parser) (events : List Event)
    : ∃ rest, (run fuel p events).events = events.reverse ++ rest := by
  induction fuel generalizing p events with
  | zero => exact ⟨[], by simp [run]⟩
  | succ fuel ih =>
    rw [run]
    split
    . exact ⟨[], by simp⟩
    . next event p' _ =>
      split
      . exact ⟨[event], by simp⟩
      . obtain ⟨rest, hrest⟩ := ih p' (event :: events)
        exact ⟨event :: rest, by rw [hrest, List.reverse_cons, List.append_assoc,
          List.singleton_append]⟩

theorem Next.eq_documentEnd {c c' : Control} (h : Next c .documentEnd c') : c.1 = .documentEnd := by
  cases h with
  | endDocument => rfl
  | root _ hnode => cases hnode
  | item _ _ hnode => cases hnode
  | key _ _ hnode => cases hnode
  | value _ _ hnode => cases hnode
  | pairKey hnode => cases hnode
  | pairValue hnode => cases hnode

theorem reading_of_run (events : List Event) {fuel : Nat} {p : Parser} {rest : List Event}
    (hfits : Fits (Waits p.stack) p.expect b.outline) (hreading : b.Reading)
    (hfault : (run fuel p events).fault = none)
    (hevents : (run fuel p events).events = events.reverse ++ rest)
    (hend : ∃ e ∈ rest, e.kind = .documentEnd) (hfold : rest.foldlM Builder.step b = .ok b')
    : b'.Reading ∧ b'.frames = [] := by
  induction fuel generalizing p events rest b with
  | zero => simp [run] at hfault
  | succ fuel ih =>
    rw [run] at hfault hevents
    split at hfault
    . simp at hfault
    . next event p' hstep =>
      have hnext : Next p.control event.kind p'.control := step_next p.control p event p' rfl hstep
      simp only [hstep] at hevents
      split at hfault
      . next hlast =>
        rw [if_pos hlast, List.reverse_cons, List.append_cancel_left_eq] at hevents
        subst hevents
        have hkind : event.kind = .documentEnd := by simpa using hend
        rw [hkind] at hnext
        have hexpect : p.expect = .documentEnd := hnext.eq_documentEnd
        rw [hexpect] at hfits
        obtain rfl : b = b' := by
          simpa [Builder.step, hkind, bind, Except.bind, pure, Except.pure] using hfold
        refine ⟨hreading, ?_⟩
        have hshapes : b.frames.map Frame.shape = [] := congrArg Prod.fst hfits
        simpa using hshapes
      . next hlast =>
        simp only [Bool.or_eq_true, beq_iff_eq, not_or] at hlast
        obtain ⟨rest', hrest'⟩ := events_run fuel p' (event :: events)
        obtain ⟨o', houtline, hfits'⟩ := hnext.fits hfits hlast.1 hlast.2
        rw [if_neg (by simp [hlast])] at hevents
        obtain rfl : rest = event :: rest' := by
          rw [hrest', List.reverse_cons, List.append_assoc, List.append_cancel_left_eq] at hevents
          exact hevents.symm
        rw [List.foldlM_cons] at hfold
        cases hb : b.step event with
        | error e => simp [hb, bind, Except.bind] at hfold
        | ok b₁ =>
          obtain ⟨rfl, hreading₁⟩ := hreading.step hb houtline
          refine ih _ hfits' hreading₁ hfault hrest' ?_
            (by simpa [hb, bind, Except.bind] using hfold)
          obtain ⟨e, he, hkind⟩ := hend
          obtain rfl | he := List.mem_cons.mp he
          . exact absurd hkind hlast.1
          . exact ⟨e, he, hkind⟩

end Parser

theorem exists_builder_of_ofEvents {es : EventStream} {t : Tree}
    (h : Tree.ofEvents es = .ok (some t))
    : ∃ b, es.events.foldlM Builder.step {} = .ok b ∧ b.root = some t.root ∧ es.fault = none ∧
        ∃ e ∈ es.events, e.kind = .documentEnd := by
  unfold Tree.ofEvents at h
  cases hrun : es.events.foldlM Builder.step {} with
  | error fault => simp [hrun, bind, Except.bind] at h
  | ok b =>
    refine ⟨b, rfl, ?_⟩
    simp only [hrun, bind, Except.bind] at h
    split at h
    . simp at h
    . next hfault =>
      split at h
      . next root start stop hroot _ hstop =>
        simp only [pure, Except.pure, Except.ok.injEq, Option.some.injEq] at h
        refine ⟨by rw [hroot, ← h], ?_, stop, List.mem_of_find?_eq_some hstop, ?_⟩
        . exact Option.eq_none_iff_forall_ne_some.mpr fun e he => hfault e he
        . simpa using List.find?_some hstop
      . simp [pure, Except.pure] at h

theorem read_of_parse {text : Text} {t : Tree} (h : Tree.parse text = .ok (some t))
    : Read [] (namings t.root.preorder) ∧
      ((given [] (namings t.root.preorder)).map (·.number)).Nodup := by
  obtain ⟨b, hfold, hroot, hfault, hend⟩ := exists_builder_of_ofEvents h
  have hstart : Builder.Reading {} := by
    constructor
    . rfl
    . trivial
    . simp
    . simp
  obtain ⟨hreading, hframes⟩ := Parser.reading_of_run []
    (show Parser.Fits _ Expect.streamStart ([], false) from rfl) hstart hfault rfl hend hfold
  have hnamings : b.namings = namings t.root.preorder := by
    simp [Builder.namings, hroot, hframes]
  rw [← hnamings, hreading.anchors]
  exact ⟨hreading.read, hreading.nodup⟩

end Yaml

namespace Tree

open Yaml
open Naming (given Read)

theorem naming?_of_not_alias {n : Node} (h : n.isAlias = false)
    : naming? n = n.anchor.map .define := by
  cases n
  all_goals
    first
    | rfl
    | simp [Node.isAlias] at h

theorem given_namings (known : List Anchor) (ns : List Node)
    : given known (namings ns) = (ns.filterMap Node.anchor).reverse ++ known := by
  induction ns generalizing known with
  | nil => rfl
  | cons n ns ih =>
    rw [namings_cons, Naming.given_append, ih]
    by_cases halias : n.isAlias = true
    . obtain ⟨i, name, target, rfl⟩ := Node.exists_alias halias
      rfl
    . rw [naming?_of_not_alias (by simpa using halias)]
      cases ha : n.anchor with
      | none => simp [ha, given]
      | some a => simp [ha, given]

theorem mem_of_read {known : List Anchor} {xs : List Naming} {a : Anchor} (h : Read known xs)
    (huse : .use a ∈ xs) : a ∈ given known xs := by
  obtain ⟨before, after, rfl⟩ := List.append_of_mem huse
  rw [Naming.read_append] at h
  rw [Naming.given_append]
  exact Naming.subset_given _ _ (List.mem_of_find?_eq_some h.2.1)

theorem bound_of_read {known : List Anchor} {ns : List Node} (name : Text)
    (h : Read known (namings ns))
    : Mention.Bound ((known.find? (·.name == name)).map (·.number)) (mentions name ns) := by
  induction ns generalizing known with
  | nil => trivial
  | cons n ns ih =>
    rw [bound_mentions_cons]
    rw [namings_cons, Naming.read_append] at h
    by_cases halias : n.isAlias = true
    . obtain ⟨i, used, target, rfl⟩ := Node.exists_alias halias
      refine ⟨?_, ih h.2⟩
      intro i' target' heq
      simp only [Node.alias.injEq] at heq
      obtain ⟨-, rfl, rfl⟩ := heq
      rw [h.1.1]
      rfl
    . rw [naming?_of_not_alias (by simpa using halias)] at h
      refine ⟨?_, ?_⟩
      . rintro i target rfl
        simp [Node.isAlias] at halias
      . cases ha : n.anchor with
        | none =>
          rw [ha] at h
          simpa [numbersOf, ha, given] using ih h.2
        | some a =>
          rw [ha] at h
          have := ih h.2
          by_cases hname : a.name = name
          . simpa [numbersOf, ha, given, hname] using this
          . simpa [numbersOf, ha, given, hname] using this

theorem linked_of_parse {text : Text} {t : Yaml.Tree} (h : Yaml.Tree.parse text = .ok (some t))
    : Linked t.root := by
  obtain ⟨hread, hnodup⟩ := read_of_parse h
  rw [given_namings, List.append_nil, List.map_reverse, List.nodup_reverse] at hnodup
  refine ⟨hnodup, ?_⟩
  intro i name target hlink
  have huse : Naming.use ⟨name, target⟩ ∈ namings t.root.preorder :=
    List.mem_filterMap.mpr ⟨_, hlink, rfl⟩
  have hmem := mem_of_read hread huse
  rw [given_namings, List.append_nil, List.mem_reverse] at hmem
  exact hmem

/--
In a document that has been read, every alias stands for the nearest node before it with its name.
-/
theorem scoped_of_parse {text : Text} {t : Yaml.Tree} (h : Yaml.Tree.parse text = .ok (some t))
    : Scoped t.root.preorder := by
  rw [scoped_iff]
  intro name
  exact bound_of_read name (read_of_parse h).1

end Tree
end YamlOrder
