import YamlOrder.Proofs.Spacing.Parser
import YamlOrder.Proofs.Text.Utf8
import YamlOrder.Proofs.Tree.Bare
import YamlOrder.Yaml.Node.Compose

/-!
This module contains what added lines do to document trees: the trees are the same but for the
spaces and line breaks of scalars, and for the tags that plain scalars get from their values.
-/

namespace YamlOrder

namespace Text

/-- What a text is apart from its spaces and line breaks. -/
def squeeze (t : Text) : Text := t.filter fun b => b != 32 && b != newline

theorem squeeze_utf8EncodeChar {c : Char} (hspace : c ≠ ' ') (hline : c ≠ '\n')
    : squeeze (String.utf8EncodeChar c) = String.utf8EncodeChar c := by
  rw [squeeze, List.filter_eq_self]
  intro b hb
  simp only [Bool.and_eq_true, bne_iff_ne, ne_eq]
  constructor
  . rintro rfl
    exact hspace (eq_of_mem_utf8EncodeChar (by decide) hb).2
  . rintro rfl
    exact hline (eq_of_mem_utf8EncodeChar (by decide) hb).2

theorem squeeze_ofChars (cs : List Char) : squeeze (ofChars cs) = ofChars (Yaml.squeeze cs) := by
  induction cs with
  | nil => rfl
  | cons c cs ih =>
    have hcons : squeeze (ofChars (c :: cs)) = squeeze (String.utf8EncodeChar c) ++
      squeeze (ofChars cs) := by
      rw [ofChars_cons, squeeze, List.filter_append]
      rfl
    rw [hcons, ih]
    by_cases hspace : c = ' '
    . subst hspace
      rfl
    by_cases hline : c = '\n'
    . subst hline
      rfl
    . have hkept : Yaml.squeeze (c :: cs) = c :: Yaml.squeeze cs :=
        List.filter_cons_of_pos (by simp [hspace, hline])
      rw [hkept, squeeze_utf8EncodeChar hspace hline, ofChars_cons]

end Text

namespace Yaml

namespace Node

mutual

/-- A bare tree without the spaces and line breaks of scalars and the tags that these may decide. -/
def skeleton : Node → Node
  | .scalar i value style =>
    .scalar { i.bare with tag := if i.tagged || style != .plain then i.tag else [] }
      (Text.squeeze value) style
  | .sequence i flow items => .sequence i.bare flow (skeletonItems items)
  | .mapping i flow pairs => .mapping i.bare flow (skeletonPairs pairs)
  | .alias i name target => .alias i.bare name target

def skeletonItems : List Node → List Node
  | [] => []
  | n :: rest => n.skeleton :: skeletonItems rest

def skeletonPairs : List (Node × Node) → List (Node × Node)
  | [] => []
  | (k, v) :: rest => (k.skeleton, v.skeleton) :: skeletonPairs rest

end

@[simp]
theorem skeleton_setFoot (foot : Text) (n : Node)
    : (Builder.setFoot foot n).skeleton = n.skeleton := by
  cases n
  all_goals rfl

@[simp]
theorem bare_setFoot (foot : Text) (n : Node) : (Builder.setFoot foot n).bare = n.bare := by
  cases n
  all_goals rfl

/--
Two trees with the same skeleton, which differ in comments and positions only under a condition.
-/
structure Twin (q : Prop) (n n' : Node) : Prop where
  skeleton : n'.skeleton = n.skeleton
  bare : q → n'.bare = n.bare

variable {q : Prop} {n n' : Node} {i i' : NodeInfo} {items items' : List Node}
  {pairs pairs' : List (Node × Node)}

@[simp]
theorem twin_setFoot_left (foot : Text) : Twin q (Builder.setFoot foot n) n' ↔ Twin q n n' := by
  constructor
  all_goals
    rintro ⟨hskeleton, hbare⟩
    exact ⟨by simpa using hskeleton, by simpa using hbare⟩

@[simp]
theorem twin_setFoot_right (foot : Text) : Twin q n (Builder.setFoot foot n') ↔ Twin q n n' := by
  constructor
  all_goals
    rintro ⟨hskeleton, hbare⟩
    exact ⟨by simpa using hskeleton, by simpa using hbare⟩

/-- The keys and the values of two pairs. -/
def PairTwin (q : Prop) (p p' : Node × Node) : Prop := Twin q p.1 p'.1 ∧ Twin q p.2 p'.2

theorem Twin.sequence (flow : Bool) (hi : i'.bare = i.bare) (h : List.Forall₂ (Twin q) items items')
    : Twin q (.sequence i flow items) (.sequence i' flow items') := by
  have hitems : skeletonItems items' = skeletonItems items ∧
    (q → bareItems items' = bareItems items) := by
    induction h with
    | nil => exact ⟨rfl, fun _ => rfl⟩
    | cons hn _ ih =>
      simp only [skeletonItems, bareItems]
      exact ⟨by rw [hn.skeleton, ih.1], fun hq => by rw [hn.bare hq, ih.2 hq]⟩
  constructor
  . simp only [Node.skeleton, hi, hitems.1]
  . intro hq
    simp only [Node.bare, hi, hitems.2 hq]

theorem Twin.mapping (flow : Bool) (hi : i'.bare = i.bare)
    (h : List.Forall₂ (PairTwin q) pairs pairs')
    : Twin q (.mapping i flow pairs) (.mapping i' flow pairs') := by
  have hpairs : skeletonPairs pairs' = skeletonPairs pairs ∧
    (q → barePairs pairs' = barePairs pairs) := by
    induction h with
    | nil => exact ⟨rfl, fun _ => rfl⟩
    | cons hp _ ih =>
      simp only [skeletonPairs, barePairs]
      exact ⟨by rw [hp.1.skeleton, hp.2.skeleton, ih.1], fun hq => by
        rw [hp.1.bare hq, hp.2.bare hq, ih.2 hq]⟩
  constructor
  . simp only [Node.skeleton, hi, hpairs.1]
  . intro hq
    simp only [Node.bare, hi, hpairs.2 hq]

end Node

namespace Builder

open Node (PairTwin)

variable {q : Prop} {n n' k k' v v' : Node} {pairs pairs' : List (Node × Node)} {b b' : Builder}

/-- Two open collections with the same content so far. -/
inductive FrameTwin (q : Prop) : Frame → Frame → Prop where
  | sequence {i i' : NodeInfo} {items items' : List Node} (flow : Bool) (hi : i'.bare = i.bare)
    (h : List.Forall₂ (Node.Twin q) items items') : FrameTwin q (.sequence i flow items)
      (.sequence i' flow items')
  | mapping {i i' : NodeInfo} {pairs pairs' : List (Node × Node)} {key key' : Option Node}
      (flow : Bool)
    (hi : i'.bare = i.bare) (h : List.Forall₂ (PairTwin q) pairs pairs')
      (hkey : Option.Rel (Node.Twin q) key key')
    : FrameTwin q (.mapping i flow pairs key) (.mapping i' flow pairs' key')

/-- Two trees that are built in the same way. -/
structure BuilderTwin (q : Prop) (b b' : Builder) : Prop where
  frames : List.Forall₂ (FrameTwin q) b.frames b'.frames
  root : Option.Rel (Node.Twin q) b.root b'.root
  anchors : b'.anchors = b.anchors
  nextAnchor : b'.nextAnchor = b.nextAnchor

theorem addKey_twin (flow : Bool) (hk : Node.Twin q k k')
    (h : List.Forall₂ (PairTwin q) pairs pairs')
    : List.Forall₂ (PairTwin q) (addKey flow k pairs).1 (addKey flow k' pairs').1 ∧
        Node.Twin q (addKey flow k pairs).2 (addKey flow k' pairs').2 := by
  cases h with
  | nil => exact ⟨.nil, hk⟩
  | cons hp hrest =>
    unfold addKey
    dsimp only
    split
    all_goals
      split
      all_goals exact ⟨.cons ⟨by simpa using hp.1, hp.2⟩ hrest, by simpa using hk⟩

theorem pair_twin (hk : Node.Twin q k k') (hv : Node.Twin q v v')
    : PairTwin q (pair k v) (pair k' v') := by
  unfold pair
  split
  all_goals
    split
    all_goals exact ⟨by simpa using hk, by simpa using hv⟩

theorem BuilderTwin.attach (hb : BuilderTwin q b b') (hn : Node.Twin q n n')
    : BuilderTwin q (b.attach n) (b'.attach n') := by
  obtain ⟨hframes, hroot, hanchors, hnext⟩ := hb
  unfold Builder.attach
  generalize b.frames = frames at hframes ⊢
  generalize b'.frames = frames' at hframes ⊢
  cases hframes with
  | nil => exact ⟨.nil, .some hn, hanchors, hnext⟩
  | cons hframe hrest =>
    cases hframe with
    | sequence flow hi hitems =>
      exact ⟨.cons (.sequence flow hi (.cons hn hitems)) hrest, hroot, hanchors, hnext⟩
    | mapping flow hi hpairs hkey =>
      cases hkey with
      | none =>
        obtain ⟨hpairs, hkey⟩ := addKey_twin flow hn hpairs
        exact ⟨.cons (.mapping flow hi hpairs (.some hkey)) hrest, hroot, hanchors, hnext⟩
      | some hkey =>
        exact ⟨.cons (.mapping flow hi (.cons (pair_twin hkey hn) hpairs) .none) hrest, hroot,
          hanchors, hnext⟩

theorem closeMapping_twin {i i' : NodeInfo} (flow : Bool) (r r' : Remarks) (hi : i'.bare = i.bare)
    (h : List.Forall₂ (PairTwin q) pairs pairs')
    : Node.Twin q (closeMapping i flow pairs r) (closeMapping i' flow pairs' r') := by
  have hend (r r' : Remarks) : (endRemarks i' r').bare = (endRemarks i r).bare := hi
  cases h with
  | nil => exact .mapping flow (hend r r') .nil
  | cons hp hrest =>
    unfold closeMapping
    dsimp only
    split
    all_goals
      split
      all_goals
        refine .mapping flow (hend _ _) (List.forall₂_reverse_iff.mpr (.cons ?_ hrest))
        exact ⟨by simpa using hp.1, hp.2⟩

theorem BuilderTwin.close (hb : BuilderTwin q b b') (r r' : Remarks)
    : BuilderTwin q (b.close r) (b'.close r') := by
  obtain ⟨hframes, hroot, hanchors, hnext⟩ := hb
  unfold Builder.close
  generalize hl : b.frames = frames at hframes ⊢
  generalize hl' : b'.frames = frames' at hframes ⊢
  cases hframes with
  | nil => exact ⟨by rw [hl, hl']; exact .nil, hroot, hanchors, hnext⟩
  | cons hframe hrest =>
    cases hframe with
    | sequence flow hi hitems =>
      refine BuilderTwin.attach ⟨hrest, hroot, hanchors, hnext⟩ ?_
      exact .sequence flow hi (List.forall₂_reverse_iff.mpr hitems)
    | mapping flow hi hpairs _ =>
      exact BuilderTwin.attach ⟨hrest, hroot, hanchors, hnext⟩
        (closeMapping_twin flow r r' hi hpairs)

theorem BuilderTwin.name (hb : BuilderTwin q b b') (anchor : Text)
    : BuilderTwin q (b.name anchor).1 (b'.name anchor).1 ∧
      (b'.name anchor).2 = (b.name anchor).2 := by
  unfold Builder.name
  split
  . exact ⟨hb, rfl⟩
  . rw [hb.nextAnchor]
    exact ⟨⟨hb.frames, hb.root, by rw [hb.anchors], rfl⟩, rfl⟩

theorem scalar_twin {x x' : List Char} (e e' : Event) (anchor : Option Anchor) (tag : Text)
    (style : ScalarStyle) (h : Alike q x x')
    : Node.Twin q (.scalar (infoOf e anchor tag (defaultTag (Text.ofChars x) style))
        (Text.ofChars x) style)
        (.scalar (infoOf e' anchor tag (defaultTag (Text.ofChars x') style)) (Text.ofChars x')
          style) := by
  constructor
  . have htag : style ≠ .plain →
      defaultTag (Text.ofChars x') style = defaultTag (Text.ofChars x) style := by
      intro hstyle
      simp [defaultTag, hstyle]
    simp only [Node.skeleton, Text.squeeze_ofChars, h.squeeze_eq, infoOf]
    by_cases hstyle : style = .plain
    . simp only [hstyle, bne_self_eq_false, Bool.or_false]
      split
      . rfl
      . rfl
    . rw [htag hstyle]
      rfl
  . intro hq
    rw [h.eq hq]
    rfl

theorem step_twin {e e' : Event} (hb : BuilderTwin q b b') (he : Parser.EventKeeps q e e')
    : Simulates (BuilderTwin q) (b.step e) (b'.step e') := by
  unfold Parser.EventKeeps at he
  unfold Builder.step
  generalize e.kind = l at he ⊢
  generalize e'.kind = l' at he ⊢
  cases he with
  | scalar anchor tag h style =>
    obtain ⟨hname, hanchor⟩ := hb.name anchor
    dsimp only
    rw [hanchor]
    exact .ok (hname.attach (scalar_twin e e' _ tag style h))
  | same l =>
    split
    . rw [hb.anchors]
      split
      . exact .ok (hb.attach ⟨rfl, fun _ => rfl⟩)
      . exact .error _ _
    . next anchor tag value style =>
      obtain ⟨hname, hanchor⟩ := hb.name anchor
      dsimp only
      rw [hanchor]
      exact .ok (hname.attach ⟨rfl, fun _ => rfl⟩)
    . next anchor tag flow =>
      obtain ⟨hname, hanchor⟩ := hb.name anchor
      dsimp only
      rw [hanchor]
      exact .ok ⟨.cons (.sequence flow rfl .nil) hname.frames, hname.root, hname.anchors,
        hname.nextAnchor⟩
    . next anchor tag flow =>
      obtain ⟨hname, hanchor⟩ := hb.name anchor
      dsimp only
      rw [hanchor]
      exact .ok ⟨.cons (.mapping flow rfl .nil .none) hname.frames, hname.root, hname.anchors,
        hname.nextAnchor⟩
    . exact .ok (hb.close _ _)
    . exact .ok (hb.close _ _)
    . exact .ok hb

end Builder

theorem isSome_find?_kind {q : Prop} {es es' : List Event}
    (h : List.Forall₂ (Parser.EventKeeps q) es es') {k : EventKind}
    (hk : ∀ anchor tag v style, k ≠ .scalar anchor tag v style)
    : (es'.find? (·.kind == k)).isSome = (es.find? (·.kind == k)).isSome := by
  induction h with
  | nil => rfl
  | cons he _ ih =>
    rw [List.find?_cons, List.find?_cons, Parser.EventKeeps.beq he hk]
    split
    . rfl
    . exact ih

theorem foldlM_twin {q : Prop} {es es' : List Event} {b b' : Builder}
    (h : List.Forall₂ (Parser.EventKeeps q) es es') (hb : b.BuilderTwin q b')
    : Simulates (Builder.BuilderTwin q) (es.foldlM Builder.step b)
      (es'.foldlM Builder.step b') := by
  induction h generalizing b b' with
  | nil => exact .pure hb
  | cons he _ ih =>
    rw [List.foldlM_cons, List.foldlM_cons]
    exact (Builder.step_twin hb he).bind fun _ _ => ih

/-- The tree of the same events. -/
theorem ofEvents_twin {q : Prop} {es es' : EventStream} {t : Tree} (hfault : es'.fault = none)
    (h : List.Forall₂ (Parser.EventKeeps q) es.events es'.events)
    (ht : Tree.ofEvents es = .ok (some t))
    : ∃ t', Tree.ofEvents es' = .ok (some t') ∧ Node.Twin q t.root t'.root := by
  have hstart := isSome_find?_kind h (k := .documentStart) (by simp)
  have hstop := isSome_find?_kind h (k := .documentEnd) (by simp)
  unfold Tree.ofEvents at ht ⊢
  cases hrun : es.events.foldlM Builder.step {} with
  | error e => simp [hrun, bind, Except.bind] at ht
  | ok b =>
    obtain ⟨b', hrun', hb⟩ := foldlM_twin h ⟨.nil, .none, rfl, rfl⟩ b hrun
    have hroot := hb.root
    simp only [hrun, bind, Except.bind] at ht
    simp only [hrun', hfault, bind, Except.bind]
    generalize b.root = root at hroot ht
    generalize b'.root = root' at hroot ⊢
    generalize es.events.find? (·.kind == .documentStart) = start at hstart ht
    generalize es'.events.find? (·.kind == .documentStart) = start' at hstart ⊢
    generalize es.events.find? (·.kind == .documentEnd) = stop at hstop ht
    generalize es'.events.find? (·.kind == .documentEnd) = stop' at hstop ⊢
    split at ht
    . cases ht
    . split at ht
      . next root start stop =>
        obtain ⟨start', rfl⟩ := Option.isSome_iff_exists.mp hstart
        obtain ⟨stop', rfl⟩ := Option.isSome_iff_exists.mp hstop
        cases hroot with
        | some hroot =>
          cases ht
          exact ⟨_, rfl, hroot⟩
      . cases ht

end Yaml
end YamlOrder
