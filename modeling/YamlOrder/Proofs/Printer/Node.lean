import YamlOrder.Proofs.Printer.Scalar
import YamlOrder.Yaml.Node.Render

/-!
This module contains the trees that are written in the same way: one is written as the other with
some words put for others, since both have the same properties, and the scalars of both are written
in the same styles.
-/

namespace YamlOrder
namespace Yaml

namespace Node

/--
The style in which a scalar is written at a place: inside of a flow collection, or as a key without
indicator.
-/
def writtenStyle (inFlow simpleKey : Bool) (i : NodeInfo) (value : Text) (style : ScalarStyle)
    : ScalarStyle :=
  (Analysis.ofValue (Text.toChars value)).style (wantedStyle i value style)
  (Text.toChars value).isEmpty inFlow simpleKey

/-- Nodes with the same anchor, the same tag and the same comments. -/
structure SameProperties (n n' : Node) : Prop where
  anchor : n'.info.anchor.map (·.name) = n.info.anchor.map (·.name)
  tag : n'.writtenTag = n.writtenTag
  remarks : n'.info.remarks = n.info.remarks

variable (R : List Char → List Char → Prop)

mutual

/-- Nodes that are written in the same way, but for words. -/
def Alike (inFlow simpleKey : Bool) : Node → Node → Prop
  | .scalar i value style, .scalar i' value' style' =>
    SameProperties (.scalar i value style) (.scalar i' value' style') ∧
      writtenStyle inFlow simpleKey i' value' style' = writtenStyle inFlow simpleKey i value style ∧
      Printer.SpeltIn R (writtenStyle inFlow simpleKey i value style) (Text.toChars value)
      (Text.toChars value')
  | .sequence i flow items, .sequence i' flow' items' =>
    SameProperties (.sequence i flow []) (.sequence i' flow' []) ∧
      (inFlow || flow') = (inFlow || flow) ∧
      AlikeItems (inFlow || flow) items items'
  | .mapping i flow pairs, .mapping i' flow' pairs' =>
    SameProperties (.mapping i flow []) (.mapping i' flow' []) ∧
      (inFlow || flow') = (inFlow || flow) ∧
      AlikePairs (inFlow || flow) pairs pairs'
  | .alias i name _, .alias i' name' _ => i'.remarks = i.remarks ∧ name' = name
  | _, _ => False

def AlikeItems (inFlow : Bool) : List Node → List Node → Prop
  | [], [] => True
  | n :: rest, n' :: rest' => Alike inFlow false n n' ∧ AlikeItems inFlow rest rest'
  | _, _ => False

/-- Both keys need an indicator, or neither does. -/
def AlikePairs (inFlow : Bool) : List (Node × Node) → List (Node × Node) → Prop
  | [], [] => True
  | (k, v) :: rest, (k', v') :: rest' =>
    k'.isSimpleKey = k.isSimpleKey ∧ Alike inFlow k.isSimpleKey k k' ∧ Alike inFlow false v v' ∧
      AlikePairs inFlow rest rest'
  | _, _ => False

end

variable {R} {inFlow simpleKey : Bool} {n n' : Node} {items items' : List Node}
  {pairs pairs' : List (Node × Node)}

theorem AlikeItems.isEmpty_eq (h : AlikeItems R inFlow items items')
    : items'.isEmpty = items.isEmpty := by
  cases items with
  | nil =>
    cases items' with
    | nil => rfl
    | cons n' items' => exact h.elim
  | cons n items =>
    cases items' with
    | nil => exact h.elim
    | cons n' items' => rfl

theorem AlikePairs.isEmpty_eq (h : AlikePairs R inFlow pairs pairs')
    : pairs'.isEmpty = pairs.isEmpty := by
  cases pairs with
  | nil =>
    cases pairs' with
    | nil => rfl
    | cons p' pairs' => exact h.elim
  | cons p pairs =>
    cases pairs' with
    | nil => exact h.elim
    | cons p' pairs' => rfl

theorem AlikeItems.toFlow (h : AlikeItems R inFlow items items')
    (hflow : (inFlow || items.isEmpty) = true)
    : AlikeItems R true items items' := by
  cases items with
  | nil =>
    cases items' with
    | nil => trivial
    | cons n' items' => exact h.elim
  | cons n items =>
    obtain rfl : inFlow = true := by simpa using hflow
    exact h

theorem AlikePairs.toFlow (h : AlikePairs R inFlow pairs pairs')
    (hflow : (inFlow || pairs.isEmpty) = true)
    : AlikePairs R true pairs pairs' := by
  cases pairs with
  | nil =>
    cases pairs' with
    | nil => trivial
    | cons p' pairs' => exact h.elim
  | cons p pairs =>
    obtain rfl : inFlow = true := by simpa using hflow
    exact h

theorem Alike.cases (h : Alike R inFlow simpleKey n n')
    : n'.remarks = n.remarks ∧ n'.startRemarks = n.startRemarks ∧ n'.isScalar = n.isScalar ∧
        (inFlow = false → n'.isBlockCollection = n.isBlockCollection) ∧
        ∀ (p : Printer) (tail : Text), p.noteKey n' tail = p.noteKey n tail := by
  unfold Alike at h
  split at h
  . obtain ⟨hproperties, -⟩ := h
    have hremarks := hproperties.remarks
    simp only [info] at hremarks
    simp [remarks, info, startRemarks, isScalar, isBlockCollection, Printer.noteKey, hremarks]
  . obtain ⟨hproperties, hflow, -⟩ := h
    have hremarks := hproperties.remarks
    simp only [info] at hremarks
    simp [remarks, info, startRemarks, isScalar, isBlockCollection, Printer.noteKey, hremarks]
    rintro rfl
    simpa using hflow
  . obtain ⟨hproperties, hflow, -⟩ := h
    have hremarks := hproperties.remarks
    simp only [info] at hremarks
    simp [remarks, info, startRemarks, isScalar, isBlockCollection, Printer.noteKey, hremarks]
    rintro rfl
    simpa using hflow
  . obtain ⟨hremarks, -⟩ := h
    simp [remarks, info, startRemarks, isScalar, isBlockCollection, Printer.noteKey, hremarks]
  . exact h.elim

end Node

namespace Printer

open Node (SameProperties Alike AlikeItems AlikePairs)

variable {R : List Char → List Char → Prop} {p q : Printer} {l : Nat} {inFlow simpleKey : Bool}
  {n n' : Node}

theorem Twin.writeProperties (h : Twin R l p q) (hn : SameProperties n n')
    : Twin R l (p.writeProperties n) (q.writeProperties n') := by
  unfold Printer.writeProperties
  rw [hn.tag]
  have hname := hn.anchor
  cases ha : n.info.anchor with
  | none =>
    rw [ha, Option.map_none, Option.map_eq_none_iff] at hname
    rw [hname]
    dsimp only
    split
    . exact h
    . split
      . exact ((h.indicator _ _ _ _).putAll _).indicator _ _ _ _
      . exact (h.separate.putAll _).withFlags false
  | some a =>
    rw [ha, Option.map_some, Option.map_eq_some_iff] at hname
    obtain ⟨a', ha', hname⟩ := hname
    rw [ha']
    dsimp only
    rw [hname]
    have hanchor :=
      ((h.indicator ['&'] true false false).putAll (Text.toChars a.name)).withFlags false
    split
    . exact hanchor
    . split
      . exact ((hanchor.indicator _ _ _ _).putAll _).indicator _ _ _ _
      . exact (hanchor.separate.putAll _).withFlags false

theorem writeScalar_eq (p : Printer) (n : Node) (value : Text) (style : ScalarStyle)
    (entry simpleKey : Bool)
    : p.writeScalar n value style entry simpleKey =
        { writeStyled { p.writeProperties n with indent := (p.writeProperties n).deeper true entry }
            (Node.writtenStyle (p.flowLevel != 0) simpleKey n.info value style)
              (Text.toChars value) with
          indent := p.indent } := rfl

theorem Twin.keepKeyLine (h : Twin R l p q) : Twin R l p.keepKeyLine q.keepKeyLine := by
  unfold Printer.keepKeyLine
  rw [h.remarks]
  split
  . exact h
  . exact { h with keyLine := rfl, remarks := rfl }

theorem Twin.writeKeyLine (h : Twin R l p q) (hn : Alike R false false n n')
    : Twin R l (p.writeKeyLine n) (q.writeKeyLine n') := by
  obtain ⟨-, -, hscalar, hblock, -⟩ := hn.cases
  unfold Printer.writeKeyLine
  rw [h.keyLine, h.remarks, hscalar, hblock rfl]
  split
  . exact h
  . split
    . split
      . exact { h with keyLine := rfl, remarks := rfl }
      . exact h
    . split
      . have hkey : Twin R l { p with remarks := { p.remarks with line := p.keyLine } }
            { q with remarks := { p.remarks with line := p.keyLine }, keyLine := p.keyLine } :=
          { h with remarks := rfl, keyLine := rfl }
        have hline := hkey.writeLine
        refine { hline with keyLine := rfl, remarks := ?_ }
        simp only [hline.remarks]
      . exact h

theorem Twin.noteKey (h : Twin R l p q) (k : Node) (tail : Text)
    : Twin R l (p.noteKey k tail) (q.noteKey k tail) := by
  cases k
  all_goals exact h.note _ _

theorem Twin.writeFlowAfter (h : Twin R l p q) : Twin R l p.writeFlowAfter q.writeFlowAfter := by
  unfold Printer.writeFlowAfter
  rw [h.hasTrail]
  split
  . exact (h.indicator _ _ _ _).writeAfter
  . exact h.writeAfter

theorem Twin.writeIndentAtStart (h : Twin R l p q)
    : Twin R l (if p.column == 0 then p.writeIndent else p)
      (if q.column == 0 then q.writeIndent else q) := by
  have hstart : (q.column == 0) = (p.column == 0) := by
    rw [Bool.eq_iff_iff, beq_iff_eq, beq_iff_eq]
    exact h.start
  rw [hstart]
  split
  . exact h.writeIndent
  . exact h

theorem Twin.beforeFlowEntry (h : Twin R l p q) (first trail : Bool)
    : Twin R l (p.beforeFlowEntry first trail) (q.beforeFlowEntry first trail) := by
  unfold Printer.beforeFlowEntry
  refine Twin.writeIndentAtStart (Twin.writeHead ?_)
  split
  . exact h
  . exact h.indicator _ _ _ _

/-- Open a flow collection. -/
def openFlow (s : List Char) (inner : Int) (p : Printer) : Printer :=
  { p.indicator s true true false with indent := inner, flowLevel := p.flowLevel + 1 }

theorem Twin.openFlow (h : Twin R l p q) (s : List Char) (inner : Int)
    : Twin R (l + 1) (p.openFlow s inner) (q.openFlow s inner) :=
  { h.indicator s true true false with
    indent := rfl, level := congrArg (· + 1) h.level, level' := congrArg (· + 1) h.level' }

theorem Twin.close (h : Twin R (l + 1) p q) (indent : Int)
    : Twin R l { p with indent, flowLevel := p.flowLevel - 1 }
      { q with indent, flowLevel := q.flowLevel - 1 } := by
  refine { h with indent := rfl, level := ?_, level' := ?_ }
  . simp [h.level]
  . simp [h.level']

/-- Write the end of a flow mapping; nothing has been written of one without pairs. -/
def endFlowMapping (p : Printer) (r : Remarks) (indent inner : Int) (empty trail : Bool)
    (tail : Text) : Printer :=
  let p := p.note r tail
  let p := if empty then p.openFlow ['\x7b'] inner else p
  let comma := !(p.remarks.head.isEmpty && p.remarks.foot.isEmpty && p.tail.isEmpty) &&
    !empty && !trail
  let p := (if comma then p.indicator [','] false false false else p).writeHead
  let p := { p with indent, flowLevel := p.flowLevel - 1 }
  (p.indicator ['\x7d'] false false false).writeAfter

theorem writeNode_mapping (p : Printer) (entry simpleKey : Bool) (after : Printer → Printer)
    (i : NodeInfo) (flow : Bool) (pairs : List (Node × Node))
    : p.writeNode entry simpleKey after (.mapping i flow pairs) =
        let p := after (p.writeProperties (.mapping i flow []))
        if p.flowLevel != 0 || flow || pairs.isEmpty then
          let r := p.writeFlowPairs (openFlow ['\x7b'] (p.deeper true entry)) true false [] pairs
          r.1.endFlowMapping (Node.endRemarks i) p.indent (p.deeper true entry)
            pairs.isEmpty r.2.1 r.2.2
        else
          let r := { p with indent := p.deeper false entry }.writePairs [] pairs
          { (r.1.note (Node.endRemarks i) r.2).writeHead with indent := p.indent } := by
  rw [writeNode]
  rfl

theorem Twin.endFlowMapping {empty : Bool} (h : Twin R (if empty then l else l + 1) p q)
    (r : Remarks) (indent inner : Int) (trail : Bool) (tail : Text)
    : Twin R l (p.endFlowMapping r indent inner empty trail tail)
      (q.endFlowMapping r indent inner empty trail tail) := by
  have hopen : Twin R (l + 1)
      (if empty = true then (p.note r tail).openFlow ['\x7b'] inner else p.note r tail)
      (if empty = true then (q.note r tail).openFlow ['\x7b'] inner else q.note r tail)
      := by
    cases empty with
    | true => exact (h.note _ _).openFlow _ _
    | false => exact h.note _ _
  unfold Printer.endFlowMapping
  dsimp only
  generalize (if empty = true then (p.note r tail).openFlow ['\x7b'] inner
    else p.note r tail) = p at hopen
  generalize (if empty = true then (q.note r tail).openFlow ['\x7b'] inner
    else q.note r tail) = q at hopen
  rw [hopen.remarks, hopen.tail]
  refine Twin.writeAfter (Twin.indicator (Twin.close (Twin.writeHead ?_) indent) _ _ _ _)
  split
  . exact hopen.indicator _ _ _ _
  . exact hopen

mutual

theorem Twin.writeNode {p q : Printer} {l : Nat} {inFlow simpleKey : Bool} {n n' : Node}
    {after after' : Printer → Printer} (hR : ∀ {w w'}, R w w' → IsWord w ∧ IsWord w')
    (h : Twin R l p q) (hl : (l != 0) = inFlow) (hn : Alike R inFlow simpleKey n n') (entry : Bool)
    (hafter : ∀ {p q}, Twin R l p q → Twin R l (after p) (after' q))
    : Twin R l (p.writeNode entry simpleKey after n) (q.writeNode entry simpleKey after' n') := by
  match n, n', hn with
  | .scalar i value style, .scalar i' value' style', hn =>
    obtain ⟨hproperties, hstyle, hspelt⟩ := hn
    have hp := h.writeProperties hproperties
    have hlevel : (p.flowLevel != 0) = inFlow := by rw [h.level, hl]
    have hlevel' : (q.flowLevel != 0) = inFlow := by rw [h.level', hl]
    simp only [Printer.writeNode]
    rw [writeScalar_eq, writeScalar_eq, hlevel, hlevel']
    simp only [Node.info]
    rw [hstyle, hp.deeper, h.indent]
    exact hafter ((hspelt.twin_writeStyled hR (hp.withIndent _)).withIndent _)
  | .alias i name target, .alias i' name' target', hn =>
    obtain ⟨-, hname⟩ := hn
    subst hname
    simp only [Printer.writeNode]
    exact hafter (((h.indicator _ _ _ _).putAll _).withFlags false)
  | .sequence i flow items, .sequence i' flow' items', hn =>
    obtain ⟨hproperties, hflow, hitems⟩ := hn
    have hp := hafter (h.writeProperties hproperties)
    have hremarks : Node.endRemarks i' = Node.endRemarks i := by
      have hremarks := hproperties.remarks
      simp only [Node.info] at hremarks
      rw [Node.endRemarks, Node.endRemarks, hremarks]
    simp only [Printer.writeNode]
    generalize after (p.writeProperties (.sequence i flow [])) = p at hp
    generalize after' (q.writeProperties (.sequence i' flow' [])) = q at hp
    have hinFlow : (q.flowLevel != 0 || flow' || items'.isEmpty) =
      (p.flowLevel != 0 || flow || items.isEmpty) := by
      rw [hp.level, hp.level', hl, hflow, hitems.isEmpty_eq]
    rw [hinFlow, hitems.isEmpty_eq, hp.indent, hremarks]
    split
    . next hcond =>
      rw [hp.level, hl] at hcond
      have hnote : Twin R l (if items.isEmpty = true then p.note (Node.endRemarks i) [] else p)
          (if items.isEmpty = true then q.note (Node.endRemarks i) [] else q) := by
        split
        . exact hp.note _ _
        . exact hp
      generalize (if items.isEmpty = true then p.note (Node.endRemarks i) [] else p) = p' at hnote
      generalize (if items.isEmpty = true then q.note (Node.endRemarks i) [] else q) = q' at hnote
      rw [hnote.deeper]
      have hinner := Twin.writeFlowItems hR true false hnote (hitems.toFlow hcond)
        fun h => h.openFlow ['['] (p'.deeper true entry)
      refine Twin.writeAfter (Twin.indicator (Twin.writeIndentAtStart (Twin.close ?_ _)) _ _ _ _)
      split
      . exact hinner
      . exact hinner.note _ _
    . next hcond =>
      rw [hp.level, hl] at hcond
      rw [hp.deeper]
      obtain ⟨⟨rfl, rfl⟩, -⟩ : (inFlow = false ∧ flow = false) ∧ items.isEmpty = false := by
        simpa using hcond
      have hinner := (hp.withIndent (p.deeper false entry)).writeItems hR hl hitems
      exact (hinner.note _ _).withIndent _
  | .mapping i flow pairs, .mapping i' flow' pairs', hn =>
    obtain ⟨hproperties, hflow, hpairs⟩ := hn
    have hp := hafter (h.writeProperties hproperties)
    have hremarks : Node.endRemarks i' = Node.endRemarks i := by
      have hremarks := hproperties.remarks
      simp only [Node.info] at hremarks
      rw [Node.endRemarks, Node.endRemarks, hremarks]
    rw [writeNode_mapping, writeNode_mapping]
    generalize after (p.writeProperties (.mapping i flow [])) = p at hp
    generalize after' (q.writeProperties (.mapping i' flow' [])) = q at hp
    have hinFlow : (q.flowLevel != 0 || flow' || pairs'.isEmpty) =
      (p.flowLevel != 0 || flow || pairs.isEmpty) := by
      rw [hp.level, hp.level', hl, hflow, hpairs.isEmpty_eq]
    dsimp only
    rw [hinFlow, hp.indent, hp.deeper, hp.deeper, hremarks]
    split
    . next hcond =>
      rw [hp.level, hl] at hcond
      obtain ⟨hinner, hrest⟩ := Twin.writeFlowPairs hR true false [] hp (hpairs.toFlow hcond)
        fun h => h.openFlow ['\x7b'] (p.deeper true entry)
      rw [hrest, hpairs.isEmpty_eq]
      exact hinner.endFlowMapping _ _ _ _ _
    . next hcond =>
      rw [hp.level, hl] at hcond
      obtain ⟨⟨rfl, rfl⟩, -⟩ : (inFlow = false ∧ flow = false) ∧ pairs.isEmpty = false := by
        simpa using hcond
      obtain ⟨hinner, htail⟩ := (hp.withIndent (p.deeper false entry)).writePairs hR hl [] hpairs
      rw [htail]
      exact ((hinner.note _ _).writeHead).withIndent _
termination_by structural n

theorem Twin.writeItems {p q : Printer} {l : Nat} {items items' : List Node}
    (hR : ∀ {w w'}, R w w' → IsWord w ∧ IsWord w') (h : Twin R l p q) (hl : (l != 0) = false)
    (hn : AlikeItems R false items items')
    : Twin R l (p.writeItems items) (q.writeItems items') := by
  match items, items', hn with
  | [], [], _ => exact h
  | n :: rest, n' :: rest', hn =>
    obtain ⟨hhead, hrest⟩ := hn
    obtain ⟨-, hstart, -⟩ := hhead.cases
    simp only [Printer.writeItems]
    rw [hstart]
    have hdash := (h.note n.startRemarks []).writeHead.writeIndent.indicator ['-'] true false true
    exact (hdash.writeNode hR hl hhead true fun h => h.writeAfter).writeItems hR hl hrest
termination_by structural items

theorem Twin.writeFlowItems {p q : Printer} {l : Nat} {items items' : List Node}
    {bracket bracket' : Printer → Printer} (hR : ∀ {w w'}, R w w' → IsWord w ∧ IsWord w')
    (first trail : Bool) (h : Twin R (if first then l else l + 1) p q)
    (hn : AlikeItems R true items items')
    (hbracket : ∀ {p q}, Twin R l p q → Twin R (l + 1) (bracket p) (bracket' q))
    : Twin R (l + 1) (p.writeFlowItems bracket first trail items)
      (q.writeFlowItems bracket' first trail items') := by
  match items, items', hn with
  | [], [], _ =>
    simp only [Printer.writeFlowItems]
    cases first with
    | true => exact hbracket h
    | false => exact h
  | n :: rest, n' :: rest', hn =>
    obtain ⟨hhead, hrest⟩ := hn
    obtain ⟨-, hstart, -⟩ := hhead.cases
    simp only [Printer.writeFlowItems]
    rw [hstart]
    have hopen : Twin R (l + 1) (if first = true then bracket (p.note n.startRemarks [])
      else p.note n.startRemarks [])
        (if first = true then bracket' (q.note n.startRemarks []) else q.note n.startRemarks []) :=
          by
      cases first with
      | true => exact hbracket (h.note _ _)
      | false => exact h.note _ _
    have hentry := hopen.beforeFlowEntry first trail
    rw [hentry.hasTrail]
    exact Twin.writeFlowItems hR false
      _ (hentry.writeNode hR (by simp) hhead false fun h => h.writeFlowAfter) hrest hbracket
termination_by structural items

theorem Twin.writePairs {p q : Printer} {l : Nat} {pairs pairs' : List (Node × Node)}
    (hR : ∀ {w w'}, R w w' → IsWord w ∧ IsWord w') (h : Twin R l p q) (hl : (l != 0) = false)
    (tail : Text) (hn : AlikePairs R false pairs pairs')
    : Twin R l (p.writePairs tail pairs).1 (q.writePairs tail pairs').1 ∧
        (q.writePairs tail pairs').2 = (p.writePairs tail pairs).2 := by
  match pairs, pairs', hn with
  | [], [], _ => exact ⟨h, rfl⟩
  | (k, v) :: rest, (k', v') :: rest', hn =>
    obtain ⟨hsimple, hkey, hvalue, hrest⟩ := hn
    obtain ⟨hkeyRemarks, -, -, -, hnote⟩ := hkey.cases
    obtain ⟨-, hstart, -⟩ := hvalue.cases
    have hbefore : Twin R l (p.noteKey k tail).writeHead.writeIndent.keepKeyLine
        (q.noteKey k tail).writeHead.writeIndent.keepKeyLine :=
          (h.noteKey k tail).writeHead.writeIndent.keepKeyLine
    simp only [Printer.writePairs]
    rw [hnote, hsimple, hkeyRemarks, hstart]
    have hopen : Twin R l
        (if k.isSimpleKey = true then (p.noteKey k tail).writeHead.writeIndent.keepKeyLine
          else (p.noteKey k tail).writeHead.writeIndent.keepKeyLine.indicator ['?'] true false true)
        (if k.isSimpleKey = true then (q.noteKey k tail).writeHead.writeIndent.keepKeyLine
          else (q.noteKey k tail).writeHead.writeIndent.keepKeyLine.indicator ['?'] true
            false true) := by
      split
      . exact hbefore
      . exact hbefore.indicator _ _ _ _
    generalize (if k.isSimpleKey = true then (p.noteKey k tail).writeHead.writeIndent.keepKeyLine
      else (p.noteKey k tail).writeHead.writeIndent.keepKeyLine.indicator ['?'] true false true) =
        p at hopen
    generalize (if k.isSimpleKey = true then (q.noteKey k tail).writeHead.writeIndent.keepKeyLine
      else (q.noteKey k tail).writeHead.writeIndent.keepKeyLine.indicator ['?'] true false true) =
        q at hopen
    have hwritten :=
      (hopen.writeNode hR hl hkey false fun h => show Twin R l (id _) (id _) from h).note
      v.startRemarks []
    refine Twin.writePairs hR (Twin.writeNode hR (Twin.writeKeyLine ?_ hvalue) hl hvalue false
      fun h => h.writeAfter) hl _ hrest
    split
    . exact hwritten.indicator _ _ _ _
    . exact hwritten.writeIndent.indicator _ _ _ _
termination_by structural pairs

theorem Twin.writeFlowPairs {p q : Printer} {l : Nat} {pairs pairs' : List (Node × Node)}
    {bracket bracket' : Printer → Printer} (hR : ∀ {w w'}, R w w' → IsWord w ∧ IsWord w')
    (first trail : Bool) (tail : Text) (h : Twin R (if first then l else l + 1) p q)
    (hn : AlikePairs R true pairs pairs')
    (hbracket : ∀ {p q}, Twin R l p q → Twin R (l + 1) (bracket p) (bracket' q))
    : Twin R (if first && pairs.isEmpty then l else l + 1)
      (p.writeFlowPairs bracket first trail tail pairs).1
          (q.writeFlowPairs bracket' first trail tail pairs').1 ∧
        (q.writeFlowPairs bracket' first trail tail pairs').2 =
        (p.writeFlowPairs bracket first trail tail pairs).2 := by
  match pairs, pairs', hn with
  | [], [], _ =>
    refine ⟨?_, rfl⟩
    cases first with
    | true => exact h
    | false => exact h
  | (k, v) :: rest, (k', v') :: rest', hn =>
    obtain ⟨hsimple, hkey, hvalue, hrest⟩ := hn
    obtain ⟨hkeyRemarks, -, -, -, hnote⟩ := hkey.cases
    obtain ⟨-, hstart, -⟩ := hvalue.cases
    simp only [Printer.writeFlowPairs]
    rw [hnote, hsimple, hkeyRemarks, hstart]
    have hopen : Twin R (l + 1) (if first = true then bracket (p.noteKey k tail)
      else p.noteKey k tail)
        (if first = true then bracket' (q.noteKey k tail) else q.noteKey k tail) := by
      cases first with
      | true => exact hbracket (h.noteKey k tail)
      | false => exact h.noteKey k tail
    have hentry := hopen.beforeFlowEntry first trail
    generalize (if first = true then bracket (p.noteKey k tail)
      else p.noteKey k tail).beforeFlowEntry first trail = p
      at hentry
    generalize (if first = true then bracket' (q.noteKey k tail)
      else q.noteKey k tail).beforeFlowEntry first trail = q
      at hentry
    have hquestion : Twin R (l + 1)
      (if k.isSimpleKey = true then p else p.indicator ['?'] true false false)
        (if k.isSimpleKey = true then q else q.indicator ['?'] true false false) := by
      split
      . exact hentry
      . exact hentry.indicator _ _ _ _
    have hwritten := ((hquestion.writeNode hR (by simp) hkey false fun h =>
      show Twin R (l + 1) (id _) (id _) from h).note v.startRemarks []).indicator [':']
        (!k.isSimpleKey) false false
    rw [hwritten.hasTrail]
    generalize Printer.indicator _ [':'] (!k.isSimpleKey) false false = p at hwritten
    generalize Printer.indicator _ [':'] (!k.isSimpleKey) false false = q at hwritten
    have hlater := Twin.writeFlowPairs (l := l) hR false p.hasTrail k.remarks.foot
      (hwritten.writeNode hR (by simp) hvalue false fun h => h.writeFlowAfter) hrest hbracket
    simpa using hlater
termination_by structural pairs

end

end Printer

/-- Documents that are written in the same way, but for words. -/
structure Tree.Alike (R : List Char → List Char → Prop) (t t' : Tree) : Prop where
  root : Node.Alike R false false t.root t'.root
  head : t'.head = t.head
  foot : t'.foot = t.foot

/-- Documents that are written in the same way become texts that differ in words. -/
theorem Tree.Alike.render {R : List Char → List Char → Prop} {t t' : Tree} (h : t.Alike R t')
    (hR : ∀ {w w'}, R w w' → IsWord w ∧ IsWord w') (width : Nat)
    : ∃ u v, t.render width = Text.ofChars u ∧ t'.render width = Text.ofChars v ∧
      Respelled R u v := by
  have hstart : Printer.Twin R 0 { width } { width } := by
    constructor
    all_goals simp
    exact .nil
  obtain ⟨-, hremarks, -⟩ := h.root.cases
  unfold Tree.render
  rw [h.head, h.foot, hremarks]
  dsimp only
  have hhead : Printer.Twin R 0
      (if t.head.isEmpty = true then ({ width } : Printer)
        else ((Printer.note { width } { head := t.head } []).writeHead).putBreak)
      (if t.head.isEmpty = true then ({ width } : Printer)
        else ((Printer.note { width } { head := t.head } []).writeHead).putBreak) := by
    split
    . exact hstart
    . exact (hstart.note _ _).writeHead.putBreak
  have hroot := ((hhead.note t.root.startRemarks []).writeHead).writeNode hR rfl h.root false
    fun h => h.writeAfter
  have hfoot := ((hroot.note { foot := t.foot } []).withFootIndent 0).writeFoot
  exact ⟨_, _, rfl, rfl, (hfoot.withFootIndent (-1)).writeIndent.out⟩

end Yaml
end YamlOrder
