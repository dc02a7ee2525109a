import YamlOrder.Yaml.Event.Parser

/-!
This module contains what one step of the grammar does to its stack: which event it may emit in a
state, and what it expects afterwards.
-/

namespace YamlOrder
namespace Yaml
namespace Parser

variable {α β : Type}

/-- What is expected next, and what the grammar goes on with when a node is complete. -/
abbrev Control := Expect × List Expect

def control (p : Parser) : Control := (p.expect, p.stack)

/-- What is expected after a node is complete. -/
def popped (stack : List Expect) : Control := (stack.headD .nothing, stack.tail)

/-- A part of the grammar that changes what is expected in one way only. -/
def Acts (m : Parse α) (g : Control → Control) : Prop :=
  ∀ p a p', m.run p = .ok (a, p') → p'.control = g p.control

/-- A part of the grammar that does not change what is expected. -/
def Still (m : Parse α) : Prop := Acts m id

/-- A part of the grammar that ends in a fault. -/
def Fails (m : Parse α) : Prop := ∀ p a p', m.run p ≠ .ok (a, p')

/-- What is known of the result of a part of the grammar, and of what is expected after it. -/
def Ensures (m : Parse α) (c : Control) (Q : α → Control → Prop) : Prop :=
  ∀ p a p', p.control = c → m.run p = .ok (a, p') → Q a p'.control

variable {m : Parse α} {f : α → Parse β} {g : Control → Control} {c : Control}
  {Q : β → Control → Prop}

theorem exists_of_run_bind {p p' : Parser} {b : β} (hrun : (m >>= f).run p = .ok (b, p'))
    : ∃ a p₁, m.run p = .ok (a, p₁) ∧ (f a).run p₁ = .ok (b, p') := by
  rw [StateT.run_bind] at hrun
  cases hm : m.run p with
  | error e => simp [hm, bind, Except.bind] at hrun
  | ok r => exact ⟨r.1, r.2, rfl, by simpa [hm, bind, Except.bind] using hrun⟩

theorem Still.bind (hm : Still m) (hf : ∀ a, Still (f a)) : Still (m >>= f) := by
  intro p b p' hrun
  obtain ⟨a, p₁, hrun₁, hrun₂⟩ := exists_of_run_bind hrun
  rw [hf a p₁ b p' hrun₂, hm p a p₁ hrun₁]
  rfl

theorem Acts.then (hm : Acts m g) (hf : ∀ a, Ensures (f a) (g c) Q) : Ensures (m >>= f) c Q := by
  rintro p b p' rfl hrun
  obtain ⟨a, p₁, hrun₁, hrun₂⟩ := exists_of_run_bind hrun
  exact hf a p₁ b p' (hm p a p₁ hrun₁) hrun₂

theorem Still.then (hm : Still m) (hf : ∀ a, Ensures (f a) c Q) : Ensures (m >>= f) c Q :=
    Acts.then hm hf

theorem Still.when_then {p : Prop} [Decidable p] {m : Parse PUnit} {f : PUnit → Parse β}
    (hm : Still m) (hf : ∀ u, Ensures (f u) c Q) : Ensures (if p then m >>= f else f ()) c Q := by
  split
  . exact hm.then hf
  . exact hf ()

theorem Fails.then (hm : Fails m) : Ensures (m >>= f) c Q := by
  rintro p b p' rfl hrun
  obtain ⟨a, p₁, hrun₁, -⟩ := exists_of_run_bind hrun
  exact absurd hrun₁ (hm p a p₁)

theorem Fails.bind (hm : Fails m) : Still (m >>= f) := by
  intro p b p' hrun
  obtain ⟨a, p₁, hrun₁, -⟩ := exists_of_run_bind hrun
  exact absurd hrun₁ (hm p a p₁)

theorem Fails.ensures {m : Parse β} (hm : Fails m) : Ensures m c Q :=
  fun p b p' _ hrun => absurd hrun (hm p b p')

theorem Fails.still (hm : Fails m) : Still m := fun p a p' hrun => absurd hrun (hm p a p')

theorem Ensures.pure {b : β} (hb : Q b c) : Ensures (Pure.pure b) c Q := by
  rintro p b' p' rfl hrun
  cases hrun
  exact hb

theorem still_pure (a : α) : Still (Pure.pure a) := by
  intro p a' p' hrun
  cases hrun
  rfl

theorem still_get : Still (get : Parse Parser) := by
  intro p a p' hrun
  cases hrun
  rfl

theorem get_then {f : Parser → Parse β} (hf : ∀ p, p.control = c → Ensures (f p) c Q)
    : Ensures (get >>= f) c Q := by
  rintro p b p' hp hrun
  obtain ⟨q, p₁, hget, hrun⟩ := exists_of_run_bind hrun
  cases hget
  exact hf p hp p b p' hp hrun

theorem acts_set (q : Parser) : Acts (set q : Parse PUnit) fun _ => q.control := by
  intro p a p' hrun
  cases hrun
  rfl

theorem fails_fail (context position : Mark) (problem : Problem)
    : Fails (fail context position problem : Parse α) := by
  intro p a p' hrun
  cases hrun

theorem fails_failOpen (position : Mark) (problem : Problem)
    : Fails (failOpen position problem : Parse α) := by
  intro p a p' hrun
  cases hrun

theorem acts_modify {k : Parser → Parser} (hk : ∀ p, (k p).control = g p.control)
    : Acts (modify k : Parse PUnit) g := by
  intro p a p' hrun
  cases hrun
  exact hk p

theorem still_peek : Still peek := by
  intro p t p' hrun
  unfold peek at hrun
  obtain ⟨q, p₁, hget, hrun⟩ := exists_of_run_bind hrun
  cases hget
  split at hrun
  . cases hrun
  . dsimp only at hrun
    split at hrun
    all_goals
      cases hrun
      rfl

theorem still_skip : Still skip := acts_modify fun _ => rfl

theorem still_advance : Still advance := still_skip.bind fun _ => still_peek

theorem acts_goTo (e : Expect) : Acts (goTo e) fun c => (e, c.2) := acts_modify fun _ => rfl

theorem acts_pop : Acts pop fun c => popped c.2 := acts_modify fun _ => rfl

theorem acts_pushReturn (e : Expect) : Acts (pushReturn e) fun c => (c.1, e :: c.2) :=
    acts_modify fun _ => rfl

theorem still_openMark (m : Mark) : Still (openMark m) := acts_modify fun _ => rfl

theorem still_closeMark : Still closeMark := acts_modify fun _ => rfl

theorem still_takeRemarks : Still takeRemarks := by
  intro p r p' hrun
  cases hrun
  rfl

theorem still_takeStem : Still takeStem := by
  intro p r p' hrun
  cases hrun
  rfl

theorem still_addHandle (handle start : Text) (mark : Mark) (builtin : Bool)
    : Still (addHandle handle start mark builtin) := by
  intro p u p' hrun
  unfold addHandle at hrun
  obtain ⟨q, p₁, hget, hrun⟩ := exists_of_run_bind hrun
  cases hget
  split at hrun
  . split at hrun
    all_goals
      cases hrun
    rfl
  . cases hrun
    rfl

theorem still_directives (fuel : Nat) (versionSeen : Bool)
    : Still (directives fuel versionSeen) := by
  induction fuel generalizing versionSeen with
  | zero => exact still_pure _
  | succ fuel ih =>
    unfold directives
    refine still_peek.bind fun t => ?_
    dsimp only
    split
    . split
      . exact (fails_fail _ _ _).bind
      . split
        . exact (fails_fail _ _ _).bind
        . exact still_skip.bind fun _ => ih _
    . exact (still_addHandle _ _ _ _).bind fun _ => still_skip.bind fun _ => ih _
    . exact (still_addHandle _ _ _ _).bind fun _ => still_addHandle _ _ _ _

theorem still_skipDocumentEnds (fuel : Nat) : Still (skipDocumentEnds fuel) := by
  induction fuel with
  | zero => exact still_pure _
  | succ fuel ih =>
    unfold skipDocumentEnds
    refine still_peek.bind fun t => ?_
    split
    . exact still_skip.bind fun _ => ih
    . exact still_pure _

theorem still_properties : Still properties := by
  unfold properties
  refine still_peek.bind fun t => ?_
  split
  . refine still_advance.bind fun u => ?_
    split
    . exact still_skip.bind fun _ => still_pure _
    . exact still_pure _
  . refine still_advance.bind fun u => ?_
    split
    . exact still_skip.bind fun _ => still_pure _
    . exact still_pure _
  . exact still_pure _

theorem still_resolveTag (props : Properties) : Still (resolveTag props) := by
  unfold resolveTag
  split
  . exact still_pure _
  . split
    . exact still_pure _
    . refine still_get.bind fun p => ?_
      split
      . exact still_pure _
      . exact (fails_fail _ _ _).still

theorem still_openCollection : Still openCollection :=
  still_peek.bind fun _ => (still_openMark _).bind fun _ => still_skip

theorem still_splitStem (stem : Nat) : Still (splitStem stem) := by
  unfold splitStem
  split
  . refine still_peek.bind fun t => ?_
    split
    . exact acts_modify fun _ => rfl
    . exact still_pure _
  . exact still_pure _

/-- The states at which the innermost open collection is a sequence. -/
def AtItem (e : Expect) : Prop :=
  e = .blockSequenceFirst ∨ e = .blockSequence ∨ e = .indentlessSequence ∨ e = .flowSequenceFirst ∨
    e = .flowSequence

/--
The states at which the innermost open collection is a mapping that waits for a key, or may end.
-/
def AtKey (e : Expect) : Prop :=
  e = .blockMappingFirst ∨ e = .blockMappingKey ∨ e = .flowMappingFirst ∨ e = .flowMappingKey

/-- The states at which the innermost open collection is a mapping that waits for a value. -/
def AtValue (e : Expect) : Prop :=
  e = .blockMappingValue ∨ e = .flowMappingValue ∨ e = .flowMappingEmptyValue

/-- The first event of a node, after which the grammar goes on with `stack`. -/
inductive NodeNext (stack : List Expect) : EventKind → Control → Prop
  | link (name : Text) : NodeNext stack (.alias name) (popped stack)
  | scalar (anchor tag value : Text) (style : ScalarStyle)
    : NodeNext stack (.scalar anchor tag value style) (popped stack)
  | sequence {e : Expect} (anchor tag : Text) (flow : Bool) (h : AtItem e)
    : NodeNext stack (.sequenceStart anchor tag flow) (e, stack)
  | mapping {e : Expect} (anchor tag : Text) (flow : Bool) (h : AtKey e)
    : NodeNext stack (.mappingStart anchor tag flow) (e, stack)

theorem node_next (block indentless : Bool) (e : Expect) (stack : List Expect)
    : Ensures (node block indentless) (e, stack) fun event => NodeNext stack event.kind := by
  unfold node
  refine still_peek.then fun t => ?_
  split
  . exact acts_pop.then fun _ => still_takeRemarks.then fun _ => still_skip.then fun _ =>
      .pure (.link _)
  . refine still_properties.then fun props => still_peek.then fun t =>
      (still_resolveTag props).then fun tag => ?_
    dsimp only
    split
    . exact acts_pop.then fun _ => still_takeRemarks.then fun _ => still_skip.then fun _ =>
        .pure (.scalar _ _ _ _)
    . exact (acts_goTo _).then fun _ => still_takeRemarks.then fun _ =>
        .pure (.sequence _ _ _ (by simp [AtItem]))
    . exact (acts_goTo _).then fun _ => still_takeRemarks.then fun _ =>
        .pure (.mapping _ _ _ (by simp [AtKey]))
    . split
      . exact (acts_goTo _).then fun _ => .pure (.sequence _ _ _ (by simp [AtItem]))
      . split
        . exact (acts_goTo _).then fun _ => still_takeStem.then fun _ =>
            .pure (.sequence _ _ _ (by simp [AtItem]))
        . split
          . exact (acts_goTo _).then fun _ => still_takeStem.then fun _ =>
              .pure (.mapping _ _ _ (by simp [AtKey]))
          . split
            . exact acts_pop.then fun _ => .pure (.scalar _ _ _ _)
            . exact (fails_fail _ _ _).ensures

/-- The event that a state may emit, and what is expected after it. -/
inductive Next : Control → EventKind → Control → Prop
  | start (stack : List Expect) : Next (.streamStart, stack) .streamStart (.implicitDocument, stack)
  | document {e e' : Expect} (stack : List Expect) (h : e = .implicitDocument ∨ e = .document)
    (h' : e' = .blockNode ∨ e' = .documentContent)
    : Next (e, stack) .documentStart (e', .documentEnd :: stack)
  | endDocument (stack : List Expect) (c : Control) : Next (.documentEnd, stack) .documentEnd c
  | endStream {e : Expect} (stack : List Expect) (c : Control)
      (h : e = .implicitDocument ∨ e = .document)
    : Next (e, stack) .streamEnd c
  | root {e : Expect} {stack : List Expect} {k : EventKind} {c : Control}
    (h : e = .blockNode ∨ e = .documentContent) (hnode : NodeNext stack k c) : Next (e, stack) k c
  | item {e back : Expect} {stack : List Expect} {k : EventKind} {c : Control} (h : AtItem e)
    (hback : AtItem back) (hnode : NodeNext (back :: stack) k c) : Next (e, stack) k c
  | key {e back : Expect} {stack : List Expect} {k : EventKind} {c : Control} (h : AtKey e)
    (hback : AtValue back) (hnode : NodeNext (back :: stack) k c) : Next (e, stack) k c
  | value {e back : Expect} {stack : List Expect} {k : EventKind} {c : Control} (h : AtValue e)
    (hback : AtKey back) (hnode : NodeNext (back :: stack) k c) : Next (e, stack) k c
  | endSequence {e : Expect} (stack : List Expect) (h : AtItem e)
    : Next (e, stack) .sequenceEnd (popped stack)
  | endMapping {e : Expect} (stack : List Expect) (h : AtKey e)
    : Next (e, stack) .mappingEnd (popped stack)
  | pair {e : Expect} (stack : List Expect) (h : AtItem e)
    : Next (e, stack) (.mappingStart [] [] true) (.flowPairKey, stack)
  | pairKey {stack : List Expect} {k : EventKind} {c : Control}
    (hnode : NodeNext (.flowPairValue :: stack) k c) : Next (.flowPairKey, stack) k c
  | pairValue {stack : List Expect} {k : EventKind} {c : Control}
    (hnode : NodeNext (.flowPairEnd :: stack) k c) : Next (.flowPairValue, stack) k c
  | endPair (stack : List Expect) : Next (.flowPairEnd, stack) .mappingEnd (.flowSequence, stack)

variable {e e' back : Expect} {stack : List Expect} {Q : Event → Control → Prop}

theorem pushNode_next (block indentless : Bool)
    (hQ : ∀ event c, NodeNext (back :: stack) event.kind c → Q event c)
    : Ensures (do pushReturn back; node block indentless) (e, stack) Q :=
  (acts_pushReturn back).then fun _ => fun p event p' hp hrun =>
    hQ event _ (node_next block indentless e (back :: stack) p event p' hp hrun)

theorem emptyNode_next (mark : Mark)
    (hQ : ∀ event c, NodeNext (back :: stack) event.kind c → Q event c)
    : Ensures (do goTo back; return emptyScalar mark) (e, stack) Q :=
  (acts_goTo back).then fun _ => .pure (hQ _ _ (.scalar _ _ _ _))

theorem entry_next (ends : TokenKind → Bool) (back : Expect)
    : Ensures (entry ends back) (e, stack) fun event => NodeNext (back :: stack) event.kind := by
  unfold entry
  refine still_peek.then fun t => still_get.then fun p => still_skip.then fun _ =>
    (still_splitStem _).then fun _ => still_peek.then fun u => ?_
  split
  . exact emptyNode_next _ fun _ _ h => h
  . exact pushNode_next _ _ fun _ _ h => h

theorem closeFlow_next (kind : EventKind) (t : Token)
    : Ensures (closeFlow kind t) (e, stack) fun event c => event.kind = kind ∧ c = popped stack :=
  acts_pop.then fun _ => still_closeMark.then fun _ => still_takeRemarks.then fun _ =>
  still_skip.then fun _ =>
    .pure ⟨rfl, rfl⟩

theorem Ensures.mono {Q' : Event → Control → Prop} {m : Parse Event} {c : Control}
    (h : Ensures m c Q) (hQ : ∀ event c, Q event c → Q' event c) : Ensures m c Q' :=
  fun p event p' hp hrun => hQ _ _ (h p event p' hp hrun)

theorem streamStart_next
    : Ensures streamStart (.streamStart, stack) fun event =>
      Next (.streamStart, stack) event.kind := by
  unfold streamStart
  refine still_peek.then fun t => ?_
  dsimp only
  split
  . exact (fails_fail _ _ _).then
  . exact (acts_goTo _).then fun _ => still_skip.then fun _ => .pure (.start stack)

theorem documentStart_next (implicit : Bool) (he : e = .implicitDocument ∨ e = .document)
    : Ensures (documentStart implicit) (e, stack) fun event => Next (e, stack) event.kind := by
  unfold documentStart
  refine still_get.then fun p => ?_
  dsimp only
  refine (still_skipDocumentEnds _).when_then fun _ => still_peek.then fun t => ?_
  split
  . exact (acts_goTo _).then fun _ => still_skip.then fun _ => .pure (.endStream stack _ he)
  . split
    . refine (still_directives _ _).then fun _ => (acts_pushReturn _).then fun _ =>
        (acts_goTo _).then fun _ =>
        get_then fun p hp => ?_
      refine (acts_set _).then fun _ => .pure ?_
      have := Next.document stack he (.inl rfl)
      rw [← hp] at this
      exact this
    . refine (still_directives _ _).then fun _ => still_peek.then fun u => ?_
      refine (fails_fail _ _ _).still.when_then fun _ => ?_
      exact (acts_pushReturn _).then fun _ => (acts_goTo _).then fun _ => still_skip.then fun _ =>
        .pure (.document stack he (.inr rfl))

theorem documentEnd_next
    : Ensures documentEnd (.documentEnd, stack) fun event =>
      Next (.documentEnd, stack) event.kind := by
  unfold documentEnd
  refine still_peek.then fun t => ?_
  refine still_skip.when_then fun _ => ?_
  refine Still.then (acts_modify fun _ => rfl) fun _ => (acts_goTo _).then fun _ =>
    still_takeRemarks.then fun _ => ?_
  exact .pure (.endDocument stack _)

theorem documentContent_next
    : Ensures documentContent (.documentContent, stack) fun event =>
        Next (.documentContent, stack) event.kind := by
  unfold documentContent
  refine still_peek.then fun t => ?_
  split
  all_goals
    first
    | exact acts_pop.then fun _ => .pure (.root (.inr rfl) (.scalar _ _ _ _))
    | exact (node_next _ _ _ _).mono fun _ _ h => .root (.inr rfl) h

theorem blockSequence_next (first : Bool) (he : AtItem e)
    : Ensures (blockSequence first) (e, stack) fun event => Next (e, stack) event.kind := by
  unfold blockSequence
  refine still_openCollection.when_then fun _ => still_peek.then fun t => ?_
  split
  . exact (entry_next _ _).mono fun _ _ h => .item he (by simp [AtItem]) h
  . exact acts_pop.then fun _ => still_closeMark.then fun _ => still_skip.then fun _ =>
      .pure (.endSequence stack he)
  . exact (fails_failOpen _ _).ensures

theorem indentlessSequence_next
    : Ensures indentlessSequence (.indentlessSequence, stack) fun event =>
        Next (.indentlessSequence, stack) event.kind := by
  have he : AtItem .indentlessSequence := by simp [AtItem]
  unfold indentlessSequence
  refine still_peek.then fun t => ?_
  split
  . exact (entry_next _ _).mono fun _ _ h => .item he he h
  . exact acts_pop.then fun _ => .pure (.endSequence stack he)

theorem blockMappingKey_next (first : Bool) (he : AtKey e)
    : Ensures (blockMappingKey first) (e, stack) fun event => Next (e, stack) event.kind := by
  have hback : AtValue .blockMappingValue := by simp [AtValue]
  unfold blockMappingKey
  refine still_openCollection.when_then fun _ => still_peek.then fun t => ?_
  split
  . refine still_advance.then fun u => ?_
    split
    . exact emptyNode_next _ fun _ _ h => .key he hback h
    . exact pushNode_next _ _ fun _ _ h => .key he hback h
  . exact acts_pop.then fun _ => still_closeMark.then fun _ => still_takeRemarks.then fun _ =>
      still_skip.then fun _ => .pure (.endMapping stack he)
  . exact (fails_failOpen _ _).ensures

theorem blockMappingValue_next
    : Ensures blockMappingValue (.blockMappingValue, stack) fun event =>
        Next (.blockMappingValue, stack) event.kind := by
  have he : AtValue .blockMappingValue := by simp [AtValue]
  have hback : AtKey .blockMappingKey := by simp [AtKey]
  unfold blockMappingValue
  refine still_peek.then fun t => ?_
  split
  . refine still_advance.then fun u => ?_
    split
    . exact emptyNode_next _ fun _ _ h => .value he hback h
    . exact pushNode_next _ _ fun _ _ h => .value he hback h
  . exact emptyNode_next _ fun _ _ h => .value he hback h

theorem flowNext_then {t : Token} {first : Bool} {problem : Problem} {f : Token → Parse Event}
    {c : Control} (hf : ∀ t, Ensures (f t) c Q)
    : Ensures (do
        let t ← (do
          if first then return t
          else if t.kind == .flowEntry then advance
          else failOpen t.first problem)
        f t) c Q := by
  refine Still.then ?_ hf
  split
  . exact still_pure t
  . split
    . exact still_advance
    . exact (fails_failOpen _ _).still

theorem flowSequence_next (first : Bool) (he : AtItem e)
    : Ensures (flowSequence first) (e, stack) fun event => Next (e, stack) event.kind := by
  have hback : AtItem .flowSequence := by simp [AtItem]
  have hend (t : Token) : Ensures (closeFlow .sequenceEnd t) (e, stack) fun event =>
    Next (e, stack) event.kind := by
    refine (closeFlow_next _ t).mono fun event c h => ?_
    rw [h.1, h.2]
    exact .endSequence stack he
  unfold flowSequence
  refine still_openCollection.when_then fun _ => still_peek.then fun t => ?_
  split
  . exact hend t
  . refine flowNext_then fun t => ?_
    split
    . exact (acts_goTo _).then fun _ => still_skip.then fun _ => .pure (.pair stack he)
    . split
      . exact hend t
      . exact pushNode_next _ _ fun _ _ h => .item he hback h

theorem flowPairKey_next
    : Ensures flowPairKey (.flowPairKey, stack) fun event =>
      Next (.flowPairKey, stack) event.kind := by
  unfold flowPairKey
  refine still_peek.then fun t => ?_
  split
  . exact still_skip.then fun _ => emptyNode_next _ fun _ _ h => .pairKey h
  . exact pushNode_next _ _ fun _ _ h => .pairKey h

theorem flowPairValue_next
    : Ensures flowPairValue (.flowPairValue, stack) fun event =>
      Next (.flowPairValue, stack) event.kind := by
  unfold flowPairValue
  refine still_peek.then fun t => ?_
  split
  . refine still_advance.then fun u => ?_
    split
    . exact emptyNode_next _ fun _ _ h => .pairValue h
    . exact pushNode_next _ _ fun _ _ h => .pairValue h
  . exact emptyNode_next _ fun _ _ h => .pairValue h

theorem flowPairEnd_next
    : Ensures flowPairEnd (.flowPairEnd, stack) fun event =>
      Next (.flowPairEnd, stack) event.kind :=
  still_peek.then fun _ => (acts_goTo _).then fun _ => .pure (.endPair stack)

theorem flowMappingKey_next (first : Bool) (he : AtKey e)
    : Ensures (flowMappingKey first) (e, stack) fun event => Next (e, stack) event.kind := by
  have hback : AtValue .flowMappingValue := by simp [AtValue]
  have hempty : AtValue .flowMappingEmptyValue := by simp [AtValue]
  have hend (t : Token) : Ensures (closeFlow .mappingEnd t) (e, stack) fun event =>
    Next (e, stack) event.kind := by
    refine (closeFlow_next _ t).mono fun event c h => ?_
    rw [h.1, h.2]
    exact .endMapping stack he
  unfold flowMappingKey
  refine still_openCollection.when_then fun _ => still_peek.then fun t => ?_
  split
  . exact hend t
  . refine flowNext_then fun t => ?_
    split
    . refine still_advance.then fun u => ?_
      split
      . exact emptyNode_next _ fun _ _ h => .key he hback h
      . exact pushNode_next _ _ fun _ _ h => .key he hback h
    . split
      . exact hend t
      . exact pushNode_next _ _ fun _ _ h => .key he hempty h

theorem flowMappingValue_next (isEmpty : Bool) (he : AtValue e)
    : Ensures (flowMappingValue isEmpty) (e, stack) fun event => Next (e, stack) event.kind := by
  have hback : AtKey .flowMappingKey := by simp [AtKey]
  unfold flowMappingValue
  refine still_peek.then fun t => ?_
  split
  . refine still_advance.then fun u => ?_
    split
    . exact emptyNode_next _ fun _ _ h => .value he hback h
    . exact pushNode_next _ _ fun _ _ h => .value he hback h
  . exact emptyNode_next _ fun _ _ h => .value he hback h

/-- Every step of the grammar emits an event that the state allows. -/
theorem step_next (c : Control) : Ensures step c fun event => Next c event.kind := by
  obtain ⟨e, stack⟩ := c
  refine get_then fun p hp => ?_
  have he : p.expect = e := congrArg Prod.fst hp
  rw [he]
  match e with
  | .streamStart => exact streamStart_next
  | .implicitDocument => exact documentStart_next true (.inl rfl)
  | .document => exact documentStart_next false (.inr rfl)
  | .documentContent => exact documentContent_next
  | .documentEnd => exact documentEnd_next
  | .blockNode => exact (node_next true false _ _).mono fun _ _ h => .root (.inl rfl) h
  | .blockSequenceFirst => exact blockSequence_next true (by simp [AtItem])
  | .blockSequence => exact blockSequence_next false (by simp [AtItem])
  | .indentlessSequence => exact indentlessSequence_next
  | .blockMappingFirst => exact blockMappingKey_next true (by simp [AtKey])
  | .blockMappingKey => exact blockMappingKey_next false (by simp [AtKey])
  | .blockMappingValue => exact blockMappingValue_next
  | .flowSequenceFirst => exact flowSequence_next true (by simp [AtItem])
  | .flowSequence => exact flowSequence_next false (by simp [AtItem])
  | .flowPairKey => exact flowPairKey_next
  | .flowPairValue => exact flowPairValue_next
  | .flowPairEnd => exact flowPairEnd_next
  | .flowMappingFirst => exact flowMappingKey_next true (by simp [AtKey])
  | .flowMappingKey => exact flowMappingKey_next false (by simp [AtKey])
  | .flowMappingValue => exact flowMappingValue_next false (by simp [AtValue])
  | .flowMappingEmptyValue => exact flowMappingValue_next true (by simp [AtValue])
  | .nothing =>
    intro p event p' _ hrun
    cases hrun

end Parser
end Yaml
end YamlOrder
