import YamlOrder.Proofs.Event.Control
import YamlOrder.Proofs.Spacing.Fetch

/-!
This module contains what added lines do to the grammar: it goes through the same states and emits
the same events, in which only the spaces and line breaks of scalars may differ.
-/

namespace YamlOrder
namespace Yaml

/--
The tokens of the first list are of the same kinds as those that come first in the second one.
-/
inductive Leads (q : Prop) : List TokenItem → List TokenItem → Prop where
  | nil (l' : List TokenItem) : Leads q [] l'
  | cons {i i' : TokenItem} {l l' : List TokenItem}
      (h : Spacing.KindTwin q i.token.kind i'.token.kind)
    (hs : Leads q l l') : Leads q (i :: l) (i' :: l')

theorem Leads.length_le {q : Prop} {l l' : List TokenItem} (h : Leads q l l')
    : l.length ≤ l'.length := by
  induction h with
  | nil => exact Nat.zero_le _
  | cons h hs ih => exact Nat.succ_le_succ ih

theorem Leads.tail {q : Prop} {l l' : List TokenItem} (h : Leads q l l')
    : Leads q l.tail l'.tail := by
  cases h with
  | nil => exact .nil _
  | cons h hs => exact hs

theorem Spacing.ItemsTwin.leads {p : Spacing} {q : Prop} {l l' : List TokenItem}
    (h : p.ItemsTwin l l') (hq : q → ∀ i ∈ l, p.Spares i.token) : Leads q l l' := by
  induction h with
  | nil l' => exact .nil l'
  | @cons i i' l l' h hs ih =>
    exact .cons (h.mono fun hq' => hq hq' i List.mem_cons_self)
      (ih fun hq' j hj => hq hq' j (List.mem_cons_of_mem i hj))

/-- Two events of the same kind. The values of scalars differ in spaces and line breaks at most. -/
inductive EventTwin (q : Prop) : EventKind → EventKind → Prop where
  | same (k : EventKind) : EventTwin q k k
  | scalar (anchor tag : Text) {v v' : List Char} (h : Alike q v v') (style : ScalarStyle)
    : EventTwin q (.scalar anchor tag (Text.ofChars v) style)
      (.scalar anchor tag (Text.ofChars v') style)

namespace Parser

open Spacing (KindTwin)

/-- Two parsers in the same state, apart from positions and comments. -/
structure StateTwin (q : Prop) (s s' : Parser) : Prop where
  items : Leads q s.items s'.items
  expect : s'.expect = s.expect
  stack : s'.stack = s.stack
  handles : s'.handles = s.handles

/--
Whenever a part of the grammar accepts less than `n` tokens, so does another one that starts in the
same state, and they end in the same state.
-/
def Keeps {α β : Type} (q : Prop) (n : Nat) (R : α → β → Prop) (m : Parse α)
    (m' : Parse β) : Prop :=
  ∀ s s', StateTwin q s s' → s.items.length < n →
    Simulates (fun r r' => R r.1 r'.1 ∧ StateTwin q r.2 r'.2 ∧ r.2.items.length < n)
    (m.run s) (m'.run s')

variable {α β γ δ : Type} {q : Prop} {n : Nat} {R : α → β → Prop} {S : γ → δ → Prop} {m : Parse α}
  {m' : Parse β}
variable {f : α → Parse γ} {f' : β → Parse δ} {s s' : Parser}

theorem Keeps.bind (hm : Keeps q n R m m') (hf : ∀ a b, R a b → Keeps q n S (f a) (f' b))
    : Keeps q n S (m >>= f) (m' >>= f') := by
  intro s s' hs hlength
  rw [StateT.run_bind, StateT.run_bind]
  refine (hm s s' hs hlength).bind ?_
  rintro ⟨a, t⟩ ⟨b, t'⟩ ⟨hR, ht, hlength⟩
  exact hf a b hR t t' ht hlength

theorem Keeps.pure {a : α} {b : β} (h : R a b) : Keeps q n R (Pure.pure a) (Pure.pure b) :=
  fun _ _ hs hlength => .ok ⟨h, hs, hlength⟩

theorem Keeps.fails (hm : Fails m) (m' : Parse β) : Keeps q n R m m' :=
  fun _ _ _ _ r hr => absurd hr (hm _ r.1 r.2)

theorem simulates_of_fails {ε : Type} {m : Parse ε} {f : ε → Parse α}
    {T : α × Parser → β × Parser → Prop} {r' : Except Fault (β × Parser)} (hm : Fails m)
    : Simulates T ((m >>= f).run s) r' := by
  rintro ⟨a, t⟩ hr
  obtain ⟨b, u, hb, -⟩ := exists_of_run_bind hr
  exact absurd hb (hm _ b u)

theorem Keeps.modify {k k' : Parser → Parser}
    (hk : ∀ s s', StateTwin q s s' → StateTwin q (k s) (k' s'))
    (hitems : ∀ s, (k s).items.length ≤ s.items.length)
    : Keeps q n (fun _ _ => True) (modify k : Parse PUnit) (modify k' : Parse PUnit) :=
  fun s _ hs hlength => .ok ⟨trivial, hk _ _ hs, (hitems s).trans_lt hlength⟩

theorem Keeps.when_then {c : Prop} [Decidable c] {m m' : Parse PUnit} {f : PUnit → Parse γ}
    {f' : PUnit → Parse δ} (hm : Keeps q n (fun _ _ => True) m m') (hf : Keeps q n S (f ()) (f' ()))
    : Keeps q n S (if c then m >>= f else f ()) (if c then m' >>= f' else f' ()) := by
  split
  . exact hm.bind fun _ _ _ => hf
  . exact hf

theorem Keeps.get_then {f : Parser → Parse γ} {f' : Parser → Parse δ}
    (hf : ∀ s s', StateTwin q s s' → Keeps q (s.items.length + 1) S (f s) (f' s'))
    : Keeps q n S (get >>= f) (get >>= f') := by
  intro s s' hs hlength
  refine (hf s s' hs s s' hs (Nat.lt_succ_self _)).mono ?_
  rintro r r' ⟨hS, hr, hbound⟩
  exact ⟨hS, hr, by omega⟩

/-- Two tokens of the same kind. -/
def TokenKeeps (q : Prop) (t t' : Token) : Prop := KindTwin q t.kind t'.kind

/-- Two results of the same kind. -/
def EventKeeps (q : Prop) (e e' : Event) : Prop := EventTwin q e.kind e'.kind

theorem exists_run_peek {i : TokenItem} {l : List TokenItem} (h : s.items = i :: l)
    : ∃ t, peek.run s = .ok (i.token, t) ∧ t.items = s.items ∧ t.expect = s.expect ∧
      t.stack = s.stack ∧
        t.handles = s.handles := by
  unfold peek
  rw [StateT.run_bind, StateT.run_get]
  dsimp only [bind, Except.bind, pure, Except.pure]
  rw [h]
  cases s.reached
  . exact ⟨_, rfl, rfl, rfl, rfl, rfl⟩
  . exact ⟨s, rfl, h, rfl, rfl, rfl⟩

theorem peek_run (hs : StateTwin q s s')
    : Simulates (fun r r' => TokenKeeps q r.1 r'.1 ∧ StateTwin q r.2 r'.2 ∧ r.2.items = s.items ∧
        s.items ≠ [])
        (peek.run s) (peek.run s') := by
  have hitems := hs.items
  generalize hl : s.items = l at hitems
  generalize hl' : s'.items = l' at hitems
  cases hitems with
  | nil =>
    have hrun : peek.run s = .error (s.fault.getD .corrupted) := by
      simp [peek, hl]
      rfl
    rw [hrun]
    exact .error _ _
  | cons h hrest =>
    obtain ⟨t, ht, hitems, hexpect, hstack, hhandles⟩ := exists_run_peek hl
    obtain ⟨t', ht', hitems', hexpect', hstack', hhandles'⟩ := exists_run_peek hl'
    rw [ht, ht']
    refine .ok ⟨h, ⟨?_, ?_, ?_, ?_⟩, by rw [hitems, hl], by simp⟩
    . rw [hitems, hitems', hl, hl']
      exact .cons h hrest
    . rw [hexpect', hexpect, hs.expect]
    . rw [hstack', hstack, hs.stack]
    . rw [hhandles', hhandles, hs.handles]

theorem keeps_peek : Keeps q n (TokenKeeps q) peek peek := by
  intro s s' hs hlength
  refine (peek_run hs).mono ?_
  rintro r r' ⟨ht, hr, hitems, -⟩
  exact ⟨ht, hr, by rwa [hitems]⟩

theorem skipped (hs : StateTwin q s s')
    : StateTwin q { s with items := s.items.tail, reached := false }
        { s' with items := s'.items.tail, reached := false } :=
  ⟨hs.items.tail, hs.expect, hs.stack, hs.handles⟩

theorem keeps_skip : Keeps q n (fun _ _ => True) skip skip :=
  .modify (fun _ _ => skipped) fun s => by
    dsimp only
    rw [List.length_tail]
    exact Nat.sub_le _ _

theorem keeps_advance : Keeps q n (TokenKeeps q) advance advance :=
    keeps_skip.bind fun _ _ _ => keeps_peek

theorem keeps_goTo (e : Expect) : Keeps q n (fun _ _ => True) (goTo e) (goTo e) :=
  .modify (fun _ _ hs => ⟨hs.items, rfl, hs.stack, hs.handles⟩) fun _ => Nat.le_refl _

theorem keeps_pop : Keeps q n (fun _ _ => True) pop pop :=
  .modify (fun _ _ hs => ⟨hs.items, by rw [hs.stack], by rw [hs.stack], hs.handles⟩) fun _ =>
  Nat.le_refl _

theorem keeps_pushReturn (e : Expect) : Keeps q n (fun _ _ => True) (pushReturn e) (pushReturn e) :=
  .modify (fun _ _ hs => ⟨hs.items, hs.expect, by rw [hs.stack], hs.handles⟩) fun _ => Nat.le_refl _

theorem keeps_openMark (mark mark' : Mark)
    : Keeps q n (fun _ _ => True) (openMark mark) (openMark mark') :=
  .modify (fun _ _ hs => ⟨hs.items, hs.expect, hs.stack, hs.handles⟩) fun _ => Nat.le_refl _

theorem keeps_closeMark : Keeps q n (fun _ _ => True) closeMark closeMark :=
  .modify (fun _ _ hs => ⟨hs.items, hs.expect, hs.stack, hs.handles⟩) fun _ => Nat.le_refl _

theorem keeps_takeRemarks : Keeps q n (fun _ _ => True) takeRemarks takeRemarks :=
  fun _ _ hs hlength => .ok ⟨trivial, ⟨hs.items, hs.expect, hs.stack, hs.handles⟩, hlength⟩

theorem keeps_takeStem : Keeps q n (fun _ _ => True) takeStem takeStem :=
  fun _ _ hs hlength => .ok ⟨trivial, ⟨hs.items, hs.expect, hs.stack, hs.handles⟩, hlength⟩

theorem keeps_addHandle (handle start : Text) (mark mark' : Mark) (builtin : Bool)
    : Keeps q n (fun _ _ => True) (addHandle handle start mark builtin)
      (addHandle handle start mark' builtin) := by
  refine .get_then fun s s' hs => ?_
  rw [hs.handles]
  split
  . split
    . exact .fails (fails_fail _ _ _) _
    . exact .pure trivial
  . intro t t' ht hlength
    exact .ok ⟨trivial, ⟨hs.items, hs.expect, hs.stack, rfl⟩, Nat.lt_succ_self _⟩

theorem keeps_builtinHandles (mark mark' : Mark)
    : Keeps q n (fun _ _ => True)
        (do
          addHandle [33] [33] mark true
          addHandle [33, 33] "tag:yaml.org,2002:" mark true)
        (do
          addHandle [33] [33] mark' true
          addHandle [33, 33] "tag:yaml.org,2002:" mark' true) :=
  (keeps_addHandle [33] [33] mark mark' true).bind
    fun _ _ _ => keeps_addHandle [33, 33] "tag:yaml.org,2002:" mark mark' true

theorem directives_run {fuel fuel' : Nat} {versionSeen : Bool} (hs : StateTwin q s s')
    (hlength : s.items.length < fuel) (hfuel : fuel ≤ fuel')
    : Simulates (fun r r' => StateTwin q r.2 r'.2 ∧ r.2.items.length ≤ s.items.length)
        ((directives fuel versionSeen).run s) ((directives fuel' versionSeen).run s') := by
  induction fuel generalizing fuel' s s' versionSeen with
  | zero => exact absurd hlength (Nat.not_lt_zero _)
  | succ fuel ih =>
    obtain ⟨fuel', rfl⟩ : ∃ k, fuel' = k + 1 := ⟨fuel' - 1, by omega⟩
    unfold directives
    rw [StateT.run_bind, StateT.run_bind]
    refine (peek_run hs).bind ?_
    rintro ⟨token, t⟩ ⟨token', t'⟩ ⟨htoken, ht, hitems, hne⟩
    have hpos := List.length_pos_iff.mpr hne
    have hnext {u u' : Parser} (hu : StateTwin q u u') (hle : u.items.length ≤ s.items.length)
        (seen : Bool)
        : Simulates (fun r r' => StateTwin q r.2 r'.2 ∧ r.2.items.length ≤ s.items.length)
            ((do skip; directives fuel seen).run u) ((do skip; directives fuel' seen).run u') := by
      have htail : u.items.tail.length ≤ u.items.length - 1 := List.length_tail.le
      refine (ih (skipped hu) (by dsimp only; omega) (by omega)).mono ?_
      rintro r r' ⟨hr, hle'⟩
      dsimp only at hle'
      exact ⟨hr, by omega⟩
    unfold TokenKeeps at htoken
    dsimp only at htoken hitems ⊢
    generalize token.kind = k at htoken ⊢
    generalize token'.kind = k' at htoken ⊢
    have hle : t.items.length ≤ s.items.length := by rw [hitems]
    have hlt : t.items.length < s.items.length + 1 := by omega
    have hbuiltin := (keeps_builtinHandles token.first token'.first t t' ht hlt).mono
      (S := fun r r' => StateTwin q r.2 r'.2 ∧ r.2.items.length ≤ s.items.length)
      fun r r' hr => ⟨hr.2.1, Nat.le_of_lt_succ hr.2.2⟩
    cases htoken with
    | scalar h style => exact hbuiltin
    | same k =>
      split
      . split
        . exact simulates_of_fails (fails_fail _ _ _)
        split
        . exact simulates_of_fails (fails_fail _ _ _)
        . exact hnext ht hle true
      . next handle start =>
        rw [StateT.run_bind, StateT.run_bind]
        refine (keeps_addHandle handle start token.first token'.first false t t' ht hlt).bind ?_
        rintro r r' ⟨-, hr, hlt⟩
        exact hnext hr (by omega) versionSeen
      . exact hbuiltin

theorem keeps_directives {fuel fuel' : Nat} (versionSeen : Bool) (hn : n ≤ fuel)
    (hfuel : fuel ≤ fuel')
    : Keeps q n (fun _ _ => True) (directives fuel versionSeen) (directives fuel' versionSeen) := by
  intro s s' hs hlength
  refine (directives_run hs (by omega) hfuel).mono ?_
  rintro r r' ⟨hr, hle⟩
  exact ⟨trivial, hr, by omega⟩

theorem skipDocumentEnds_run {fuel fuel' : Nat} (hs : StateTwin q s s')
    (hlength : s.items.length < fuel) (hfuel : fuel ≤ fuel')
    : Simulates (fun r r' => StateTwin q r.2 r'.2 ∧ r.2.items.length ≤ s.items.length)
        ((skipDocumentEnds fuel).run s) ((skipDocumentEnds fuel').run s') := by
  induction fuel generalizing fuel' s s' with
  | zero => exact absurd hlength (Nat.not_lt_zero _)
  | succ fuel ih =>
    obtain ⟨fuel', rfl⟩ : ∃ k, fuel' = k + 1 := ⟨fuel' - 1, by omega⟩
    unfold skipDocumentEnds
    rw [StateT.run_bind, StateT.run_bind]
    refine (peek_run hs).bind ?_
    rintro ⟨token, t⟩ ⟨token', t'⟩ ⟨htoken, ht, hitems, hne⟩
    have hpos := List.length_pos_iff.mpr hne
    dsimp only at hitems ⊢
    rw [htoken.beq (by simp)]
    split
    . have htail : t.items.tail.length ≤ s.items.length - 1 := by
        rw [hitems]
        exact List.length_tail.le
      refine (ih (skipped ht) (by dsimp only; omega) (by omega)).mono ?_
      rintro r r' ⟨hr, hle⟩
      dsimp only at hle
      exact ⟨hr, by omega⟩
    . exact .ok ⟨ht, by rw [hitems]⟩

theorem keeps_skipDocumentEnds {fuel fuel' : Nat} (hn : n ≤ fuel) (hfuel : fuel ≤ fuel')
    : Keeps q n (fun _ _ => True) (skipDocumentEnds fuel) (skipDocumentEnds fuel') := by
  intro s s' hs hlength
  refine (skipDocumentEnds_run hs (by omega) hfuel).mono ?_
  rintro r r' ⟨hr, hle⟩
  exact ⟨trivial, hr, by omega⟩

theorem EventKeeps.of_kind {e e' : Event} (h : e'.kind = e.kind) : EventKeeps q e e' := by
  rw [EventKeeps, h]
  exact .same _

theorem keeps_streamStart : Keeps q n (EventKeeps q) streamStart streamStart := by
  unfold streamStart
  refine keeps_peek.bind fun t t' ht => ?_
  dsimp only
  rw [ht.bne (by simp)]
  refine Keeps.when_then (.fails (fails_fail _ _ _) _) ?_
  exact (keeps_goTo _).bind fun _ _ _ => keeps_skip.bind fun _ _ _ => .pure (.of_kind rfl)

theorem isDirective_eq {k k' : TokenKind} (h : KindTwin q k k')
    : isDirective k' = isDirective k := by
  cases h with
  | same k => rfl
  | scalar h style => rfl

theorem keeps_documentStart (implicit : Bool)
    : Keeps q n (EventKeeps q) (documentStart implicit) (documentStart implicit) := by
  unfold documentStart
  refine .get_then fun s s' hs => ?_
  have hfuel := Nat.succ_le_succ hs.items.length_le
  dsimp only
  refine Keeps.when_then (keeps_skipDocumentEnds (Nat.le_refl _) hfuel) ?_
  refine keeps_peek.bind fun t t' ht => ?_
  rw [ht.beq (by simp), ht.bne (by simp), isDirective_eq ht]
  split
  . exact (keeps_goTo _).bind fun _ _ _ => keeps_skip.bind fun _ _ _ => .pure (.of_kind rfl)
  split
  . refine (keeps_directives false (Nat.le_refl _) hfuel).bind fun _ _ _ =>
      (keeps_pushReturn _).bind fun _ _ _ =>
      (keeps_goTo _).bind fun _ _ _ => .get_then fun u u' hu => ?_
    intro v v' hv hlength
    exact .ok ⟨.of_kind rfl, ⟨hu.items, hu.expect, hu.stack, hu.handles⟩, Nat.lt_succ_self _⟩
  . refine (keeps_directives false (Nat.le_refl _) hfuel).bind fun _ _ _ =>
      keeps_peek.bind fun u u' hu => ?_
    rw [hu.bne (by simp)]
    refine Keeps.when_then (.fails (fails_fail _ _ _) _) ?_
    exact (keeps_pushReturn _).bind fun _ _ _ => (keeps_goTo _).bind fun _ _ _ =>
      keeps_skip.bind fun _ _ _ =>
      .pure (.of_kind rfl)

theorem keeps_documentEnd : Keeps q n (EventKeeps q) documentEnd documentEnd := by
  unfold documentEnd
  refine keeps_peek.bind fun t t' ht => ?_
  rw [ht.beq (by simp)]
  refine Keeps.when_then keeps_skip ?_
  refine Keeps.bind (.modify (fun _ _ hs => ⟨hs.items, hs.expect, hs.stack, rfl⟩) fun _ =>
    Nat.le_refl _) fun _ _ _ => ?_
  exact (keeps_goTo _).bind fun _ _ _ => keeps_takeRemarks.bind fun _ _ _ => .pure (.of_kind rfl)

/-- Two nodes with the same anchor and tag. -/
def PropertiesKeep (props props' : Properties) : Prop :=
  props'.anchor = props.anchor ∧
    props'.tag.map (fun t => (t.1, t.2.1)) = props.tag.map fun t => (t.1, t.2.1)

theorem keeps_properties : Keeps q n PropertiesKeep properties properties := by
  unfold properties
  refine keeps_peek.bind fun t t' ht => ?_
  unfold TokenKeeps at ht
  generalize t.kind = k at ht ⊢
  generalize t'.kind = k' at ht ⊢
  cases ht with
  | scalar h style => exact .pure ⟨rfl, rfl⟩
  | same k =>
    split
    . refine keeps_advance.bind fun u u' hu => ?_
      unfold TokenKeeps at hu
      generalize u.kind = l at hu ⊢
      generalize u'.kind = l' at hu ⊢
      cases hu with
      | scalar h style => exact .pure ⟨rfl, rfl⟩
      | same l =>
        split
        . exact keeps_skip.bind fun _ _ _ => .pure ⟨rfl, rfl⟩
        . exact .pure ⟨rfl, rfl⟩
    . refine keeps_advance.bind fun u u' hu => ?_
      unfold TokenKeeps at hu
      generalize u.kind = l at hu ⊢
      generalize u'.kind = l' at hu ⊢
      cases hu with
      | scalar h style => exact .pure ⟨rfl, rfl⟩
      | same l =>
        split
        . exact keeps_skip.bind fun _ _ _ => .pure ⟨rfl, rfl⟩
        . exact .pure ⟨rfl, rfl⟩
    . exact .pure ⟨rfl, rfl⟩

theorem keeps_resolveTag {props props' : Properties} (h : PropertiesKeep props props')
    : Keeps q n (fun a b => b = a) (resolveTag props) (resolveTag props') := by
  obtain ⟨-, htag⟩ := h
  unfold resolveTag
  cases hprops : props.tag with
  | none =>
    rw [hprops, Option.map_none, Option.map_eq_none_iff] at htag
    rw [htag]
    exact .pure rfl
  | some t =>
    obtain ⟨handle, suffix, mark⟩ := t
    rw [hprops, Option.map_some, Option.map_eq_some_iff] at htag
    obtain ⟨⟨handle', suffix', mark'⟩, htag, heq⟩ := htag
    rw [htag]
    cases heq
    dsimp only
    split
    . exact .pure rfl
    . refine .get_then fun s s' hs => ?_
      rw [hs.handles]
      split
      . exact .pure rfl
      . exact .fails (fails_fail _ _ _) _

/-- A node that is no alias. -/
def content (block indentless : Bool) : Parse Event := do
  let props ← properties
  let t ← peek
  let tag ← resolveTag props
  let first := props.first
  let anchor := props.anchor
  match t.kind with
  | .scalar value style =>
    pop
    let r ← takeRemarks
    skip
    return ⟨.scalar anchor tag value style, first, r⟩
  | .flowSequenceStart =>
    goTo .flowSequenceFirst
    return ⟨.sequenceStart anchor tag true, first, ← takeRemarks⟩
  | .flowMappingStart =>
    goTo .flowMappingFirst
    return ⟨.mappingStart anchor tag true, first, ← takeRemarks⟩
  | k =>
    if indentless && k == .blockEntry then
      goTo .indentlessSequence
      return ⟨.sequenceStart anchor tag false, first, {}⟩
    else if block && k == .blockSequenceStart then
      goTo .blockSequenceFirst
      return ⟨.sequenceStart anchor tag false, first, ← takeStem⟩
    else if block && k == .blockMappingStart then
      goTo .blockMappingFirst
      return ⟨.mappingStart anchor tag false, first, ← takeStem⟩
    else if !anchor.isEmpty || !tag.isEmpty then
      pop
      return ⟨.scalar anchor tag [] .plain, first, {}⟩
    else
      fail first t.first .noNodeContent

theorem node_eq (block indentless : Bool)
    : node block indentless = (do
        let t ← peek
        match t.kind with
        | .alias name =>
          pop
          let r ← takeRemarks
          skip
          return ⟨.alias name, t.first, r⟩
        | _ => content block indentless) := rfl

theorem keeps_content (block indentless : Bool)
    : Keeps q n (EventKeeps q) (content block indentless) (content block indentless) := by
  unfold content
  refine keeps_properties.bind fun props props' hprops => ?_
  refine keeps_peek.bind fun t t' ht => ?_
  refine (keeps_resolveTag hprops).bind fun tag _ htag => ?_
  obtain rfl := htag
  dsimp only
  rw [hprops.1]
  unfold TokenKeeps at ht
  generalize t.kind = k at ht ⊢
  generalize t'.kind = k' at ht ⊢
  cases ht with
  | scalar h style =>
    exact keeps_pop.bind fun _ _ _ => keeps_takeRemarks.bind fun _ _ _ =>
      keeps_skip.bind fun _ _ _ =>
      .pure (.scalar _ _ h style)
  | same k =>
    split
    . exact keeps_pop.bind fun _ _ _ => keeps_takeRemarks.bind fun _ _ _ =>
        keeps_skip.bind fun _ _ _ =>
        .pure (.of_kind rfl)
    . exact (keeps_goTo _).bind fun _ _ _ => keeps_takeRemarks.bind fun _ _ _ =>
        .pure (.of_kind rfl)
    . exact (keeps_goTo _).bind fun _ _ _ => keeps_takeRemarks.bind fun _ _ _ =>
        .pure (.of_kind rfl)
    . split
      . exact (keeps_goTo _).bind fun _ _ _ => .pure (.of_kind rfl)
      split
      . exact (keeps_goTo _).bind fun _ _ _ => keeps_takeStem.bind fun _ _ _ => .pure (.of_kind rfl)
      split
      . exact (keeps_goTo _).bind fun _ _ _ => keeps_takeStem.bind fun _ _ _ => .pure (.of_kind rfl)
      split
      . exact keeps_pop.bind fun _ _ _ => .pure (.of_kind rfl)
      . exact .fails (fails_fail _ _ _) _

theorem keeps_node (block indentless : Bool)
    : Keeps q n (EventKeeps q) (node block indentless) (node block indentless) := by
  rw [node_eq]
  refine keeps_peek.bind fun t t' ht => ?_
  unfold TokenKeeps at ht
  generalize t.kind = k at ht ⊢
  generalize t'.kind = k' at ht ⊢
  cases ht with
  | scalar h style => exact keeps_content block indentless
  | same k =>
    split
    . exact keeps_pop.bind fun _ _ _ => keeps_takeRemarks.bind fun _ _ _ =>
        keeps_skip.bind fun _ _ _ =>
        .pure (.of_kind rfl)
    . exact keeps_content block indentless

theorem keeps_documentContent : Keeps q n (EventKeeps q) documentContent documentContent := by
  unfold documentContent
  refine keeps_peek.bind fun t t' ht => ?_
  unfold TokenKeeps at ht
  generalize t.kind = k at ht ⊢
  generalize t'.kind = k' at ht ⊢
  cases ht with
  | scalar h style => exact keeps_node true false
  | same k =>
    split
    all_goals
      first
      | exact keeps_pop.bind fun _ _ _ => .pure (.of_kind rfl)
      | exact keeps_node true false

theorem keeps_openCollection : Keeps q n (fun _ _ => True) openCollection openCollection :=
  keeps_peek.bind fun _ _ _ => (keeps_openMark _ _).bind fun _ _ _ => keeps_skip

theorem keeps_pushNode (back : Expect) (block indentless : Bool)
    : Keeps q n (EventKeeps q) (do pushReturn back; node block indentless)
        (do pushReturn back; node block indentless) :=
  (keeps_pushReturn back).bind fun _ _ _ => keeps_node block indentless

theorem keeps_emptyNode (back : Expect) (mark mark' : Mark)
    : Keeps q n (EventKeeps q) (do goTo back; return emptyScalar mark)
      (do goTo back; return emptyScalar mark') :=
  (keeps_goTo back).bind fun _ _ _ => .pure (.of_kind rfl)

theorem run_peek_nil (h : s.items = []) : peek.run s = .error (s.fault.getD .corrupted) := by
  simp [peek, h]
  rfl

theorem exists_run_splitStem (stem : Nat) (h : s.items ≠ [])
    : ∃ t, (splitStem stem).run s = .ok ((), t) ∧ t.items = s.items ∧ t.expect = s.expect ∧
      t.stack = s.stack ∧
        t.handles = s.handles := by
  obtain ⟨i, l, hl⟩ := List.exists_cons_of_ne_nil h
  obtain ⟨t, ht, hitems, hexpect, hstack, hhandles⟩ := exists_run_peek hl
  unfold splitStem
  split
  . rw [StateT.run_bind, ht]
    dsimp only [bind, Except.bind]
    split
    . exact ⟨_, rfl, hitems, hexpect, hstack, hhandles⟩
    . exact ⟨t, rfl, hitems, hexpect, hstack, hhandles⟩
  . exact ⟨s, rfl, rfl, rfl, rfl, rfl⟩

theorem keeps_splitStem {f f' : Token → Parse Event} (stem stem' : Nat)
    (hf : ∀ t t', TokenKeeps q t t' → Keeps q n (EventKeeps q) (f t) (f' t'))
    : Keeps q n (EventKeeps q) (do splitStem stem; let t ← peek; f t)
      (do splitStem stem'; let t ← peek; f' t) := by
  intro s s' hs hlength
  rw [StateT.run_bind, StateT.run_bind]
  by_cases hne : s.items = []
  . have hnone : peek.run s = .error (s.fault.getD .corrupted) := run_peek_nil hne
    unfold splitStem
    split
    . rw [StateT.run_bind, hnone]
      exact .error _ _
    . show Simulates _ ((do let t ← peek; f t).run s) _
      rw [StateT.run_bind, hnone]
      exact .error _ _
  . have hne' : s'.items ≠ [] := by
      intro hnil
      have := hs.items.length_le
      rw [hnil] at this
      exact hne (List.length_eq_zero_iff.mp (Nat.le_zero.mp this))
    obtain ⟨t, ht, hitems, hexpect, hstack, hhandles⟩ := exists_run_splitStem stem hne
    obtain ⟨t', ht', hitems', hexpect', hstack', hhandles'⟩ := exists_run_splitStem stem' hne'
    rw [ht, ht']
    refine keeps_peek.bind hf t t' ⟨?_, ?_, ?_, ?_⟩ (by rwa [hitems])
    . rw [hitems, hitems']
      exact hs.items
    . rw [hexpect', hexpect, hs.expect]
    . rw [hstack', hstack, hs.stack]
    . rw [hhandles', hhandles, hs.handles]

theorem keeps_entry {ends : TokenKind → Bool} (back : Expect)
    (hends : ∀ k k', KindTwin q k k' → ends k' = ends k)
    : Keeps q n (EventKeeps q) (entry ends back) (entry ends back) := by
  unfold entry
  refine keeps_peek.bind fun t t' ht => ?_
  refine .get_then fun _ _ _ => keeps_skip.bind fun _ _ _ => keeps_splitStem _ _ fun u u' hu => ?_
  rw [hends _ _ hu]
  split
  . exact keeps_emptyNode _ _ _
  . exact keeps_pushNode _ _ _

theorem keeps_blockSequence (first : Bool)
    : Keeps q n (EventKeeps q) (blockSequence first) (blockSequence first) := by
  unfold blockSequence
  refine Keeps.when_then keeps_openCollection ?_
  refine keeps_peek.bind fun t t' ht => ?_
  unfold TokenKeeps at ht
  generalize t.kind = k at ht ⊢
  generalize t'.kind = k' at ht ⊢
  cases ht with
  | scalar h style => exact .fails (fails_failOpen _ _) _
  | same k =>
    split
    . refine keeps_entry _ fun k k' h => ?_
      rw [h.beq (by simp), h.beq (by simp)]
    . exact keeps_pop.bind fun _ _ _ => keeps_closeMark.bind fun _ _ _ =>
        keeps_skip.bind fun _ _ _ =>
        .pure (.of_kind rfl)
    . exact .fails (fails_failOpen _ _) _

theorem keeps_indentlessSequence
    : Keeps q n (EventKeeps q) indentlessSequence indentlessSequence := by
  unfold indentlessSequence
  refine keeps_peek.bind fun t t' ht => ?_
  rw [ht.beq (by simp)]
  split
  . refine keeps_entry _ fun k k' h => ?_
    rw [h.beq (by simp), h.beq (by simp), h.beq (by simp), h.beq (by simp)]
  . exact keeps_pop.bind fun _ _ _ => .pure (.of_kind rfl)

theorem endsBlockPart_eq {k k' : TokenKind} (h : KindTwin q k k')
    : endsBlockPart k' = endsBlockPart k := by
  unfold endsBlockPart
  rw [h.beq (by simp), h.beq (by simp), h.beq (by simp)]

theorem keeps_blockMappingKey (first : Bool)
    : Keeps q n (EventKeeps q) (blockMappingKey first) (blockMappingKey first) := by
  unfold blockMappingKey
  refine Keeps.when_then keeps_openCollection ?_
  refine keeps_peek.bind fun t t' ht => ?_
  unfold TokenKeeps at ht
  generalize t.kind = k at ht ⊢
  generalize t'.kind = k' at ht ⊢
  cases ht with
  | scalar h style => exact .fails (fails_failOpen _ _) _
  | same k =>
    split
    . refine keeps_advance.bind fun u u' hu => ?_
      rw [endsBlockPart_eq hu]
      split
      . exact keeps_emptyNode _ _ _
      . exact keeps_pushNode _ _ _
    . exact keeps_pop.bind fun _ _ _ => keeps_closeMark.bind fun _ _ _ =>
        keeps_takeRemarks.bind fun _ _ _ =>
        keeps_skip.bind fun _ _ _ => .pure (.of_kind rfl)
    . exact .fails (fails_failOpen _ _) _

theorem keeps_blockMappingValue : Keeps q n (EventKeeps q) blockMappingValue blockMappingValue := by
  unfold blockMappingValue
  refine keeps_peek.bind fun t t' ht => ?_
  rw [ht.beq (by simp)]
  split
  . refine keeps_advance.bind fun u u' hu => ?_
    rw [endsBlockPart_eq hu]
    split
    . exact keeps_emptyNode _ _ _
    . exact keeps_pushNode _ _ _
  . exact keeps_emptyNode _ _ _

theorem keeps_closeFlow (kind : EventKind) (t t' : Token)
    : Keeps q n (EventKeeps q) (closeFlow kind t) (closeFlow kind t') :=
  keeps_pop.bind fun _ _ _ => keeps_closeMark.bind fun _ _ _ => keeps_takeRemarks.bind fun _ _ _ =>
    keeps_skip.bind fun _ _ _ => .pure (.of_kind rfl)

theorem keeps_flowNext {t t' : Token} (first : Bool) (problem : Problem) (ht : TokenKeeps q t t')
    : Keeps q n (TokenKeeps q)
        (if first then return t else if t.kind == .flowEntry then advance
          else failOpen t.first problem)
        (if first then return t' else if t'.kind == .flowEntry then advance
          else failOpen t'.first problem) := by
  rw [ht.beq (by simp)]
  split
  . exact .pure ht
  split
  . exact keeps_advance
  . exact .fails (fails_failOpen _ _) _

theorem keeps_flowSequence (first : Bool)
    : Keeps q n (EventKeeps q) (flowSequence first) (flowSequence first) := by
  unfold flowSequence
  refine Keeps.when_then keeps_openCollection ?_
  refine keeps_peek.bind fun t t' ht => ?_
  rw [ht.beq (l := .flowSequenceEnd) (by simp)]
  split
  . exact keeps_closeFlow _ _ _
  . refine (keeps_flowNext first _ ht).bind fun u u' hu => ?_
    rw [hu.beq (by simp), hu.beq (by simp)]
    split
    . exact (keeps_goTo _).bind fun _ _ _ => keeps_skip.bind fun _ _ _ => .pure (.of_kind rfl)
    split
    . exact keeps_closeFlow _ _ _
    . exact keeps_pushNode _ _ _

theorem keeps_flowPairKey : Keeps q n (EventKeeps q) flowPairKey flowPairKey := by
  unfold flowPairKey
  refine keeps_peek.bind fun t t' ht => ?_
  rw [ht.beq (by simp), ht.beq (by simp), ht.beq (by simp)]
  split
  . exact keeps_skip.bind fun _ _ _ => keeps_emptyNode _ _ _
  . exact keeps_pushNode _ _ _

theorem keeps_flowPairValue : Keeps q n (EventKeeps q) flowPairValue flowPairValue := by
  unfold flowPairValue
  refine keeps_peek.bind fun t t' ht => ?_
  rw [ht.beq (by simp)]
  split
  . refine keeps_advance.bind fun u u' hu => ?_
    rw [hu.beq (by simp), hu.beq (by simp)]
    split
    . exact keeps_emptyNode _ _ _
    . exact keeps_pushNode _ _ _
  . exact keeps_emptyNode _ _ _

theorem keeps_flowPairEnd : Keeps q n (EventKeeps q) flowPairEnd flowPairEnd :=
  keeps_peek.bind fun _ _ _ => (keeps_goTo _).bind fun _ _ _ => .pure (.of_kind rfl)

theorem keeps_flowMappingKey (first : Bool)
    : Keeps q n (EventKeeps q) (flowMappingKey first) (flowMappingKey first) := by
  unfold flowMappingKey
  refine Keeps.when_then keeps_openCollection ?_
  refine keeps_peek.bind fun t t' ht => ?_
  rw [ht.beq (l := .flowMappingEnd) (by simp)]
  split
  . exact keeps_closeFlow _ _ _
  . refine (keeps_flowNext first _ ht).bind fun u u' hu => ?_
    rw [hu.beq (by simp), hu.beq (by simp)]
    split
    . refine keeps_advance.bind fun v v' hv => ?_
      rw [hv.beq (by simp), hv.beq (by simp), hv.beq (by simp)]
      split
      . exact keeps_emptyNode _ _ _
      . exact keeps_pushNode _ _ _
    split
    . exact keeps_closeFlow _ _ _
    . exact keeps_pushNode _ _ _

theorem keeps_flowMappingValue (isEmpty : Bool)
    : Keeps q n (EventKeeps q) (flowMappingValue isEmpty) (flowMappingValue isEmpty) := by
  unfold flowMappingValue
  refine keeps_peek.bind fun t t' ht => ?_
  rw [ht.beq (by simp)]
  split
  . refine keeps_advance.bind fun u u' hu => ?_
    rw [hu.beq (by simp), hu.beq (by simp)]
    split
    . exact keeps_emptyNode _ _ _
    . exact keeps_pushNode _ _ _
  . exact keeps_emptyNode _ _ _

theorem keeps_step : Keeps q n (EventKeeps q) step step := by
  refine .get_then fun s s' hs => ?_
  rw [hs.expect]
  match s.expect with
  | .streamStart => exact keeps_streamStart
  | .implicitDocument => exact keeps_documentStart true
  | .document => exact keeps_documentStart false
  | .documentContent => exact keeps_documentContent
  | .documentEnd => exact keeps_documentEnd
  | .blockNode => exact keeps_node true false
  | .blockSequenceFirst => exact keeps_blockSequence true
  | .blockSequence => exact keeps_blockSequence false
  | .indentlessSequence => exact keeps_indentlessSequence
  | .blockMappingFirst => exact keeps_blockMappingKey true
  | .blockMappingKey => exact keeps_blockMappingKey false
  | .blockMappingValue => exact keeps_blockMappingValue
  | .flowSequenceFirst => exact keeps_flowSequence true
  | .flowSequence => exact keeps_flowSequence false
  | .flowPairKey => exact keeps_flowPairKey
  | .flowPairValue => exact keeps_flowPairValue
  | .flowPairEnd => exact keeps_flowPairEnd
  | .flowMappingFirst => exact keeps_flowMappingKey true
  | .flowMappingKey => exact keeps_flowMappingKey false
  | .flowMappingValue => exact keeps_flowMappingValue false
  | .flowMappingEmptyValue => exact keeps_flowMappingValue true
  | .nothing => exact fun _ _ _ _ => .error _ _

theorem EventKeeps.beq {e e' : Event} (h : EventKeeps q e e') {k : EventKind}
    (hk : ∀ anchor tag v style, k ≠ .scalar anchor tag v style)
    : (e'.kind == k) = (e.kind == k) := by
  unfold EventKeeps at h
  generalize e.kind = l at h ⊢
  generalize e'.kind = l' at h ⊢
  cases h with
  | same l => rfl
  | scalar anchor tag h style =>
    rw [beq_eq_false_iff_ne.mpr (hk _ _ _ _).symm, beq_eq_false_iff_ne.mpr (hk _ _ _ _).symm]

theorem run_keeps {fuel fuel' : Nat} {events events' : List Event} (hs : StateTwin q s s')
    (hfuel : fuel ≤ fuel') (hevents : List.Forall₂ (EventKeeps q) events events')
    (hfault : (run fuel s events).fault = none)
    : (run fuel' s' events').fault = none ∧
        List.Forall₂ (EventKeeps q) (run fuel s events).events (run fuel' s' events').events := by
  induction fuel generalizing fuel' s s' events events' with
  | zero => cases hfault
  | succ fuel ih =>
    obtain ⟨fuel', rfl⟩ : ∃ k, fuel' = k + 1 := ⟨fuel' - 1, by omega⟩
    unfold run at hfault ⊢
    cases hstep : step.run s with
    | error e =>
      rw [hstep] at hfault
      cases hfault
    | ok r =>
      obtain ⟨r', hstep', hevent, hr, -⟩ := keeps_step s s' hs (Nat.lt_succ_self _) r hstep
      rw [hstep] at hfault
      rw [hstep']
      dsimp only at hfault ⊢
      rw [hevent.beq (by simp), hevent.beq (by simp)]
      split at hfault
      . next hend =>
        rw [if_pos hend, if_pos hend]
        exact ⟨rfl, List.forall₂_reverse_iff.mpr (.cons hevent hevents)⟩
      . next hend =>
        rw [if_neg hend, if_neg hend]
        exact ih hr (by omega) (.cons hevent hevents) hfault

end Parser

/-- The events of a document from tokens of the same kinds. -/
theorem ofTokens_keeps {q : Prop} {ts ts' : TokenStream} (h : Leads q ts.items ts'.items)
    (hfault : (EventStream.ofTokens ts).fault = none)
    : (EventStream.ofTokens ts').fault = none ∧
        List.Forall₂ (Parser.EventKeeps q) (EventStream.ofTokens ts).events
        (EventStream.ofTokens ts').events := by
  have hlength := h.length_le
  exact Parser.run_keeps ⟨h, rfl, rfl, rfl⟩ (by omega) .nil hfault

end Yaml
end YamlOrder
