import YamlOrder.Proofs.Tree.Linked

/-!
This module contains the names that are given to several nodes of a tree. An alias is read as the
nearest node before it with its name, so the order of all nodes and aliases with this name matters.
-/

namespace YamlOrder
namespace Tree

open Yaml
open Node (nodes)

variable {root n : Node} {ns : List Node} {name used : Text} {latest : Option Nat} {k : Nat}
  {a : Anchor}

/-- The numbers of the nodes with a name. -/
def numbersOf (name : Text) (ns : List Node) : List Nat :=
  ns.filterMap fun n => (n.anchor.filter (·.name == name)).map (·.number)

/--
Nodes in which every alias is read as the node that it stands for: the nearest one with its name.
-/
def Scoped (ns : List Node) : Prop :=
  ∀ before i name target after, ns = before ++ .alias i name target :: after →
    (numbersOf name before).getLast? = some target

/--
Nodes in which every alias would be read as the node that it stands for, if aliases before the first
node with their name were read as this one.
-/
def InOrder (ns : List Node) : Prop :=
  ∀ before i name target after, ns = before ++ .alias i name target :: after →
    (numbersOf name before).getLast?.or (numbersOf name ns).head? = some target

/-- A name that several nodes have. -/
def Repeated (root : Node) (name : Text) : Prop := 1 < (numbersOf name root.preorder).length

instance : Decidable (Repeated root name) := inferInstanceAs (Decidable (_ < _))

/-- What a node does with a name: it has the name itself, or it is an alias of the name. -/
inductive Mention where
  | define (number : Nat)
  | use (number : Nat)
  deriving DecidableEq

namespace Mention

def number : Mention → Nat
  | .define k => k
  | .use k => k

/-- The numbers of the nodes with the name. -/
def definitions : List Mention → List Nat
  | [] => []
  | .define k :: cs => k :: definitions cs
  | .use _ :: cs => definitions cs

/-- Every alias stands for the node that had the name last. -/
def Bound (latest : Option Nat) : List Mention → Prop
  | [] => True
  | .define k :: cs => Bound (some k) cs
  | .use k :: cs => latest = some k ∧ Bound latest cs

instance decidableBound (latest : Option Nat) : (cs : List Mention) → Decidable (Bound latest cs)
  | [] => inferInstanceAs (Decidable True)
  | .define k :: cs => decidableBound (some k) cs
  | .use k :: cs =>
    have := decidableBound latest cs
    inferInstanceAs (Decidable (latest = some k ∧ Bound latest cs))

/-- A node has left an alias behind. -/
def leave (gone : Nat) : Mention → Mention
  | .define k => if k = gone then .use k else .define k
  | .use k => .use k

theorem map_leave_of_not_mem {cs : List Mention} (h : k ∉ definitions cs)
    : cs.map (leave k) = cs := by
  induction cs with
  | nil => rfl
  | cons c cs ih =>
    cases c with
    | define j =>
      simp only [definitions, List.mem_cons, not_or] at h
      rw [List.map_cons, ih h.2, leave, if_neg (Ne.symm h.1)]
    | use j =>
      rw [List.map_cons, ih h]
      rfl

theorem not_bound_map_leave {cs : List Mention} (hk : k ∈ definitions cs)
    (hlatest : latest ≠ some k)
    : ¬ Bound latest (cs.map (leave k)) := by
  induction cs generalizing latest with
  | nil => simp [definitions] at hk
  | cons c cs ih =>
    cases c with
    | use j => exact fun hbound => ih hk hlatest hbound.2
    | define j =>
      simp only [List.map_cons, leave]
      split
      . next heq =>
        intro hbound
        exact hlatest (heq ▸ hbound.1)
      . next hne =>
        simp only [definitions, List.mem_cons] at hk
        exact ih (hk.resolve_left (Ne.symm hne)) (by simpa using hne)

theorem bound_map_leave_iff {cs : List Mention} (hk : k ∈ definitions cs)
    (hnodup : (definitions cs).Nodup)
    : Bound (some k) (cs.map (leave k)) ↔ (definitions cs).head? = some k ∧ Bound (some k) cs := by
  induction cs with
  | nil => simp [definitions] at hk
  | cons c cs ih =>
    cases c with
    | use j =>
      have := ih hk hnodup
      simp only [List.map_cons, leave, Bound, this, definitions]
      grind
    | define j =>
      simp only [definitions, List.nodup_cons, List.mem_cons] at hk hnodup
      simp only [List.map_cons, leave, definitions, List.head?_cons, Option.some.injEq]
      split
      . next heq =>
        subst heq
        simp only [Bound, map_leave_of_not_mem hnodup.1]
      . next hne =>
        simp only [Bound, hne, false_and, iff_false]
        exact not_bound_map_leave (hk.resolve_left (Ne.symm hne)) (by simpa using hne)

end Mention

open Mention (definitions Bound)

/-- What a node does with a name. -/
def mention? (name : Text) : Node → Option Mention
  | .alias _ used target => if used = name then some (.use target) else none
  | n => (n.anchor.filter (·.name == name)).map (.define ·.number)

/-- What nodes do with a name, in their order. -/
def mentions (name : Text) (ns : List Node) : List Mention := ns.filterMap (mention? name)

@[simp]
theorem mentions_nil (name : Text) : mentions name [] = [] := rfl

theorem mentions_cons (name : Text) (n : Node) (ns : List Node)
    : mentions name (n :: ns) = (mention? name n).toList ++ mentions name ns := by
  unfold mentions
  cases h : mention? name n with
  | none => simp [h]
  | some c => simp [h]

theorem mentions_append (name : Text) (ns ms : List Node)
    : mentions name (ns ++ ms) = mentions name ns ++ mentions name ms := List.filterMap_append

theorem mention?_alias (name : Text) (i : NodeInfo) (used : Text) (target : Nat)
    : mention? name (.alias i used target) = if used = name then some (.use target) else none := rfl

theorem mention?_of_not_alias (h : n.isAlias = false)
    : mention? name n = (n.anchor.filter (·.name == name)).map (.define ·.number) := by
  cases n
  all_goals
    first
    | rfl
    | simp [Node.isAlias] at h

theorem mention?_of_anchor_eq_none (halias : n.isAlias = false) (h : n.anchor = none)
    : mention? name n = none := by
  rw [mention?_of_not_alias halias, h]
  rfl

theorem mention?_of_anchor (h : n.anchor = some a) (hname : a.name = name)
    : mention? name n = some (.define a.number) := by
  rw [mention?_of_not_alias (Node.isAlias_eq_false_of_anchor h), h]
  simp [hname]

theorem mention?_of_other_anchor (h : n.anchor = some a) (hname : a.name ≠ name)
    : mention? name n = none := by
  rw [mention?_of_not_alias (Node.isAlias_eq_false_of_anchor h), h]
  simp [hname]

theorem mention?_alias_self (i : NodeInfo) (name : Text) (target : Nat)
    : mention? name (.alias i name target) = some (.use target) := if_pos rfl

theorem mention?_alias_other (hused : used ≠ name) : mention? name (.alias i used target) = none :=
  if_neg hused

theorem mem_mentions_use
    : Mention.use k ∈ mentions name ns ↔ ∃ i, .alias i name k ∈ ns := by
  rw [mentions, List.mem_filterMap]
  constructor
  . intro ⟨n, hn, hmention⟩
    by_cases halias : n.isAlias = true
    . obtain ⟨i, used, target, rfl⟩ := Node.exists_alias halias
      rw [mention?_alias] at hmention
      split at hmention
      . next hused =>
        simp only [Option.some.injEq, Mention.use.injEq] at hmention
        exact ⟨i, hused ▸ hmention ▸ hn⟩
      . simp at hmention
    . rw [mention?_of_not_alias (by simpa using halias)] at hmention
      simp at hmention
  . intro ⟨i, hn⟩
    exact ⟨_, hn, if_pos rfl⟩

theorem numbersOf_append (name : Text) (ns ms : List Node)
    : numbersOf name (ns ++ ms) = numbersOf name ns ++ numbersOf name ms := List.filterMap_append

theorem numbersOf_cons (name : Text) (n : Node) (ns : List Node)
    : numbersOf name (n :: ns) = numbersOf name [n] ++ numbersOf name ns :=
  numbersOf_append name [n] ns

theorem numbersOf_eq (name : Text) (ns : List Node)
    : numbersOf name ns = ((ns.filterMap Node.anchor).filter (·.name == name)).map (·.number) := by
  induction ns with
  | nil => rfl
  | cons n ns ih =>
    rw [numbersOf_cons, ih, numbersOf]
    cases ha : n.anchor with
    | none => simp [ha]
    | some a =>
      by_cases hname : a.name = name
      . simp [ha, hname]
      . simp [ha, hname]

theorem mem_numbersOf : k ∈ numbersOf name ns ↔ ⟨name, k⟩ ∈ ns.filterMap Node.anchor := by
  rw [numbersOf_eq]
  simp only [List.mem_map, List.mem_filter, beq_iff_eq]
  constructor
  . rintro ⟨a, ⟨ha, rfl⟩, rfl⟩
    exact ha
  . intro h
    exact ⟨_, ⟨h, rfl⟩, rfl⟩

theorem definitions_mentions (name : Text) (ns : List Node)
    : definitions (mentions name ns) = numbersOf name ns := by
  induction ns with
  | nil => rfl
  | cons n ns ih =>
    rw [mentions_cons, numbersOf_cons, ← ih]
    by_cases halias : n.isAlias = true
    . obtain ⟨i, used, target, rfl⟩ := Node.exists_alias halias
      rw [mention?_alias]
      split
      all_goals rfl
    . rw [mention?_of_not_alias (by simpa using halias), numbersOf, List.filterMap_cons]
      cases Option.filter _ _
      all_goals rfl

theorem bound_mentions_cons
    : Bound latest (mentions name (n :: ns)) ↔
        (∀ i target, n = .alias i name target → latest = some target) ∧
          Bound ((numbersOf name [n]).getLast?.or latest) (mentions name ns) := by
  rw [mentions_cons]
  by_cases halias : n.isAlias = true
  . obtain ⟨i, used, target, rfl⟩ := Node.exists_alias halias
    rw [mention?_alias]
    split
    . next hused =>
      subst hused
      simp [Bound, numbersOf]
    . next hused => simp [numbersOf, hused]
  . simp only [Bool.not_eq_true] at halias
    rw [mention?_of_not_alias halias]
    have hne : ∀ i target, n ≠ .alias i name target := by
      rintro i target rfl
      simp [Node.isAlias] at halias
    simp only [numbersOf, List.filterMap_cons, List.filterMap_nil, hne, false_implies, implies_true,
      true_and]
    cases Option.filter _ _
    all_goals simp [Bound]

theorem bound_mentions_iff
    : Bound latest (mentions name ns) ↔
        ∀ before i target after, ns = before ++ .alias i name target :: after →
          (numbersOf name before).getLast?.or latest = some target := by
  induction ns generalizing latest with
  | nil => simp [Bound]
  | cons n ns ih =>
    rw [bound_mentions_cons, ih]
    constructor
    . intro ⟨hn, hns⟩ before i target after hsplit
      cases before with
      | nil =>
        simp only [List.nil_append, List.cons.injEq] at hsplit
        simpa [numbersOf] using hn i target hsplit.1
      | cons n' before =>
        simp only [List.cons_append, List.cons.injEq] at hsplit
        obtain ⟨rfl, hsplit⟩ := hsplit
        rw [numbersOf_cons, List.getLast?_append, Option.or_assoc]
        exact hns before i target after hsplit
    . intro h
      constructor
      . rintro i target rfl
        simpa [numbersOf] using h [] i target ns rfl
      . intro before i target after hsplit
        have := h (n :: before) i target after (by rw [hsplit, List.cons_append])
        rwa [numbersOf_cons, List.getLast?_append, Option.or_assoc] at this

theorem scoped_iff : Scoped ns ↔ ∀ name, Bound none (mentions name ns) := by
  simp only [Scoped, bound_mentions_iff, Option.or_none]
  exact ⟨fun h name before i target => h before i name target,
    fun h before i name => h name before i⟩

theorem inOrder_iff
    : InOrder ns ↔ ∀ name, Bound (numbersOf name ns).head? (mentions name ns) := by
  simp only [InOrder, bound_mentions_iff]
  exact ⟨fun h name before i target => h before i name target,
    fun h before i name => h name before i⟩

/-- Only the names of aliases matter. -/
theorem forall_bound_iff (latest : Text → Option Nat) (ns : List Node)
    : (∀ name, Bound (latest name) (mentions name ns)) ↔
        ∀ a ∈ ns.filterMap link?, Bound (latest a.name) (mentions a.name ns) := by
  constructor
  . intro h a _
    exact h a.name
  . intro h name
    rw [bound_mentions_iff]
    intro before i target after hsplit
    have hlink : ⟨name, target⟩ ∈ ns.filterMap link? :=
      List.mem_filterMap.mpr ⟨.alias i name target, by simp [hsplit], rfl⟩
    exact bound_mentions_iff.mp (h _ hlink) before i target after hsplit

instance : Decidable (Scoped ns) :=
    decidable_of_iff _ ((forall_bound_iff _ ns).symm.trans scoped_iff.symm)

instance : Decidable (InOrder ns) :=
    decidable_of_iff _ ((forall_bound_iff _ ns).symm.trans inOrder_iff.symm)

end Tree
end YamlOrder
