import Mathlib.Data.List.Induction
import YamlOrder.Proofs.Tree.Bare
import YamlOrder.Proofs.Tree.Canonical

/-!
This module contains what the checks say of a tree: it is accepted if no mapping repeats a key and
all tags that are written out belong to the schema. A repeated key counts before a foreign tag, and
the first one of each is named.
-/

namespace YamlOrder
namespace Yaml
namespace Node

variable {n k k' k'' root first first' key key' : Node} {ks earlier : List Node}

/-- The nodes that are the keys of a mapping. Other nodes have none. -/
def keyNodes (n : Node) : List Node := n.pairs.map Prod.fst

/--
What no two keys of a mapping share: the tag and the value of a scalar, unless it is a merge key.
-/
def identity? : Node → Option (Text × Text)
  | .scalar i value _ => if i.tag = Tag.merge then none else some (i.tag, value)
  | _ => none

/-- Two keys that cannot be in one mapping. -/
def Clash (k k' : Node) : Prop := k.identity?.isSome = true ∧ k.identity? = k'.identity?

instance : DecidableRel Clash := fun _ _ => inferInstanceAs (Decidable (_ ∧ _))

/-- Keys of which no two clash. -/
def Distinct (ks : List Node) : Prop := ks.Pairwise fun k k' => ¬ Clash k k'

instance : DecidablePred Distinct := fun _ => inferInstanceAs (Decidable (List.Pairwise _ _))

/-- A mapping that repeats none of its keys. Other nodes have no keys. -/
def KeysDistinct (n : Node) : Prop := Distinct n.keyNodes

instance : DecidablePred KeysDistinct := fun n => inferInstanceAs (Decidable (Distinct n.keyNodes))

/--
The first key of a list that clashes with one before it, and the first one that it clashes with.
-/
def Repeats (ks : List Node) (first key : Node) : Prop :=
  ∃ earlier later, ks = earlier ++ key :: later ∧ Distinct earlier ∧
  earlier.find? (fun k => Clash k key) = some first

/-- A tag that is not written out, or one of the schema. -/
def TagAllowed (s : Schema) (n : Node) : Prop := n.info.tagged = true → n.tag ∈ s.tags

instance (s : Schema) : DecidablePred (TagAllowed s) := fun _ => inferInstanceAs (Decidable (_ → _))

theorem Clash.symm (h : Clash k k') : Clash k' k := ⟨h.2 ▸ h.1, h.2.symm⟩

theorem Clash.trans (h : Clash k k') (h' : Clash k' k'') : Clash k k'' := ⟨h.1, h.2.trans h'.2⟩

theorem tag_of_identity? {id : Text × Text} (h : k.identity? = some id) : id.1 = k.tag := by
  cases k with
  | scalar i value style =>
    rw [identity?, Option.ite_none_left_eq_some, Option.some.injEq] at h
    rw [← h.2]
    rfl
  | _ => cases h

theorem distinct_concat_iff : Distinct (ks ++ [k]) ↔
    Distinct ks ∧ ks.find? (fun c => Clash c k) = none := by
  simp [Distinct, List.pairwise_append]

theorem not_prefix_of_find? (hks : Distinct ks)
    (h : earlier.find? (fun k => Clash k key) = some first)
    : ¬ earlier ++ [key] <+: ks := by
  intro hprefix
  have hdistinct : Distinct (earlier ++ [key]) := hks.sublist hprefix.sublist
  rw [distinct_concat_iff, h] at hdistinct
  simp at hdistinct

theorem Repeats.not_distinct (h : Repeats ks first key) : ¬ Distinct ks := by
  obtain ⟨earlier, later, rfl, -, hfirst⟩ := h
  exact fun hks => not_prefix_of_find? hks hfirst ⟨later, by simp⟩

theorem Repeats.unique (h : Repeats ks first key) (h' : Repeats ks first' key')
    : first = first' ∧ key = key' := by
  obtain ⟨earlier, later, hks, hearlier, hfirst⟩ := h
  obtain ⟨earlier', later', hks', hearlier', hfirst'⟩ := h'
  have hprefix : earlier ++ [key] <+: ks := ⟨later, by simp [hks]⟩
  have hprefix' : earlier' ++ [key'] <+: ks := ⟨later', by simp [hks']⟩
  -- neither key is among those before the other one, since these are distinct
  have heq : earlier ++ [key] = earlier' ++ [key'] := by
    obtain h | h := List.prefix_or_prefix_of_prefix hprefix hprefix'
    . exact (List.prefix_concat_iff.mp h).resolve_right (not_prefix_of_find? hearlier' hfirst)
    . exact ((List.prefix_concat_iff.mp h).resolve_right
        (not_prefix_of_find? hearlier hfirst')).symm
  obtain ⟨rfl, hkey⟩ := List.append_inj' heq rfl
  cases hkey
  exact ⟨Option.some.inj (hfirst.symm.trans hfirst'), rfl⟩

theorem mem_preorder_of_mem_keyNodes (hn : n ∈ root.preorder) (hk : k ∈ n.keyNodes)
    : k ∈ root.preorder := by
  obtain ⟨p, hp, rfl⟩ := List.mem_map.mp hk
  apply preorder_subset_of_mem hn
  cases n with
  | mapping i flow ps =>
    rw [preorder_eq]
    exact List.mem_cons_of_mem _ (mem_nodes_of_mem (mem_flatten_of_mem hp).1)
  | _ => cases hp

end Node
end Yaml

namespace Tree

open Yaml
open Node (identity? Clash Distinct KeysDistinct Repeats TagAllowed distinct_concat_iff)
open Sorter (bind_eq_ok bind_eq_error)

variable {s : Schema} {root n k k' first key : Node} {ks earlier : List Node}
  {ps : List (Node × Node)} {id : Text}
variable {found : Text × Nat} {e : Error}

/--
What is to be said of a tree. Nodes come before those below them, so a key that a mapping repeats is
named before one that is repeated in its pairs, wherever they stand. Of a repeated key the line is
that of the first one of its mapping that it repeats.
-/
inductive Verdict (s : Schema) (root : Node) : Except Error PUnit → Prop where
  | accepted (hkeys : ∀ n ∈ root.preorder, KeysDistinct n)
      (htags : ∀ n ∈ root.preorder, TagAllowed s n)
    : Verdict s root (.ok ())
  | repeated {n first key : Node} (hn : root.preorder.find? (fun n => ¬ KeysDistinct n) = some n)
    (hkey : Repeats n.keyNodes first key) : Verdict s root
      (.error (.duplicateKey key.keyText first.info.line))
  | foreign {n : Node} (hkeys : ∀ n ∈ root.preorder, KeysDistinct n)
    (hn : root.preorder.find? (fun n => ¬ TagAllowed s n) = some n)
    : Verdict s root (.error (.unknownTag n.tag n.info.line s.name))

theorem keyId?_eq (k : Node) : keyId? k = (identity? k).map fun id => id.1 ++
    Text.space :: id.2 := by
  cases k with
  | scalar i value style =>
    simp only [keyId?, identity?, beq_iff_eq]
    split
    all_goals rfl
  | _ => rfl

theorem not_clash_of_keyId?_eq_none (h : keyId? k = none) : ¬ Clash k k' := by
  rw [keyId?_eq, Option.map_eq_none_iff] at h
  simp [Clash, h]

theorem append_space_inj {tag tag' value value' : Text} (h : Text.space ∉ tag)
    (h' : Text.space ∉ tag')
    : tag ++ Text.space :: value = tag' ++ Text.space :: value' ↔ tag = tag' ∧ value = value' := by
  have hfirst {tag : Text} (h : Text.space ∉ tag) (value : Text)
      : (tag ++ Text.space :: value).takeWhile (· != Text.space) = tag := by
    rw [List.takeWhile_append_of_pos (by grind)]
    simp
  constructor
  . intro heq
    have htag : tag = tag' := by rw [← hfirst h value, heq, hfirst h' value']
    subst htag
    simpa using heq
  . rintro ⟨rfl, rfl⟩
    rfl

theorem keyId?_eq_some_iff (hk : Text.space ∉ k.tag) (hk' : Text.space ∉ k'.tag)
    (hid : keyId? k' = some id)
    : keyId? k = some id ↔ Clash k k' := by
  rw [keyId?_eq, Option.map_eq_some_iff] at hid
  obtain ⟨⟨tag', value'⟩, hid', rfl⟩ := hid
  rw [← Node.tag_of_identity? hid'] at hk'
  rw [keyId?_eq, Clash, hid']
  cases hid : identity? k with
  | none => simp
  | some p =>
    obtain ⟨tag, value⟩ := p
    rw [← Node.tag_of_identity? hid] at hk
    dsimp only at hk hk'
    simp [append_space_inj hk hk']

/-- The keys of a mapping that have been seen, with their lines, the last one first. -/
def seenKeys (ks : List Node) : List (Text × Nat) :=
  (ks.filterMap fun k => (keyId? k).map fun id => (id, k.info.line)).reverse

theorem seenKeys_concat_of_none (ks : List Node) (h : keyId? k = none)
    : seenKeys (ks ++ [k]) = seenKeys ks := by
  simp [seenKeys, h]

theorem seenKeys_concat_of_some (ks : List Node) (h : keyId? k = some id)
    : seenKeys (ks ++ [k]) = (id, k.info.line) :: seenKeys ks := by
  simp [seenKeys, h]

theorem find?_seenKeys (hks : Distinct ks) (hspace : ∀ k ∈ ks, Text.space ∉ k.tag)
    (hkey : Text.space ∉ key.tag) (hid : keyId? key = some id)
    : (seenKeys ks).find? (·.1 == id) = (ks.find? fun k => Clash k key).map fun first =>
      (id, first.info.line) := by
  induction ks using List.reverseRecOn with
  | nil => rfl
  | append_singleton ks k ih =>
    rw [distinct_concat_iff, List.find?_eq_none] at hks
    rw [List.forall_mem_append, List.forall_mem_singleton] at hspace
    have hclash := keyId?_eq_some_iff hspace.2 hkey hid
    specialize ih hks.1 hspace.1
    rw [List.find?_append]
    by_cases hk : Clash k key
    . have hnone : ks.find? (fun k => Clash k key) = none := by
        rw [List.find?_eq_none]
        intro c hc
        simpa using fun hck : Clash c key => hks.2 c hc (by simpa using hck.trans hk.symm)
      rw [seenKeys_concat_of_some ks (hclash.mpr hk), hnone]
      simp [hk]
    . cases hother : keyId? k with
      | none =>
        rw [seenKeys_concat_of_none ks hother, ih]
        simp [hk]
      | some other =>
        have hne : other ≠ id := by
          rintro rfl
          exact hk (hclash.mp hother)
        rw [seenKeys_concat_of_some ks hother, List.find?_cons_of_neg (by simpa using hne), ih]
        simp [hk]

section Search

variable (hearlier : Distinct earlier) (hspace : ∀ k ∈ earlier, Text.space ∉ k.tag)
  (hkey : Text.space ∉ key.tag)

include hearlier hspace hkey

theorem go_of_find?_eq_some (v : Node) (h : earlier.find? (fun k => Clash k key) = some first)
    : repeatedKey?.go (seenKeys earlier) ((key, v) :: ps) =
      some (key.keyText, first.info.line) := by
  have hclash : Clash first key := by simpa using List.find?_some h
  cases hid : keyId? key with
  | none => exact absurd hclash.symm (not_clash_of_keyId?_eq_none hid)
  | some id => simp [repeatedKey?.go, hid, find?_seenKeys hearlier hspace hkey hid, h]

theorem go_of_find?_eq_none (v : Node) (h : earlier.find? (fun k => Clash k key) = none)
    : repeatedKey?.go (seenKeys earlier) ((key, v) :: ps) =
      repeatedKey?.go (seenKeys (earlier ++ [key])) ps := by
  cases hid : keyId? key with
  | none => simp [repeatedKey?.go, hid, seenKeys_concat_of_none earlier hid]
  | some id =>
    simp [repeatedKey?.go, hid, find?_seenKeys hearlier hspace hkey hid, h,
      seenKeys_concat_of_some earlier hid]

end Search

theorem go_eq_some_iff (hearlier : Distinct earlier)
    (hspace : ∀ k ∈ earlier ++ ps.map Prod.fst, Text.space ∉ k.tag)
    : repeatedKey?.go (seenKeys earlier) ps = some found ↔
        ∃ first key, Repeats (earlier ++ ps.map Prod.fst) first key ∧
        found = (key.keyText, first.info.line) := by
  induction ps generalizing earlier with
  | nil =>
    rw [List.map_nil, List.append_nil]
    constructor
    . intro h
      cases h
    . rintro ⟨first, key, hrepeats, -⟩
      exact absurd hearlier hrepeats.not_distinct
  | cons p ps ih =>
    obtain ⟨k, v⟩ := p
    rw [List.map_cons] at hspace ⊢
    have hspace' : (∀ c ∈ earlier, Text.space ∉ c.tag) ∧ Text.space ∉ k.tag := by
      rw [List.forall_mem_append, List.forall_mem_cons] at hspace
      exact ⟨hspace.1, hspace.2.1⟩
    cases hfind : earlier.find? (fun c => Clash c k) with
    | some first =>
      have hrepeats : Repeats (earlier ++ k :: ps.map Prod.fst) first k :=
        ⟨earlier, ps.map Prod.fst, rfl, hearlier, hfind⟩
      rw [go_of_find?_eq_some hearlier hspace'.1 hspace'.2 v hfind, Option.some.injEq]
      constructor
      . rintro rfl
        exact ⟨first, k, hrepeats, rfl⟩
      . rintro ⟨first', key, h, rfl⟩
        obtain ⟨rfl, rfl⟩ := hrepeats.unique h
        rfl
    | none =>
      have hdistinct : Distinct (earlier ++ [k]) := distinct_concat_iff.mpr ⟨hearlier, hfind⟩
      rw [List.append_cons] at hspace ⊢
      rw [go_of_find?_eq_none hearlier hspace'.1 hspace'.2 v hfind, ih hdistinct hspace]

theorem checkKeys_eq_ok_iff (hspace : ∀ k ∈ n.keyNodes, Text.space ∉ k.tag)
    : checkKeys n = .ok () ↔ KeysDistinct n := by
  cases n with
  | mapping i flow ps =>
    rw [checkKeys_mapping, keyIds, List.Nodup, List.pairwise_filterMap, KeysDistinct,
      Node.keyNodes, Distinct,
      List.pairwise_map]
    refine List.Pairwise.iff_of_mem fun {p q} hp hq => ?_
    have hsame {id : Text} (hid : keyId? q.1 = some id) : keyId? p.1 = some id ↔ Clash p.1 q.1 :=
      keyId?_eq_some_iff (hspace _ (List.mem_map_of_mem hp)) (hspace _ (List.mem_map_of_mem hq)) hid
    constructor
    . intro hne hclash
      cases hid : keyId? q.1 with
      | none => exact not_clash_of_keyId?_eq_none hid hclash.symm
      | some id => exact hne id ((hsame hid).mpr hclash) id hid rfl
    . rintro hclash id hp _ hq rfl
      exact hclash ((hsame hq).mp hp)
  | _ => simp [checkKeys, KeysDistinct, Node.keyNodes, Node.pairs, Distinct]

theorem checkKeys_eq_error_iff (hspace : ∀ k ∈ n.keyNodes, Text.space ∉ k.tag)
    : checkKeys n = .error e ↔
        ∃ first key, Repeats n.keyNodes first key ∧
        e = .duplicateKey key.keyText first.info.line := by
  cases n with
  | mapping i flow ps =>
    have hfound {found : Text × Nat} : repeatedKey? ps = some found ↔ _ :=
      go_eq_some_iff .nil hspace
    rw [checkKeys]
    constructor
    . split
      . next text line hsome =>
        rintro ⟨⟩
        obtain ⟨first, key, hrepeats, heq⟩ := hfound.mp hsome
        cases heq
        exact ⟨first, key, hrepeats, rfl⟩
      . intro h
        cases h
    . rintro ⟨first, key, hrepeats, rfl⟩
      rw [hfound.mpr ⟨first, key, hrepeats, rfl⟩]
  | _ => simp [checkKeys, Node.keyNodes, Node.pairs, Repeats]

theorem tagAllowed_iff : TagAllowed s n ↔ (n.info.tagged && !s.tags.contains n.tag) = false := by
  simp [TagAllowed]

theorem checkTag_eq_error_iff
    : checkTag s n = .error e ↔ ¬ TagAllowed s n ∧ e = .unknownTag n.tag n.info.line s.name := by
  rw [tagAllowed_iff, checkTag]
  cases n.info.tagged && !s.tags.contains n.tag with
  | false => simp
  | true =>
    rw [if_pos rfl, Except.error.injEq, eq_comm]
    simp

theorem forM_eq_error_iff {α ε : Type} {P : α → Prop} [DecidablePred P] {f : α → Except ε PUnit.{1}}
    {xs : List α} {e : ε} (h : ∀ x ∈ xs, f x = .ok () ↔ P x)
    : xs.forM f = .error e ↔ ∃ x, xs.find? (fun x => ¬ P x) = some x ∧ f x = .error e := by
  induction xs with
  | nil => simp [List.forM, pure, Except.pure]
  | cons x xs ih =>
    rw [List.forall_mem_cons] at h
    have hcons : (x :: xs).forM f = f x >>= fun _ => xs.forM f := rfl
    rw [hcons, bind_eq_error, ih h.2]
    by_cases hx : P x
    . simp [h.1.mpr hx, hx]
    . have hfails : ¬ f x = .ok () := mt h.1.mp hx
      simp [hx, hfails]

/--
The checks say of a tree what is to be said of it, if no tag has a space in it: they accept the
trees without repeated keys and foreign tags, and no others.
-/
theorem check_eq_iff (s : Schema) (t : Yaml.Tree)
    (hspace : ∀ n ∈ t.root.preorder, Text.space ∉ n.tag) (result : Except Error PUnit)
    : check s t = result ↔ Verdict s t.root result := by
  have hkeySpace : ∀ n ∈ t.root.preorder, ∀ k ∈ n.keyNodes, Text.space ∉ k.tag :=
    fun n hn k hk => hspace k (Node.mem_preorder_of_mem_keyNodes hn hk)
  have hkeys : ∀ n ∈ t.root.preorder, checkKeys n = .ok () ↔ KeysDistinct n :=
    fun n hn => checkKeys_eq_ok_iff (hkeySpace n hn)
  have htags : ∀ n ∈ t.root.preorder, checkTag s n = .ok () ↔ TagAllowed s n :=
    fun n _ => (checkTag_eq_ok_iff s n).trans tagAllowed_iff.symm
  have hallKeys : t.root.preorder.forM checkKeys = .ok () ↔ ∀ n ∈ t.root.preorder, KeysDistinct n :=
    forM_eq_ok_iff.trans (forall₂_congr hkeys)
  have hallTags : t.root.preorder.forM (checkTag s) = .ok () ↔
    ∀ n ∈ t.root.preorder, TagAllowed s n :=
    forM_eq_ok_iff.trans (forall₂_congr htags)
  unfold check
  constructor
  . intro h
    cases result with
    | ok _ =>
      obtain ⟨_, hk, ht⟩ := bind_eq_ok.mp h
      exact .accepted (hallKeys.mp hk) (hallTags.mp ht)
    | error e =>
      obtain hk | ⟨_, hk, ht⟩ := bind_eq_error.mp h
      . obtain ⟨n, hn, hk⟩ := (forM_eq_error_iff hkeys).mp hk
        obtain ⟨first, key, hrepeats, rfl⟩ :=
          (checkKeys_eq_error_iff (hkeySpace n (List.mem_of_find?_eq_some hn))).mp hk
        exact .repeated hn hrepeats
      . obtain ⟨n, hn, ht⟩ := (forM_eq_error_iff htags).mp ht
        obtain ⟨-, rfl⟩ := checkTag_eq_error_iff.mp ht
        exact .foreign (hallKeys.mp hk) hn
  . intro h
    cases h with
    | accepted hk ht => exact bind_eq_ok.mpr ⟨(), hallKeys.mpr hk, hallTags.mpr ht⟩
    | @repeated n first key hn hrepeats =>
      have hfails : checkKeys n = .error (.duplicateKey key.keyText first.info.line) :=
        (checkKeys_eq_error_iff (hkeySpace n (List.mem_of_find?_eq_some hn))).mpr
        ⟨first, key, hrepeats, rfl⟩
      exact bind_eq_error.mpr (Or.inl ((forM_eq_error_iff hkeys).mpr ⟨n, hn, hfails⟩))
    | @foreign n hk hn =>
      have hforeign : ¬ TagAllowed s n := by simpa using List.find?_some hn
      have hfails : checkTag s n = .error (.unknownTag n.tag n.info.line s.name) :=
        checkTag_eq_error_iff.mpr ⟨hforeign, rfl⟩
      exact bind_eq_error.mpr
        (Or.inr ⟨(), hallKeys.mpr hk, (forM_eq_error_iff htags).mpr ⟨n, hn, hfails⟩⟩)

/--
A key that is repeated in a pair before one that the mapping itself repeats, merge keys, keys with
the same value and different tags, and a foreign tag.
-/
def parcels : Node :=
  .mapping { line := 1 } false
    [(.scalar { tag := Tag.str, line := 1 } "a" .plain, .mapping { line := 2 } false
        [(.scalar { tag := Tag.str, line := 2 } "x" .plain, wordNode "1"),
          (.scalar { tag := Tag.str, line := 3 } "x" .plain, wordNode "2")]),
      (.scalar { tag := Tag.merge, line := 4 } "<<" .plain, .sequence {} true []),
      (.scalar { tag := Tag.merge, line := 5 } "<<" .plain, .sequence {} true []),
      (.scalar { tag := Tag.int, line := 6 } "1" .plain, wordNode "3"),
      (.scalar { tag := Tag.str, line := 7 } "1" .singleQuoted, wordNode "4"),
      (.scalar { tag := Tag.str, line := 8 } "1" .doubleQuoted,
        .scalar { tag := "!Ref", tagged := true, line := 8 } "y" .plain)]

/-- The outer mapping is named, with the line of the first of the two keys that are strings. -/
theorem check_eq_iff_parcels
    : (∀ n ∈ parcels.preorder, Text.space ∉ n.tag) ∧
      check .default { root := parcels } = .error (.duplicateKey "1" 7) ∧
      Verdict .default parcels (.error (.duplicateKey "1" 7)) := by
  have hspace : ∀ n ∈ parcels.preorder, Text.space ∉ n.tag := by decide
  have hcheck : check .default { root := parcels } = .error (.duplicateKey "1" 7) := by decide
  exact ⟨hspace, hcheck, (check_eq_iff .default { root := parcels } hspace _).mp hcheck⟩

end Tree
end YamlOrder
