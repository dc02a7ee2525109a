import YamlOrder.Config.Loader

/-!
This module contains the merging of layers of settings: what a later layer says about a key wins,
unless both layers hold maps there, and all other keys keep what they have.
-/

namespace YamlOrder
namespace Config

variable {fs layer old : Fields} {key key' : Text} {v : Value}

/-- Every key stands once. -/
def Fields.Unique (fs : Fields) : Prop := (fs.map (·.1)).Nodup

theorem lookup_eq_none_of_notMem (h : key ∉ fs.map (·.1)) : fs.lookup key = none := by
  rw [List.lookup_eq_none_iff]
  intro f hf
  rw [bne_iff_ne]
  rintro rfl
  exact h (List.mem_map.mpr ⟨f, hf, rfl⟩)

theorem lookup_put_of_ne (h : key' ≠ key) (v : Value) (fs : Fields)
    : (Fields.put key v fs).lookup key' = fs.lookup key' := by
  have hother : (key' == key) = false := by simp [h]
  induction fs with
  | nil => rw [Fields.put, List.lookup_cons, hother]
  | cons f fs ih =>
    rw [Fields.put]
    split
    . next heq =>
      have hsame : key = f.1 := eq_of_beq heq
      rw [List.lookup_cons, List.lookup_cons, ← hsame, hother]
    . rw [List.lookup_cons, List.lookup_cons, ih]

theorem map_fst_put (key : Text) (v : Value) (fs : Fields)
    : (Fields.put key v fs).map (·.1) = if key ∈ fs.map (·.1) then fs.map (·.1)
      else fs.map (·.1) ++ [key] := by
  induction fs with
  | nil => simp [Fields.put]
  | cons f fs ih =>
    rw [Fields.put]
    cases hkey : key == f.1 with
    | true => simp [eq_of_beq hkey]
    | false =>
      have hne : key ≠ f.1 := beq_eq_false_iff_ne.mp hkey
      simp only [Bool.false_eq_true, if_false, List.map_cons, ih, List.mem_cons, hne, false_or]
      split
      all_goals rfl

theorem Fields.Unique.put (h : fs.Unique) (key : Text) (v : Value)
    : (Fields.put key v fs).Unique := by
  unfold Fields.Unique at h ⊢
  rw [map_fst_put]
  split
  . exact h
  . next hnew =>
    rw [List.nodup_append]
    refine ⟨h, by simp, ?_⟩
    rintro key' hkey' _ hlast rfl
    rw [List.mem_singleton.mp hlast] at hkey'
    exact hnew hkey'

theorem lookup_mergeFields (h : layer.Unique) (old : Fields) (key : Text)
    : (mergeFields layer old).lookup key =
        match layer.lookup key with
        | some v => some (v.over (old.lookup key))
        | none => old.lookup key := by
  induction layer generalizing old with
  | nil => simp [mergeFields]
  | cons f layer ih =>
    obtain ⟨key', v⟩ := f
    unfold Fields.Unique at h ih
    rw [List.map_cons, List.nodup_cons] at h
    rw [mergeFields, ih h.2, List.lookup_cons]
    cases hkey : key == key' with
    | true =>
      obtain rfl : key = key' := eq_of_beq hkey
      rw [lookup_eq_none_of_notMem h.1, Fields.lookup_put_self]
    | false => rw [lookup_put_of_ne (beq_eq_false_iff_ne.mp hkey)]

/-- A value that no other one is merged into. -/
def Value.Plain : Value → Prop
  | .map _ => False
  | _ => True

theorem over_of_plain (h : v.Plain) (old : Option Value) : v.over old = v := by
  cases v with
  | map fields => cases h
  | _ => rw [Value.over]; simp

theorem over_none (v : Value) : v.over none = v := by
  cases v
  all_goals simp [Value.over]

theorem over_plain {v' : Value} (h : v'.Plain) : v.over (some v') = v := by
  cases v with
  | map fields =>
    cases v' with
    | map fields' => cases h
    | _ => simp [Value.over]
  | _ => simp [Value.over]

theorem notMem_of_lookup_eq_none (h : fs.lookup key = none) : key ∉ fs.map (·.1) := by
  rw [List.lookup_eq_none_iff] at h
  intro hkey
  obtain ⟨f, hf, rfl⟩ := List.mem_map.mp hkey
  exact bne_iff_ne.mp (h f hf) rfl

theorem Fields.Unique.addMissing (h : fs.Unique) (new : Fields)
    : Fields.Unique (addMissing new fs) := by
  unfold Config.addMissing
  induction new generalizing fs with
  | nil => exact h
  | cons f new ih =>
    rw [List.foldl_cons]
    apply ih
    split
    . exact h
    . next hnew =>
      have hkey : f.1 ∉ fs.map (·.1) :=
        notMem_of_lookup_eq_none (Option.not_isSome_iff_eq_none.mp hnew)
      unfold Fields.Unique
      rw [List.map_append, List.nodup_append]
      refine ⟨h, by simp, ?_⟩
      rintro key hold _ hlast rfl
      rw [List.mem_singleton.mp hlast] at hold
      exact hkey hold

/-- What is known of everything that a part of the reading can yield. -/
def Yields {α : Type} (m : Decoding α) (P : α → Prop) : Prop :=
  ∀ faults a faults', m.run faults = .ok (a, faults') → P a

variable {α β : Type} {P : β → Prop} {Q : α → Prop}

theorem Yields.pure {b : β} (h : P b) : Yields (Pure.pure b) P := by
  intro faults a faults' hrun
  rw [StateT.run_pure] at hrun
  cases hrun
  exact h

theorem Yields.then {m : Decoding α} {f : α → Decoding β} (hm : Yields m Q)
    (hf : ∀ a, Q a → Yields (f a) P)
    : Yields (m >>= f) P := by
  intro faults b faults' hrun
  rw [StateT.run_bind] at hrun
  cases hr : m.run faults with
  | error e => simp [hr, Bind.bind, Except.bind] at hrun
  | ok r =>
    simp only [hr, Bind.bind, Except.bind] at hrun
    exact hf r.1 (hm faults r.1 r.2 hr) r.2 b faults' hrun

theorem Yields.bind {m : Decoding α} {f : α → Decoding β} (hf : ∀ a, Yields (f a) P)
    : Yields (m >>= f) P := by
  have hm : Yields m fun _ => True := fun _ _ _ _ => trivial
  exact hm.then fun a _ => hf a

theorem Yields.foldlM {xs : List α} {f : β → α → Decoding β}
    (hf : ∀ b x, P b → Yields (f b x) P) {b : β} (h : P b) : Yields (xs.foldlM f b) P := by
  induction xs generalizing b with
  | nil => exact Yields.pure h
  | cons x xs ih =>
    rw [List.foldlM_cons]
    exact (hf b x h).then fun b' hb' => ih hb'

theorem unique_decodeRoot (fuel : Nat) (root : Yaml.Node)
    : Yields (decodeRoot fuel root) Fields.Unique := by
  have hempty : Fields.Unique [] := List.nodup_nil
  unfold decodeRoot
  split
  . refine Yields.bind fun _ => ?_
    split
    . exact Yields.pure hempty
    . refine Yields.then (Q := Fields.Unique) ?_ fun fs hfs => ?_
      . refine Yields.foldlM (fun fs x hfs => ?_) hempty
        refine Yields.bind fun key => ?_
        split
        . exact Yields.pure hfs
        . exact Yields.bind fun v => Yields.pure (hfs.put _ v)
      . refine Yields.foldlM (fun fs x hfs => ?_) hfs
        exact Yields.bind fun new => Yields.pure (hfs.addMissing new)
  . split
    . exact Yields.pure hempty
    . exact Yields.bind fun _ => Yields.pure hempty

theorem unique_ofYaml {text : Text} (h : Fields.ofYaml text = .ok fs) : fs.Unique := by
  unfold Fields.ofYaml at h
  split at h
  . cases h
  . cases h
    exact List.nodup_nil
  . next t ht =>
    dsimp only at h
    cases hr : (decodeRoot (2 * (t.root.preorder.length + 2) * (t.root.preorder.length + 2))
      t.root).run [] with
    | error e => simp [hr, Bind.bind, Except.bind] at h
    | ok r =>
      simp only [hr, Bind.bind, Except.bind] at h
      split at h
      . cases h
        exact unique_decodeRoot _ t.root [] r.1 r.2 hr
      . cases h

theorem unique_ofFile {files : FileTree} {path : Text} (h : Fields.ofFile files path = .ok fs)
    : fs.Unique := by
  unfold Fields.ofFile at h
  split at h
  . cases h
    exact List.nodup_nil
  . split at h
    . cases h
    . cases h
    . next r content hfind =>
      cases hyaml : Fields.ofYaml content with
      | error fault =>
        rw [hyaml] at h
        cases h
      | ok fields =>
        rw [hyaml] at h
        cases h
        exact unique_ofYaml hyaml

end Config
end YamlOrder
