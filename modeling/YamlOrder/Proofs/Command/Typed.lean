import YamlOrder.Command.Flag

/-!
This module contains what is known of arguments that have been read: every flag that was given is
one of those that are declared, stands once, and has a value of its kind.
-/

namespace YamlOrder
namespace Command

def FlagValue.kind : FlagValue → FlagKind
  | .bool _ => .bool
  | .int _ => .int
  | .text _ => .text
  | .texts _ => .texts
  | .range _ => .range

variable {f : Flag} {flags : List Flag} {old : Option FlagValue} {v : FlagValue}
  {value body arg : Text}
variable {a : Arguments} {s s' : Reading}

theorem kind_of_read (h : f.read old value = .ok v) : v.kind = f.kind := by
  unfold Flag.read at h
  cases hkind : f.kind with
  | bool =>
    rw [hkind] at h
    dsimp only at h
    split at h
    all_goals cases h
    rfl
  | int =>
    rw [hkind] at h
    dsimp only at h
    split at h
    all_goals cases h
    rfl
  | text =>
    rw [hkind] at h
    cases h
    rfl
  | texts =>
    rw [hkind] at h
    dsimp only at h
    split at h
    . split at h
      all_goals cases h
      all_goals rfl
    . cases h
  | range =>
    rw [hkind] at h
    dsimp only at h
    split at h
    all_goals cases h
    rfl

/-- The flags that were given are declared, and their values are of their kinds. -/
structure Arguments.Typed (flags : List Flag) (a : Arguments) : Prop where
  unique : (a.given.map (·.1)).Nodup
  declared : ∀ x ∈ a.given, ∃ f ∈ flags, f.name = x.1 ∧ f.kind = x.2.kind

theorem nodup_set (a : Arguments) (h : (a.given.map (·.1)).Nodup) (name : Text) (v : FlagValue)
    : ((a.set name v).given.map (·.1)).Nodup := by
  unfold Arguments.set
  dsimp only
  rw [List.map_append, List.nodup_append]
  refine ⟨h.sublist (List.filter_sublist.map _), by simp, ?_⟩
  rintro name' hname' _ hlast rfl
  obtain ⟨x, hx, rfl⟩ := List.mem_map.mp hname'
  have hne : x.1 ≠ name := by simpa using (List.mem_filter.mp hx).2
  exact hne (List.mem_singleton.mp hlast)

theorem Arguments.Typed.set (h : a.Typed flags) (hf : f ∈ flags) (hv : v.kind = f.kind)
    : (a.set f.name v).Typed flags where
  unique := nodup_set a h.unique f.name v
  declared := by
    intro x hx
    rcases List.mem_append.mp hx with hx | hx
    . exact h.declared x (List.mem_filter.mp hx).1
    . rw [List.mem_singleton.mp hx]
      exact ⟨f, hf, rfl, hv.symm⟩

/-- What has been read so far is typed, and a flag that waits for its value is declared. -/
structure Reading.Typed (flags : List Flag) (s : Reading) : Prop where
  arguments : s.arguments.Typed flags
  waiting : ∀ x, s.waiting = some x → x.1 ∈ flags

namespace Reading

theorem Typed.set (h : s.Typed flags) (hf : f ∈ flags) (hset : s.set f value = .ok s')
    : s'.Typed flags := by
  unfold Reading.set at hset
  cases hread : f.read (s.arguments.value? f.name) value with
  | error fault =>
    rw [hread] at hset
    cases hset
  | ok v =>
    rw [hread] at hset
    cases hset
    exact ⟨h.arguments.set hf (kind_of_read hread), by simp⟩

theorem Typed.addPositional (h : s.Typed flags) (arg : Text) : (s.addPositional arg).Typed flags :=
  ⟨⟨h.arguments.unique, h.arguments.declared⟩, h.waiting⟩

theorem Typed.wait (h : s.Typed flags) (hf : f ∈ flags) (fault : FlagFault)
    : Typed flags { s with waiting := some (f, fault) } := by
  refine ⟨h.arguments, ?_⟩
  rintro x hx
  cases hx
  exact hf

theorem Typed.long (h : s.Typed flags) (hlong : s.long flags body = .ok s') : s'.Typed flags := by
  unfold Reading.long at hlong
  dsimp only at hlong
  split at hlong
  . cases hlong
  . split at hlong
    . split at hlong
      all_goals cases hlong
    . next f hfind =>
      have hf : f ∈ flags := List.mem_of_find?_eq_some hfind
      split at hlong
      . exact h.set hf hlong
      . split at hlong
        . exact h.set hf hlong
        . cases hlong
          exact h.wait hf _

theorem Typed.cluster (h : s.Typed flags) (hcluster : cluster flags s body = .ok s')
    : s'.Typed flags := by
  induction body generalizing s with
  | nil =>
    cases hcluster
    exact h
  | cons c rest ih =>
    rw [Reading.cluster] at hcluster
    split at hcluster
    . cases hcluster
      exact h
    . split at hcluster
      . split at hcluster
        all_goals cases hcluster
      . next f hfind =>
        have hf : f ∈ flags := List.mem_of_find?_eq_some hfind
        split at hcluster
        . exact h.set hf hcluster
        . split at hcluster
          . cases hset : s.set f on with
            | error fault =>
              rw [hset] at hcluster
              cases hcluster
            | ok s₁ =>
              rw [hset] at hcluster
              exact ih (h.set hf hset) hcluster
          . split at hcluster
            . exact h.set hf hcluster
            . cases hcluster
              exact h.wait hf _

theorem Typed.step (h : s.Typed flags) (hstep : step flags s arg = .ok s') : s'.Typed flags := by
  unfold Reading.step at hstep
  split at hstep
  . next f fault hwaiting => exact h.set (h.waiting _ hwaiting) hstep
  . split at hstep
    . cases hstep
      exact h.addPositional arg
    . split at hstep
      . cases hstep
        exact ⟨h.arguments, h.waiting⟩
      . exact h.long hstep
      . exact h.cluster hstep
      . cases hstep
        exact h.addPositional _

theorem Typed.foldlM {args : List Text} (h : s.Typed flags)
    (hrun : args.foldlM (Reading.step flags) s = .ok s')
    : s'.Typed flags := by
  induction args generalizing s with
  | nil =>
    cases hrun
    exact h
  | cons arg args ih =>
    rw [List.foldlM_cons] at hrun
    cases hstep : Reading.step flags s arg with
    | error fault =>
      rw [hstep] at hrun
      cases hrun
    | ok s₁ =>
      rw [hstep] at hrun
      exact ih (h.step hstep) hrun

end Reading

/-- Arguments that have been read are typed. -/
theorem typed_of_parse {args : List Text} (h : Arguments.parse flags args = .ok a)
    : a.Typed flags := by
  unfold Arguments.parse at h
  cases hrun : args.foldlM (Reading.step flags) {} with
  | error fault =>
    rw [hrun] at h
    cases h
  | ok s =>
    have hnone : Reading.Typed flags {} := ⟨⟨by simp, by simp⟩, by simp⟩
    have hs : s.Typed flags := hnone.foldlM hrun
    rw [hrun] at h
    simp only [bind, Except.bind] at h
    split at h
    . cases h
    . cases h
      exact hs.arguments

end Command
end YamlOrder
