import YamlOrder.Proofs.Command.Typed
import YamlOrder.Proofs.Config.Fields

/-!
This module contains which layer decides about a setting: its flag if that was given, else the
environment, else the settings file, else the default.
-/

namespace YamlOrder

namespace Settings
namespace Field

theorem mem_all (f : Field) : f ∈ all := by
  cases f
  all_goals decide

theorem key_injective {f g : Field} (h : f.key = g.key) : f = g := by
  have hall : ∀ f ∈ all, ∀ g ∈ all, f.key = g.key → f = g := by decide
  exact hall f (mem_all f) g (mem_all g) h

theorem flagName_injective {f g : Field} (h : f.flagName = g.flagName) : f = g := by
  have hall : ∀ f ∈ all, ∀ g ∈ all, f.flagName = g.flagName → f = g := by decide
  exact hall f (mem_all f) g (mem_all g) h

theorem splitOn_key (f : Field) : Text.splitOn Config.dot f.key = [f.key] := by
  cases f
  all_goals decide

end Field
end Settings

namespace Config

open Command (Arguments Flag FlagValue)
open Settings (Field)

variable {fs layer : Fields} {v : Value} {f : Field} {key start : Text} {env : Environment}
  {a : Arguments}

theorem plain_text (t : Text) : (Value.text t).Plain := trivial

theorem plain_ofFlag (v : FlagValue) : (Value.ofFlag v).Plain := by
  cases v
  all_goals trivial

theorem plain_ofDefault (v : FlagValue) : (Value.ofDefault v).Plain := by
  unfold Value.ofDefault
  split
  . trivial
  . exact plain_ofFlag v

theorem set_key (h : v.Plain) (f : Field) (fs : Fields)
    : fs.set f.key v = Fields.put f.key v fs := by
  rw [Fields.set, Field.splitOn_key, nest, nest, Value.fields, mergeFields, mergeFields,
    over_of_plain h]

theorem get?_key (f : Field) (fs : Fields) : fs.get? f.key = fs.lookup f.key := by
  have hkey : f.key.isEmpty = false := by
    cases f
    all_goals decide
  rw [Fields.get?, hkey, Field.splitOn_key, Value.at?]
  cases hlookup : fs.lookup f.key with
  | none => rfl
  | some v => rfl

theorem lookup_map_key (w : Field → Value) {fields : List Field} (h : f ∈ fields)
    : (fields.map fun g => (g.key, w g)).lookup f.key = some (w f) := by
  induction fields with
  | nil => cases h
  | cons g fields ih =>
    rw [List.map_cons, List.lookup_cons]
    cases hkey : f.key == g.key with
    | true => rw [Field.key_injective (eq_of_beq hkey)]
    | false =>
      rcases List.mem_cons.mp h with rfl | h
      . simp at hkey
      . exact ih h

theorem lookup_ofSettings (d : Settings) (f : Field)
    : (Fields.ofSettings d).lookup f.key = some (.ofDefault (d.get f)) :=
  lookup_map_key (fun f => .ofDefault (d.get f)) (Field.mem_all f)

theorem unique_ofSettings (d : Settings) : (Fields.ofSettings d).Unique := by
  have hkeys : (Fields.ofSettings d).map (·.1) = Field.all.map Field.key := by
    simp [Fields.ofSettings]
  rw [Fields.Unique, hkeys]
  decide

theorem lookup_ofSettings_other (d : Settings) (h : ∀ f : Field, key ≠ f.key)
    : (Fields.ofSettings d).lookup key = none := by
  apply lookup_eq_none_of_notMem
  intro hkey
  obtain ⟨x, hx, rfl⟩ := List.mem_map.mp hkey
  obtain ⟨f, -, rfl⟩ := List.mem_map.mp hx
  exact h f rfl

/-- The environment speaks of settings only. -/
def Environment.Flat (start : Text) (env : Environment) : Prop :=
  ∀ x ∈ env, ∀ path, pathOfVariable? start x.1 = some path → ∃ f : Field, path = f.key

/-- What the last variable says that stands for a path. -/
def Environment.value? (start : Text) (env : Environment) (path : Text) : Option Text :=
  (env.reverse.find? fun x => pathOfVariable? start x.1 == some path).map (·.2)

/-- What one variable adds to the layer of the environment. -/
def addVariable (start : Text) (fs : Fields) (x : Text × Text) : Fields :=
  match pathOfVariable? start x.1 with
  | some path => fs.set path (.text x.2)
  | none => fs

theorem ofEnvironment_eq (start : Text) (env : Environment)
    : Fields.ofEnvironment start env = env.foldl (addVariable start) [] := rfl

theorem addVariable_cases {x : Text × Text}
    (h : ∀ path, pathOfVariable? start x.1 = some path → ∃ f : Field, path = f.key) (fs : Fields)
    : (pathOfVariable? start x.1 = none ∧ addVariable start fs x = fs) ∨
      ∃ f : Field, pathOfVariable? start x.1 = some f.key ∧
        addVariable start fs x = Fields.put f.key (.text x.2) fs := by
  unfold addVariable
  cases hpath : pathOfVariable? start x.1 with
  | none => exact .inl ⟨rfl, rfl⟩
  | some path =>
    obtain ⟨f, rfl⟩ := h path hpath
    exact .inr ⟨f, rfl, set_key (plain_text x.2) f fs⟩

theorem Fields.Unique.set (h : fs.Unique) (path : Text) (v : Value) : (fs.set path v).Unique := by
  cases hpath : Text.splitOn dot path with
  | nil => exact absurd hpath (Text.splitOn_ne_nil _ _)
  | cons key rest =>
    rw [Fields.set, hpath, nest, Value.fields, mergeFields, mergeFields]
    exact h.put _ _

theorem unique_foldl_addVariable (hfs : fs.Unique) (start : Text) (env : Environment)
    : (env.foldl (addVariable start) fs).Unique := by
  induction env generalizing fs with
  | nil => exact hfs
  | cons x env ih =>
    rw [List.foldl_cons]
    apply ih
    unfold addVariable
    split
    . exact hfs.set _ _
    . exact hfs

theorem unique_ofEnvironment (start : Text) (env : Environment)
    : Fields.Unique (Fields.ofEnvironment start env) := by
  have hempty : Fields.Unique [] := List.nodup_nil
  exact unique_foldl_addVariable hempty start env

theorem lookup_foldl_addVariable (henv : env.Flat start) (f : Field) (fs : Fields)
    : (env.foldl (addVariable start) fs).lookup f.key
        = ((env.value? start f.key).map Value.text).or (fs.lookup f.key) := by
  induction env generalizing fs with
  | nil => rfl
  | cons x env ih =>
    rw [Environment.Flat, List.forall_mem_cons] at henv
    rw [List.foldl_cons, ih henv.2, Environment.value?, Environment.value?, List.reverse_cons,
      List.find?_append,
      Option.map_or, Option.map_or, Option.or_assoc]
    congr 1
    rcases addVariable_cases henv.1 fs with ⟨hnone, hsame⟩ | ⟨g, hsome, hput⟩
    . simp [hsame, hnone]
    . rw [hput]
      by_cases hfg : f = g
      . simp [hfg, hsome, Fields.lookup_put_self]
      . have hne : f.key ≠ g.key := fun h => hfg (Field.key_injective h)
        simp [hsome, lookup_put_of_ne hne, hne.symm]

theorem lookup_foldl_addVariable_other (henv : env.Flat start) (h : ∀ f : Field, key ≠ f.key)
    (fs : Fields)
    : (env.foldl (addVariable start) fs).lookup key = fs.lookup key := by
  induction env generalizing fs with
  | nil => rfl
  | cons x env ih =>
    rw [Environment.Flat, List.forall_mem_cons] at henv
    rw [List.foldl_cons, ih henv.2]
    rcases addVariable_cases henv.1 fs with ⟨-, hsame⟩ | ⟨g, -, hput⟩
    . rw [hsame]
    . rw [hput, lookup_put_of_ne (h g)]

theorem lookup_flagKeys (f : Field) : flagKeys.lookup f.flagName = some f.key := by
  cases f
  all_goals decide

theorem exists_of_lookup_flagKeys {name path : Text} (h : flagKeys.lookup name = some path)
    : ∃ f : Field, name = f.flagName ∧ path = f.key := by
  obtain ⟨before, after, hsplit, -⟩ := List.lookup_eq_some_iff.mp h
  have hmem : (name, path) ∈ flagKeys := by simp [hsplit]
  obtain ⟨f, -, hf⟩ := List.mem_map.mp hmem
  cases hf
  exact ⟨f, rfl, rfl⟩

/-- What one flag changes. -/
def setFlag (l : Loader) (x : Text × FlagValue) : Loader :=
  match flagKeys.lookup x.1 with
  | some path => l.set path (.ofFlag x.2)
  | none => l

theorem setFlags_eq (l : Loader) (a : Arguments)
    : l.setFlags flagKeys a = (sortedFlags a).foldl setFlag l := rfl

theorem setFlag_cases (l : Loader) (x : Text × FlagValue)
    : ((∀ f : Field, x.1 ≠ f.flagName) ∧ setFlag l x = l) ∨
      ∃ f : Field, x.1 = f.flagName ∧ (setFlag l x).fields =
      Fields.put f.key (.ofFlag x.2) l.fields := by
  unfold setFlag
  cases hlookup : flagKeys.lookup x.1 with
  | none =>
    refine .inl ⟨?_, rfl⟩
    intro f hf
    rw [hf, lookup_flagKeys] at hlookup
    cases hlookup
  | some path =>
    obtain ⟨f, hname, rfl⟩ := exists_of_lookup_flagKeys hlookup
    exact .inr ⟨f, hname, set_key (plain_ofFlag x.2) f l.fields⟩

theorem lookup_foldl_setFlag {xs : List (Text × FlagValue)} (h : (xs.map (·.1)).Nodup) (f : Field)
    (l : Loader)
    : (xs.foldl setFlag l).fields.lookup f.key
        = ((xs.lookup f.flagName).map Value.ofFlag).or (l.fields.lookup f.key) := by
  induction xs generalizing l with
  | nil => rfl
  | cons x xs ih =>
    rw [List.map_cons, List.nodup_cons] at h
    rw [List.foldl_cons, ih h.2, List.lookup_cons]
    rcases setFlag_cases l x with ⟨hunmapped, hsame⟩ | ⟨g, hname, hput⟩
    . have hne : (f.flagName == x.1) = false := by simp [(hunmapped f).symm]
      rw [hsame, hne]
    . rw [hput]
      by_cases hfg : f = g
      . subst hfg
        have hlater : xs.lookup f.flagName = none := by
          rw [List.lookup_eq_none_iff]
          intro y hy
          rw [bne_iff_ne, ← hname]
          intro hsame
          exact h.1 (List.mem_map.mpr ⟨y, hy, hsame.symm⟩)
        simp [hlater, hname, Fields.lookup_put_self]
      . have hkey : f.key ≠ g.key := fun h => hfg (Field.key_injective h)
        have hflag : (f.flagName == x.1) = false := by
          rw [hname, beq_eq_false_iff_ne]
          exact fun h => hfg (Field.flagName_injective h)
        rw [hflag, lookup_put_of_ne hkey]

theorem lookup_foldl_setFlag_other (h : ∀ f : Field, key ≠ f.key) (xs : List (Text × FlagValue))
    (l : Loader)
    : (xs.foldl setFlag l).fields.lookup key = l.fields.lookup key := by
  induction xs generalizing l with
  | nil => rfl
  | cons x xs ih =>
    rw [List.foldl_cons, ih]
    rcases setFlag_cases l x with ⟨-, hsame⟩ | ⟨g, -, hput⟩
    . rw [hsame]
    . rw [hput, lookup_put_of_ne (h g)]

theorem lookup_eq_some_iff_mem {xs : List (Text × FlagValue)} {name : Text} {v : FlagValue}
    (h : (xs.map (·.1)).Nodup) : xs.lookup name = some v ↔ (name, v) ∈ xs := by
  rw [List.lookup_eq_some_iff]
  constructor
  . rintro ⟨before, after, rfl, -⟩
    simp
  . intro hmem
    obtain ⟨before, after, rfl⟩ := List.append_of_mem hmem
    refine ⟨before, after, rfl, ?_⟩
    intro x hx
    rw [bne_iff_ne]
    intro hname
    rw [List.map_append, List.map_cons, List.nodup_append] at h
    exact h.2.2 x.1 (List.mem_map.mpr ⟨x, hx, rfl⟩) name List.mem_cons_self hname.symm

theorem lookup_sortedFlags (h : (a.given.map (·.1)).Nodup) (name : Text)
    : (sortedFlags a).lookup name = a.value? name := by
  have hperm : (sortedFlags a).Perm a.given := List.mergeSort_perm _ _
  have hsorted : ((sortedFlags a).map (·.1)).Nodup := (hperm.map _).nodup_iff.mpr h
  apply Option.ext
  intro v
  rw [Arguments.value?, lookup_eq_some_iff_mem hsorted, lookup_eq_some_iff_mem h, hperm.mem_iff]

theorem value?_set_of_ne (h : (a.given.map (·.1)).Nodup) {name name' : Text} (hne : name' ≠ name)
    (v : FlagValue)
    : (a.set name v).value? name' = a.value? name' := by
  apply Option.ext
  intro w
  rw [Arguments.value?, Arguments.value?, lookup_eq_some_iff_mem (Command.nodup_set a h name v),
    lookup_eq_some_iff_mem h]
  simp [Arguments.set, hne]

/-- What a setting has when all layers are in place. -/
def layered (d : Settings) (layer : Fields) (env : Environment) (a : Arguments)
    (f : Field) : Value :=
  match a.value? f.flagName, env.value? variableStart f.key, layer.lookup f.key with
  | some v, _, _ => .ofFlag v
  | none, some t, _ => .text t
  | none, none, some v => v
  | none, none, none => .ofDefault (d.get f)

theorem lookup_merge_layer (d : Settings) (hlayer : layer.Unique) (f : Field)
    : (mergeFields layer (mergeFields (Fields.ofSettings d) [])).lookup f.key
        = some ((layer.lookup f.key).getD (.ofDefault (d.get f))) := by
  have hdefault : (mergeFields (Fields.ofSettings d) []).lookup f.key =
    some (.ofDefault (d.get f)) := by
    rw [lookup_mergeFields (unique_ofSettings d), lookup_ofSettings]
    dsimp only
    rw [over_of_plain (plain_ofDefault _)]
  rw [lookup_mergeFields hlayer, hdefault]
  cases layer.lookup f.key with
  | none => rfl
  | some v => simp [over_plain (plain_ofDefault _)]

theorem lookup_merge_layer_other (d : Settings) (hlayer : layer.Unique)
    (h : ∀ f : Field, key ≠ f.key)
    : (mergeFields layer (mergeFields (Fields.ofSettings d) [])).lookup key = layer.lookup key := by
  have hdefault : (mergeFields (Fields.ofSettings d) []).lookup key = none := by
    rw [lookup_mergeFields (unique_ofSettings d), lookup_ofSettings_other d h]
    rfl
  rw [lookup_mergeFields hlayer, hdefault]
  cases layer.lookup key with
  | none => rfl
  | some v => exact congrArg some (over_none v)

/-- The loader with all layers in place. -/
def layers (d : Settings) (layer : Fields) (env : Environment) (a : Arguments) : Loader :=
  ((((({} : Loader).merge (Fields.ofSettings d)).merge layer).merge
    (Fields.ofEnvironment variableStart env)).setFlags flagKeys a)

theorem gatherOver_eq {d : Settings} {files : FileTree}
    (hfile : Fields.ofFile files (settingsFile files a) = .ok layer)
    : gatherOver d files env a = .ok (layers d layer env a) := by
  rw [gatherOver, Loader.load, hfile]
  rfl

/-- What a setting has when all layers are in place, whatever else the environment says. -/
def gathered (d : Settings) (layer : Fields) (env : Environment) (a : Arguments)
    (f : Field) : Value :=
  let below := (layer.lookup f.key).getD (.ofDefault (d.get f))
  match a.value? f.flagName, (Fields.ofEnvironment variableStart env).lookup f.key with
  | some v, _ => .ofFlag v
  | none, some v => v.over (some below)
  | none, none => below

theorem lookup_layers (hunique : (a.given.map (·.1)).Nodup) (hlayer : layer.Unique) (d : Settings)
    (env : Environment) (f : Field)
    : (layers d layer env a).fields.lookup f.key = some (gathered d layer env a f) := by
  have hsorted : ((sortedFlags a).map (·.1)).Nodup :=
    ((List.mergeSort_perm a.given _).map _).nodup_iff.mpr hunique
  rw [layers, setFlags_eq, lookup_foldl_setFlag hsorted, lookup_sortedFlags hunique]
  unfold Loader.merge
  dsimp only
  rw [lookup_mergeFields (unique_ofEnvironment _ _), lookup_merge_layer d hlayer]
  unfold gathered
  cases a.value? f.flagName with
  | some v => rfl
  | none =>
    cases (Fields.ofEnvironment variableStart env).lookup f.key with
    | some v => rfl
    | none => rfl

theorem gathered_of_flat (henv : env.Flat variableStart) (d : Settings) (layer : Fields)
    (a : Arguments) (f : Field)
    : gathered d layer env a f = layered d layer env a f := by
  unfold gathered layered
  rw [ofEnvironment_eq, lookup_foldl_addVariable henv]
  cases a.value? f.flagName with
  | some v => rfl
  | none =>
    cases env.value? variableStart f.key with
    | some t => exact over_of_plain (plain_text t) _
    | none =>
      cases layer.lookup f.key with
      | some v => rfl
      | none => rfl

theorem exists_gatherOver {d : Settings} {files : FileTree} (hunique : (a.given.map (·.1)).Nodup)
    (hfile : Fields.ofFile files (settingsFile files a) = .ok layer) (henv : env.Flat variableStart)
    : ∃ l, gatherOver d files env a = .ok l ∧
      (∀ f : Field, l.fields.get? f.key = some (layered d layer env a f)) ∧
        ∀ key, (∀ f : Field, key ≠ f.key) → l.fields.lookup key = layer.lookup key := by
  have hlayer : layer.Unique := unique_ofFile hfile
  refine ⟨_, gatherOver_eq hfile, ?_, ?_⟩
  . intro f
    rw [get?_key, lookup_layers hunique hlayer, gathered_of_flat henv]
  . intro key hkey
    rw [layers, setFlags_eq, lookup_foldl_setFlag_other hkey]
    unfold Loader.merge
    dsimp only
    rw [lookup_mergeFields (unique_ofEnvironment _ _), ofEnvironment_eq,
      lookup_foldl_addVariable_other henv hkey,
      lookup_merge_layer_other d hlayer hkey]
    rfl

theorem layered_set (h : (a.given.map (·.1)).Nodup) {name : Text}
    (hname : ∀ f : Field, f.flagName ≠ name) (d : Settings) (layer : Fields) (env : Environment)
    (v : FlagValue) (f : Field)
    : layered d layer env (a.set name v) f = layered d layer env a f := by
  rw [layered, value?_set_of_ne h (hname f), layered]

/--
Every setting has the value of its flag if that was given, which is of the kind that belongs to the
setting, else what the last variable says that stands for it, else what the settings file says, else
its default. There is nothing besides the settings, the flag for the direction of the order changes
none of them, and the flag for the settings file only the layer of that file.
-/
theorem gatherOver_priority {d : Settings} {files : FileTree} {flags : List Flag} {args : List Text}
    (hargs : Arguments.parse flags args = .ok a)
    (hkinds : ∀ g ∈ flags, ∀ f : Field, g.name = f.flagName → g.kind = f.kind)
    (hfile : Fields.ofFile files (settingsFile files a) = .ok layer)
    (hflat : ∀ key ∈ layer.map (·.1), ∃ f : Field, key = f.key) (henv : env.Flat variableStart)
    : ∃ l, gatherOver d files env a = .ok l ∧
        (∀ f : Field, l.fields.get? f.key = some (layered d layer env a f)) ∧
        (∀ f : Field, ∀ v, a.value? f.flagName = some v → v.kind = f.kind) ∧
        (∀ key, (l.fields.lookup key).isSome = true → ∃ f : Field, key = f.key) ∧
        (∀ v, ∃ l', gatherOver d files env (a.set Settings.reverseFlag.name v) = .ok l' ∧
          ∀ f : Field, l'.fields.get? f.key = l.fields.get? f.key) ∧
        (∀ v layer', Fields.ofFile files (settingsFile files (a.set Settings.settingsFlag.name v)) =
          .ok layer' →
          ∃ l', gatherOver d files env (a.set Settings.settingsFlag.name v) = .ok l' ∧
            ∀ f : Field, l'.fields.get? f.key = some (layered d layer' env a f)) := by
  have htyped : a.Typed flags := Command.typed_of_parse hargs
  obtain ⟨l, hl, hsettings, hother⟩ := exists_gatherOver (d := d) htyped.unique hfile henv
  refine ⟨l, hl, hsettings, ?_, ?_, ?_, ?_⟩
  . intro f v hv
    have hmem : (f.flagName, v) ∈ a.given := (lookup_eq_some_iff_mem htyped.unique).mp hv
    obtain ⟨g, hg, hname, hkind⟩ := htyped.declared _ hmem
    exact hkind.symm.trans (hkinds g hg f hname)
  . intro key hkey
    apply Classical.byContradiction
    intro hnone
    have hall : ∀ f : Field, key ≠ f.key := fun f hf => hnone ⟨f, hf⟩
    rw [hother key hall] at hkey
    have hlayer : layer.lookup key = none :=
      lookup_eq_none_of_notMem fun h => hnone (hflat key h)
    simp [hlayer] at hkey
  . intro v
    have hname : ∀ f : Field, f.flagName ≠ Settings.reverseFlag.name := by
      intro f
      cases f
      all_goals decide
    have hpath : settingsFile files (a.set Settings.reverseFlag.name v) = settingsFile files a := by
      rw [settingsFile, Arguments.text, value?_set_of_ne htyped.unique (by decide), settingsFile,
        Arguments.text]
    obtain ⟨l', hl', hsettings', -⟩ := exists_gatherOver (d := d)
      (Command.nodup_set a htyped.unique Settings.reverseFlag.name v) (hpath ▸ hfile) henv
    refine ⟨l', hl', ?_⟩
    intro f
    rw [hsettings', layered_set htyped.unique hname, hsettings]
  . intro v layer' hfile'
    have hname : ∀ f : Field, f.flagName ≠ Settings.settingsFlag.name := by
      intro f
      cases f
      all_goals decide
    obtain ⟨l', hl', hsettings', -⟩ := exists_gatherOver (d := d)
      (Command.nodup_set a htyped.unique Settings.settingsFlag.name v) hfile' henv
    refine ⟨l', hl', ?_⟩
    intro f
    rw [hsettings', layered_set htyped.unique hname]

theorem kinds_flags : ∀ g ∈ Settings.flags, ∀ f : Field, g.name = f.flagName → g.kind = f.kind := by
  have hall : ∀ g ∈ Settings.flags, ∀ f ∈ Field.all, g.name = f.flagName →
    g.kind = f.kind := by decide
  exact fun g hg f => hall g hg f (Field.mem_all f)

/-- The text of a value that is one. -/
def Value.text? : Value → Option Text
  | .text t => some t
  | _ => none

def swedishFiles : FileTree :=
    { files := [([".yamlsort.yaml"], "indent: 5\nschema: core\nlocale: sv\n")] }

def swedishEnvironment : Environment :=
    [("YAMLSORT__SCHEMA", "json"), ("YAMLSORT__INDENT", "6"), ("HOME", "/")]

def swedishArguments : Arguments := { given := [("indent", .int 3), ("reverse", .bool true)] }

theorem flat_swedishEnvironment : swedishEnvironment.Flat variableStart := by
  unfold Environment.Flat swedishEnvironment
  simp only [List.forall_mem_cons]
  refine ⟨fun path h => ⟨.schema, ?_⟩, fun path h => ⟨.indent, ?_⟩, fun path h => ?_, by simp⟩
  . exact (Option.some.inj h).symm
  . exact (Option.some.inj h).symm
  . cases h

/-- A flag wins over a variable, a variable over the file, and the file over a default. -/
theorem gatherOver_priority_swedish
    : Arguments.parse Settings.flags ["--indent=3", "--reverse"] = .ok swedishArguments ∧
      ∃ l, gatherOver {} swedishFiles swedishEnvironment swedishArguments = .ok l ∧
        l.fields.get? "indent" = some (.int 3) ∧ l.fields.get? "schema" = some (.text "json") ∧
        (l.fields.get? "locale").bind Value.text? = some "sv" ∧ l.fields.get? "line_width" = some
        (.int 500) := by
  have hargs : Arguments.parse Settings.flags ["--indent=3", "--reverse"] =
    .ok swedishArguments := rfl
  have hkeys : ((Fields.ofFile swedishFiles ".yamlsort.yaml").toOption.map fun fs => fs.map (·.1))
      = some (["indent", "schema", "locale"] : List Text) := by decide +kernel
  have hlocale : ((Fields.ofFile swedishFiles ".yamlsort.yaml").toOption.bind fun fs =>
      (fs.lookup (Field.key .locale)).bind Value.text?) = some ("sv" : Text) := by decide +kernel
  cases hfile : Fields.ofFile swedishFiles ".yamlsort.yaml" with
  | error fault =>
    rw [hfile] at hkeys
    cases hkeys
  | ok layer =>
    rw [hfile] at hkeys hlocale
    have hkeys : layer.map (·.1) = (["indent", "schema", "locale"] : List Text) :=
      Option.some.inj hkeys
    have hflat : ∀ key ∈ layer.map (·.1), ∃ f : Field, key = f.key := by
      rw [hkeys]
      simp only [List.forall_mem_cons]
      exact ⟨⟨.indent, rfl⟩, ⟨.schema, rfl⟩, ⟨.locale, rfl⟩, by simp⟩
    obtain ⟨l, hl, hsettings, -⟩ :=
      gatherOver_priority hargs kinds_flags hfile hflat flat_swedishEnvironment
    have hwidth : layer.lookup (Field.key .lineWidth) = none := by
      apply lookup_eq_none_of_notMem
      rw [hkeys]
      decide
    have hfields : ∀ f : Field, f = .locale ∨ f = .lineWidth →
        swedishArguments.value? f.flagName = none ∧
        swedishEnvironment.value? variableStart f.key = none := by
      rintro f (rfl | rfl)
      all_goals exact ⟨rfl, rfl⟩
    refine ⟨hargs, l, hl, hsettings .indent, hsettings .schema, ?_, ?_⟩
    . have hline : l.fields.get? "locale" = _ := hsettings .locale
      rw [hline, layered, (hfields .locale (.inl rfl)).1, (hfields .locale (.inl rfl)).2]
      cases hvalue : layer.lookup (Field.key .locale) with
      | none => simp [Except.toOption, hvalue] at hlocale
      | some v => simpa [Except.toOption, hvalue] using hlocale
    . have hline : l.fields.get? "line_width" = _ := hsettings .lineWidth
      rw [hline, layered, (hfields .lineWidth (.inr rfl)).1,
        (hfields .lineWidth (.inr rfl)).2, hwidth]
      rfl

end Config
end YamlOrder
