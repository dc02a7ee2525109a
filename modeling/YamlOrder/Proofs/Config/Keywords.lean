import YamlOrder.Program
import YamlOrder.Proofs.Config.Priority
import YamlOrder.Proofs.Sorter.Outcome
import YamlOrder.Proofs.Text.Blank

/-!
This module contains the keywords of a list whose entries may hold several. They do not depend on
how the list is written, and a list is left as it is exactly if all its entries are keywords. So a
variable with commas, the values of a flag, and a list in a settings file lead to the same sorter.
-/

namespace YamlOrder

namespace Settings

open Config (Value ReadingFault readField readFields readTexts isAbsent fieldValue?)
open Sorter (exists_of_map_eq_ok)

variable {f g : Field} {v v' : Value} {s s' : Settings} {k : Text} {xs ys ys' : List Text}
  {fs fs' : Config.Fields}

/--
A text that is a keyword of its own: it is not empty, and neither commas nor white space around it
take it apart.
-/
structure IsKeyword (k : Text) : Prop where
  nonempty : k ≠ []
  whole : Csv.comma ∉ k
  trimmed : ∀ c ∈ Text.whiteSpace, ¬ String.utf8EncodeChar c <+: k ∧ ¬ String.utf8EncodeChar c <:+ k

/-- The entries of a list in one text, with commas between them. -/
def joinKeywords (xs : List Text) : Text := List.intercalate [Csv.comma] xs

theorem splitKeywords_append (xs ys : List Text)
    : splitKeywords (xs ++ ys) = splitKeywords xs ++ splitKeywords ys := by
  simp [splitKeywords]

theorem splitKeywords_joinKeywords (xs : List Text)
    : splitKeywords [joinKeywords xs] = splitKeywords xs := by
  cases xs with
  | nil => rfl
  | cons x xs =>
    have hpieces : Text.splitOn 44 (joinKeywords (x :: xs)) = (x :: xs).flatMap (Text.splitOn 44) :=
      Text.splitOn_intercalate Csv.comma (by simp)
    rw [splitKeywords, List.flatMap_singleton, hpieces, List.map_flatMap, ← splitKeywords]

theorem isKeyword_of_mem (h : k ∈ splitKeywords xs) : IsKeyword k := by
  simp only [splitKeywords, List.mem_filter, List.mem_flatMap, List.mem_map] at h
  obtain ⟨⟨entry, -, piece, hpiece, rfl⟩, hne⟩ := h
  have hcomma : Csv.comma ∉ piece := Text.not_mem_of_mem_splitOn hpiece
  exact {
    nonempty := by simpa using hne
    whole := fun hmem => hcomma (Text.trim_subset piece hmem)
    trimmed := Text.trim_eq_self_iff.mp (Text.trim_trim piece)
  }

theorem splitKeywords_singleton (h : IsKeyword k) : splitKeywords [k] = [k] := by
  have hpieces : Text.splitOn 44 k = [k] := Text.splitOn_of_not_mem h.whole
  have htrim : Text.trim k = k := Text.trim_eq_self_iff.mpr h.trimmed
  simp [splitKeywords, hpieces, htrim, h.nonempty]

theorem splitKeywords_eq_self_iff : splitKeywords xs = xs ↔ ∀ k ∈ xs, IsKeyword k := by
  constructor
  . intro h k hk
    rw [← h] at hk
    exact isKeyword_of_mem hk
  . intro h
    induction xs with
    | nil => rfl
    | cons x xs ih =>
      rw [List.forall_mem_cons] at h
      rw [← List.singleton_append, splitKeywords_append, splitKeywords_singleton h.1, ih h.2]

theorem splitKeywords_splitKeywords (xs : List Text)
    : splitKeywords (splitKeywords xs) = splitKeywords xs :=
  splitKeywords_eq_self_iff.mpr fun _ => isKeyword_of_mem

@[simp]
theorem normalize_normalize (s : Settings) : s.normalize.normalize = s.normalize := by
  simp [normalize, splitKeywords_splitKeywords]

@[simp]
theorem validate_normalize (s : Settings) : s.normalize.validate = s.validate := rfl

/-! ### Keywords that are read -/

/--
The ways to write a list: as the text of a variable, as the values of a flag, and as a list in a
file.
-/
inductive Spelled (xs : List Text) : Value → Prop where
  | joined : Spelled xs (.text (joinKeywords xs))
  | given : Spelled xs (.texts (some xs))
  | listed : Spelled xs (.list (xs.map .text))

theorem readTexts_go (name : Text) (i : Nat) (xs : List Text)
    : readTexts.go name i (xs.map .text) = .ok xs := by
  induction xs generalizing i with
  | nil => rfl
  | cons x xs ih =>
    rw [List.map_cons, readTexts.go, ih]
    rfl

theorem Spelled.exists_readTexts (h : Spelled xs v) (name : Text)
    : isAbsent v = false ∧ ∃ ys, readTexts name v = .ok ys ∧
      splitKeywords ys = splitKeywords xs := by
  cases h with
  | joined => exact ⟨rfl, _, readTexts_go name 0 [joinKeywords xs], splitKeywords_joinKeywords xs⟩
  | given => exact ⟨rfl, xs, readTexts_go name 0 xs, rfl⟩
  | listed => exact ⟨rfl, xs, readTexts_go name 0 xs, rfl⟩

/-- Settings with other entries in a field of keywords. -/
def withKeywords (f : Field) (ys : List Text) (s : Settings) : Settings :=
  match f with
  | .keywords1 => { s with keywords1 := ys }
  | .keywords2 => { s with keywords2 := ys }
  | .keywords3 => { s with keywords3 := ys }
  | _ => s

theorem readField_keywords (hf : f.kind = .texts) (hv : isAbsent v = false) (s : Settings)
    : readField f v s = (readTexts f.key v).map (withKeywords f · s) := by
  cases f
  all_goals cases hf
  all_goals
    rw [readField, hv]
    rfl

theorem normalize_withKeywords (hs : s.normalize = s'.normalize)
    (hys : splitKeywords ys = splitKeywords ys') (f : Field)
    : (withKeywords f ys s).normalize = (withKeywords f ys' s').normalize := by
  simp only [normalize, Settings.mk.injEq] at hs
  cases f
  all_goals simp [withKeywords, normalize, hs, hys]

theorem get_withKeywords (hf : f.kind = .texts) (ys : List Text) (s : Settings)
    : (withKeywords f ys s).get f = .texts ys := by
  cases f
  all_goals cases hf
  all_goals rfl

/-- Values from which a field is read alike, up to the commas of keywords. -/
def ReadAlike (f : Field) (v v' : Value) : Prop :=
  ∀ s s' : Settings, s.normalize = s'.normalize →
    (readField f v s).map normalize = (readField f v' s').map normalize

theorem map_normalize_congr {ε α : Type} (r : Except ε α) {p q : α → Settings}
    (h : ∀ x, (p x).normalize = (q x).normalize)
    : (r.map p).map normalize = (r.map q).map normalize := by
  cases r with
  | error e => rfl
  | ok x => exact congrArg Except.ok (h x)

theorem readAlike_self (f : Field) (v : Value) : ReadAlike f v v := by
  intro s s' h
  unfold readField
  dsimp only
  split
  . exact congrArg Except.ok h
  . simp only [normalize, Settings.mk.injEq] at h
    cases f
    all_goals
      apply map_normalize_congr
      intro x
      simp [normalize, h]

theorem Spelled.readAlike (hf : f.kind = .texts) (h : Spelled xs v) (h' : Spelled xs v')
    : ReadAlike f v v' := by
  intro s s' hs
  obtain ⟨hpresent, ys, hys, hsplit⟩ := h.exists_readTexts f.key
  obtain ⟨hpresent', ys', hys', hsplit'⟩ := h'.exists_readTexts f.key
  rw [readField_keywords hf hpresent, readField_keywords hf hpresent', hys, hys']
  exact congrArg Except.ok (normalize_withKeywords hs (hsplit.trans hsplit'.symm) f)

theorem readFields_congr {fields : List Field}
    (h : ∀ f ∈ fields, ∃ v v', fieldValue? fs f = some v ∧ fieldValue? fs' f = some v' ∧
      ReadAlike f v v')
    (hs : s.normalize = s'.normalize) (faults : List ReadingFault)
    : (readFields fs s faults fields).map normalize =
      (readFields fs' s' faults fields).map normalize := by
  induction fields generalizing s s' faults with
  | nil =>
    rw [readFields, readFields]
    split
    . exact congrArg Except.ok hs
    . rfl
  | cons f fields ih =>
    rw [List.forall_mem_cons] at h
    obtain ⟨⟨v, v', hv, hv', halike⟩, hrest⟩ := h
    -- Both values are read, or both have the same faults, which are added to those before.
    have hread := halike s s' hs
    rw [readFields, readFields, hv, hv']
    dsimp only
    cases hr : readField f v s with
    | ok t =>
      cases hr' : readField f v' s' with
      | ok t' =>
        rw [hr, hr'] at hread
        exact ih hrest (Except.ok.inj hread) faults
      | error new' =>
        rw [hr, hr'] at hread
        cases hread
    | error new =>
      cases hr' : readField f v' s' with
      | ok t' =>
        rw [hr, hr'] at hread
        cases hread
      | error new' =>
        rw [hr, hr'] at hread
        cases hread
        exact ih hrest hs _

theorem get_of_readField (h : readField g v s = .ok s') (hne : f ≠ g) : s'.get f = s.get f := by
  unfold readField at h
  dsimp only at h
  split at h
  . cases h
    rfl
  . cases g
    all_goals
      obtain ⟨x, -, rfl⟩ := exists_of_map_eq_ok h
      cases f
    all_goals first
      | rfl
      | exact absurd rfl hne

theorem get_of_readFields_of_notMem {fields : List Field} {faults : List ReadingFault}
    (hf : f ∉ fields) (h : readFields fs s faults fields = .ok s') : s'.get f = s.get f := by
  induction fields generalizing s faults with
  | nil =>
    rw [readFields] at h
    split at h
    all_goals cases h
    rfl
  | cons g fields ih =>
    rw [List.mem_cons, not_or] at hf
    rw [readFields] at h
    split at h
    . exact ih hf.2 h
    . split at h
      . next hread => exact (ih hf.2 h).trans (get_of_readField hread hf.1)
      . exact ih hf.2 h

theorem get_of_readFields {fields : List Field} {faults : List ReadingFault}
    (hkind : f.kind = .texts) (hv : fieldValue? fs f = some v) (hspelled : Spelled xs v)
    (hf : f ∈ fields) (hnodup : fields.Nodup) (h : readFields fs s faults fields = .ok s')
    : ∃ ys, s'.get f = .texts ys ∧ splitKeywords ys = splitKeywords xs := by
  induction fields generalizing s faults with
  | nil => cases hf
  | cons g fields ih =>
    rw [List.nodup_cons] at hnodup
    rw [readFields] at h
    by_cases hfg : f = g
    . subst hfg
      obtain ⟨hpresent, ys, hys, hsplit⟩ := hspelled.exists_readTexts f.key
      rw [hv] at h
      dsimp only at h
      rw [readField_keywords hkind hpresent, hys] at h
      -- No field is read twice, so what is read from here on leaves the keywords as they are.
      exact ⟨ys, (get_of_readFields_of_notMem hnodup.1 h).trans
        (get_withKeywords hkind ys s), hsplit⟩
    . have hf : f ∈ fields := (List.mem_cons.mp hf).resolve_left hfg
      split at h
      . exact ih hf hnodup.2 h
      . split at h
        all_goals exact ih hf hnodup.2 h

theorem get_normalize (hkind : f.kind = .texts) (h : s.get f = .texts ys)
    : s.normalize.get f = .texts (splitKeywords ys) := by
  cases f
  all_goals cases hkind
  all_goals
    cases h
    rfl

end Settings

theorem Sorter.make_normalize (s : Settings) (reverse : Bool)
    : make s.normalize reverse = make s reverse := by
  simp [make]

namespace Config

open Command (Arguments FlagValue)
open Settings (Field Spelled ReadAlike)

variable {files files' : FileTree} {env env' : Environment} {a a' : Arguments}
  {layer layer' : Fields} {l : Loader}
variable {f g : Field} {xs : List Text} {name : Text}

theorem load_eq (h : gather files env a = .ok l)
    : load files env a =
        (((readFields l.fields .blank [] Field.all).map Settings.normalize).mapError fun faults =>
          Fault.reading (.several faults)) >>= fun s =>
            s.validate.mapError .invalid >>= fun _ => .ok s := by
  unfold load Loader.validSettings
  rw [h]
  change (((readFields l.fields .blank [] Field.all).mapError .several).mapError
    Fault.reading >>= fun s =>
    s.validate.mapError .invalid >>= fun _ => .ok s) >>= (fun s => .ok s.normalize) = _
  cases readFields l.fields .blank [] Field.all with
  | error faults => rfl
  | ok s =>
    simp only [bind, Except.bind, Except.map, Except.mapError, Settings.validate_normalize]
    cases s.validate with
    | error e => rfl
    | ok _ => rfl

theorem fieldValue?_layers (hunique : (a.given.map (·.1)).Nodup) (hlayer : layer.Unique)
    (env : Environment) (f : Field)
    : fieldValue? (layers {} layer env a).fields f = some (gathered {} layer env a f) := by
  rw [fieldValue?, lookup_layers hunique hlayer]
  rfl

theorem load_congr (hunique : (a.given.map (·.1)).Nodup) (hunique' : (a'.given.map (·.1)).Nodup)
    (hfile : Fields.ofFile files (settingsFile files a) = .ok layer)
    (hfile' : Fields.ofFile files' (settingsFile files' a') = .ok layer')
    (h : ∀ f, ReadAlike f (gathered {} layer env a f) (gathered {} layer' env' a' f))
    : load files env a = load files' env' a' := by
  rw [load_eq (gatherOver_eq hfile), load_eq (gatherOver_eq hfile')]
  rw [Settings.readFields_congr
    (fun f _ => ⟨_, _, fieldValue?_layers hunique (unique_ofFile hfile) env f,
    fieldValue?_layers hunique' (unique_ofFile hfile') env' f, h f⟩) rfl]

theorem get_of_load {s : Settings} (hkind : f.kind = .texts) (hunique : (a.given.map (·.1)).Nodup)
    (hfile : Fields.ofFile files (settingsFile files a) = .ok layer)
    (hspelled : Spelled xs (gathered {} layer env a f)) (h : load files env a = .ok s)
    : s.get f = .texts (Settings.splitKeywords xs) := by
  rw [load_eq (gatherOver_eq hfile)] at h
  obtain ⟨_, hfields, h⟩ := Sorter.bind_eq_ok.mp h
  obtain ⟨_, -, h⟩ := Sorter.bind_eq_ok.mp h
  cases h
  obtain ⟨t, hread, rfl⟩ := Sorter.exists_of_map_eq_ok (Sorter.mapError_eq_ok_iff.mp hfields)
  obtain ⟨ys, hys, hsplit⟩ := Settings.get_of_readFields hkind
    (fieldValue?_layers hunique (unique_ofFile hfile) env f) hspelled (Field.mem_all f)
      (by decide) hread
  rw [Settings.get_normalize hkind hys, hsplit]

/-! ### Where the keywords of a field are written -/

/-- A layer that says something else about one field. -/
structure Fields.Changed (layer : Fields) (f : Field) (v : Value) (layer' : Fields) : Prop where
  here : layer'.lookup f.key = some v
  elsewhere : ∀ g : Field, g ≠ f → layer'.lookup g.key = layer.lookup g.key

theorem changed_ofEnvironment_concat (hname : pathOfVariable? variableStart name = some f.key)
    (env : Environment) (t : Text)
    : Fields.Changed (Fields.ofEnvironment variableStart env) f (.text t)
        (Fields.ofEnvironment variableStart (env ++ [(name, t)])) := by
  have hput : Fields.ofEnvironment variableStart (env ++ [(name, t)]) =
      Fields.put f.key (.text t) (Fields.ofEnvironment variableStart env) := by
    rw [ofEnvironment_eq, ofEnvironment_eq, List.foldl_append, List.foldl_cons, List.foldl_nil,
      addVariable, hname]
    exact set_key (plain_text t) f _
  rw [hput]
  exact {
    here := Fields.lookup_put_self _ _ _
    elsewhere := fun g hne => lookup_put_of_ne (fun h => hne (Field.key_injective h)) _ _
  }

theorem gathered_congr (hlayer : layer'.lookup f.key = layer.lookup f.key)
    (henv : (Fields.ofEnvironment variableStart env').lookup f.key =
      (Fields.ofEnvironment variableStart env).lookup f.key)
    (hflag : a'.value? f.flagName = a.value? f.flagName) (d : Settings)
    : gathered d layer' env' a' f = gathered d layer env a f := by
  unfold gathered
  rw [hlayer, henv, hflag]

theorem gathered_variable {t : Text} (hflag : a.value? f.flagName = none)
    (henv : (Fields.ofEnvironment variableStart env).lookup f.key = some (.text t)) (d : Settings)
    (layer : Fields)
    : gathered d layer env a f = .text t := by
  rw [gathered, hflag, henv]
  exact over_of_plain (plain_text t) _

theorem gathered_file {v : Value} (hflag : a.value? f.flagName = none)
    (henv : (Fields.ofEnvironment variableStart env).lookup f.key = none)
    (hlayer : layer.lookup f.key = some v) (d : Settings) : gathered d layer env a f = v := by
  rw [gathered, hflag, henv, hlayer, Option.getD_some]

theorem gathered_flag (hunique : (a.given.map (·.1)).Nodup) (d : Settings) (layer : Fields)
    (env : Environment) (f : Field) (v : FlagValue)
    : gathered d layer env (a.set f.flagName v) f = .ofFlag v := by
  have hvalue : (a.set f.flagName v).value? f.flagName = some v := by
    rw [Arguments.value?, lookup_eq_some_iff_mem (Command.nodup_set a hunique f.flagName v)]
    simp [Arguments.set]
  rw [gathered, hvalue]

theorem value?_set_flagName (hunique : (a.given.map (·.1)).Nodup) (hne : g ≠ f) (v : FlagValue)
    : (a.set f.flagName v).value? g.flagName = a.value? g.flagName :=
  value?_set_of_ne hunique (fun h => hne (Field.flagName_injective h)) v

theorem settingsFile_set (hunique : (a.given.map (·.1)).Nodup) (files : FileTree) (f : Field)
    (v : FlagValue)
    : settingsFile files (a.set f.flagName v) = settingsFile files a := by
  have hname : Settings.settingsFlag.name ≠ f.flagName := by
    cases f
    all_goals decide
  rw [settingsFile, Arguments.text, value?_set_of_ne hunique hname, settingsFile, Arguments.text]

theorem reversed_set (hunique : (a.given.map (·.1)).Nodup) (f : Field) (v : FlagValue)
    : reversed (a.set f.flagName v) = reversed a := by
  have hname : Settings.reverseFlag.name ≠ f.flagName := by
    cases f
    all_goals decide
  rw [reversed, Arguments.bool, value?_set_of_ne hunique hname, reversed, Arguments.bool]

end Config

namespace Program

open Command (Arguments)
open Config (Environment Fields Value gathered reversed settingsFile variableStart)
open Settings (Field IsKeyword Spelled joinKeywords splitKeywords)

variable {w w' : World} {a a' : Arguments} {layer layer' : Fields} {f : Field} {xs : List Text}

theorem sorter_congr (hkind : f.kind = .texts) (hunique : (a.given.map (·.1)).Nodup)
    (hunique' : (a'.given.map (·.1)).Nodup)
    (hfile : Fields.ofFile w.files (settingsFile w.files a) = .ok layer)
    (hfile' : Fields.ofFile w'.files (settingsFile w'.files a') = .ok layer')
    (hspelled : Spelled xs (gathered {} layer w.env a f))
    (hspelled' : Spelled xs (gathered {} layer' w'.env a' f))
    (helsewhere : ∀ g, g ≠ f → gathered {} layer w.env a g = gathered {} layer' w'.env a' g)
    (hreversed : reversed a = reversed a') : sorter w a = sorter w' a' := by
  have hload : Config.load w.files w.env a = Config.load w'.files w'.env a' := by
    refine Config.load_congr hunique hunique' hfile hfile' ?_
    intro g
    -- Only the field of the keywords has another value, and that one is spelled in another way.
    by_cases hg : g = f
    . subst hg
      exact hspelled.readAlike hkind hspelled'
    . rw [helsewhere g hg]
      exact Settings.readAlike_self g _
  rw [sorter, sorter, hload, hreversed]

/--
Keywords mean the same however they are written. All entries of a list in one text have the keywords
that they have on their own, and taking keywords apart once more changes nothing. So a variable that
holds the list with commas, a flag with its entries, and a settings file with a list of them lead to
the same sorter, which has these keywords.
-/
theorem sorter_keywords_spelled
    : (∀ xs : List Text, splitKeywords [joinKeywords xs] = splitKeywords xs ∧
          splitKeywords (splitKeywords xs) = splitKeywords xs ∧
          (∀ k ∈ splitKeywords xs, IsKeyword k) ∧
          (splitKeywords xs = xs ↔ ∀ k ∈ xs, IsKeyword k)) ∧
        (∀ (s : Settings) (reverse : Bool), Sorter.make s.normalize reverse =
          Sorter.make s reverse) ∧
        ∀ (f : Field) (xs : List Text) (w : World) (a : Arguments) (layer : Fields),
        f.kind = .texts →
          (a.given.map (·.1)).Nodup → a.value? f.flagName = none →
          Fields.ofFile w.files (settingsFile w.files a) = .ok layer →
          (∀ env, Fields.Changed (Fields.ofEnvironment variableStart w.env) f
            (.text (joinKeywords xs))
              (Fields.ofEnvironment variableStart env) →
            sorter { w with env } a = sorter w (a.set f.flagName (.texts xs))) ∧
          (∀ files layer', Fields.ofFile files (settingsFile files a) = .ok layer' →
            Fields.Changed layer f (.list (xs.map .text)) layer' →
            (Fields.ofEnvironment variableStart w.env).lookup f.key = none →
            sorter { w with files } a = sorter w (a.set f.flagName (.texts xs))) ∧
          ∀ s, sorter w (a.set f.flagName (.texts xs)) = .ok s → s.settings.get f = .texts
          (splitKeywords xs) := by
  refine ⟨?_, Sorter.make_normalize, ?_⟩
  . intro xs
    exact ⟨Settings.splitKeywords_joinKeywords xs, Settings.splitKeywords_splitKeywords xs,
      fun k => Settings.isKeyword_of_mem, Settings.splitKeywords_eq_self_iff⟩
  . intro f xs w a layer hkind hunique hflag hfile
    have hunique' := Command.nodup_set a hunique f.flagName (.texts xs)
    have hfile' : Fields.ofFile w.files (settingsFile w.files (a.set f.flagName (.texts xs))) =
      .ok layer := by
      rw [Config.settingsFile_set hunique, hfile]
    have hreversed : reversed a = reversed (a.set f.flagName (.texts xs)) :=
      (Config.reversed_set hunique f _).symm
    have hgiven : Spelled xs (gathered {} layer w.env (a.set f.flagName (.texts xs)) f) := by
      rw [Config.gathered_flag hunique]
      exact .given
    refine ⟨?_, ?_, ?_⟩
    . intro env henv
      have hjoined : Spelled xs (gathered {} layer env a f) := by
        rw [Config.gathered_variable hflag henv.here]
        exact .joined
      refine sorter_congr hkind hunique hunique' hfile hfile' hjoined hgiven ?_ hreversed
      intro g hne
      exact Config.gathered_congr rfl (henv.elsewhere g hne)
        (Config.value?_set_flagName hunique hne _).symm {}
    . intro files layer' hfiles hlayer henv
      have hlisted : Spelled xs (gathered {} layer' w.env a f) := by
        rw [Config.gathered_file hflag henv hlayer.here]
        exact .listed
      refine sorter_congr hkind hunique hunique' hfiles hfile' hlisted hgiven ?_ hreversed
      intro g hne
      exact Config.gathered_congr (hlayer.elsewhere g hne) rfl
        (Config.value?_set_flagName hunique hne _).symm {}
    . intro s hs
      obtain ⟨t, hload, hmake⟩ := Sorter.bind_eq_ok.mp hs
      obtain ⟨rfl, -⟩ := Sorter.make_eq_ok (Sorter.mapError_eq_ok_iff.mp hmake)
      have hget : t.get f = .texts (splitKeywords xs) :=
        Config.get_of_load hkind hunique' hfile' hgiven (Sorter.mapError_eq_ok_iff.mp hload)
      rw [Settings.get_normalize hkind hget, Settings.splitKeywords_splitKeywords]

/-- The texts of a list that holds nothing else. -/
def listedTexts? : Value → Option (List Text)
  | .list items => items.mapM Value.text?
  | _ => none

theorem eq_of_listedTexts? {v : Value} (h : listedTexts? v = some xs)
    : v = .list (xs.map .text) := by
  unfold listedTexts? at h
  split at h
  . next items =>
    congr 1
    induction items generalizing xs with
    | nil =>
      cases h
      rfl
    | cons item items ih =>
      cases item with
      | text t =>
        rw [List.mapM_cons] at h
        obtain ⟨_, ht, h⟩ := Option.bind_eq_some_iff.mp h
        obtain ⟨ts, hts, hxs⟩ := Option.bind_eq_some_iff.mp h
        cases ht
        cases hxs
        rw [List.map_cons, ← ih hts]
      | _ => cases h
  . cases h

def letterFiles : FileTree :=
    { files := [([".yamlsort.yaml"], "custom_sort_keywords_1: ['b, a', ' ', c]\n")] }

def letterArguments : Arguments :=
    ({} : Arguments).set (Field.flagName .keywords1) (.texts ["b, a", " ", "c"])

/-- A list with an entry that holds two keywords and one that holds none. -/
theorem sorter_keywords_spelled_letters
    : sorter { env := [("YAMLSORT__CUSTOM_SORT_KEYWORDS_1", "b, a, ,c")] } {} =
      sorter {} letterArguments ∧
      sorter { files := letterFiles } {} = sorter {} letterArguments ∧
      ∃ s, sorter {} letterArguments = .ok s ∧ s.settings.keywords1 = ["b", "a", "c"] := by
  obtain ⟨hvariable, hlist, hkeywords⟩ :=
    sorter_keywords_spelled.2.2 .keywords1 ["b, a", " ", "c"] {} {} [] rfl List.nodup_nil rfl rfl
  refine ⟨?_, ?_, ?_⟩
  . exact hvariable _ (Config.changed_ofEnvironment_concat (by decide) [] _)
  . have hpath : settingsFile letterFiles {} = ".yamlsort.yaml" := by decide +kernel
    have hfields : ((Fields.ofFile letterFiles ".yamlsort.yaml").toOption.map fun fs =>
        fs.map fun x => (x.1, listedTexts? x.2))
        = some [(Field.key .keywords1, some (["b, a", " ", "c"] : List Text))] := by decide +kernel
    cases hfile : Fields.ofFile letterFiles ".yamlsort.yaml" with
    | error fault =>
      rw [hfile] at hfields
      cases hfields
    | ok layer =>
      rw [hfile] at hfields
      obtain ⟨⟨key, v⟩, rfl, hfield⟩ := List.map_eq_singleton_iff.mp (Option.some.inj hfields)
      obtain ⟨rfl, htexts⟩ := Prod.mk.inj hfield
      obtain rfl : v = _ := eq_of_listedTexts? htexts
      refine hlist letterFiles _ (hpath ▸ hfile) ?_ rfl
      exact {
        here := List.lookup_cons_self
        elsewhere := by
          intro g hne
          apply Config.lookup_eq_none_of_notMem
          rw [List.map_singleton, List.mem_singleton]
          exact fun h => hne (Field.key_injective h)
      }
  . have hsome : (sorter {} letterArguments).toOption.isSome = true := by decide +kernel
    cases hs : sorter {} letterArguments with
    | error failure =>
      rw [hs] at hsome
      cases hsome
    | ok s => exact ⟨s, rfl, Command.FlagValue.texts.inj (hkeywords s hs)⟩

end Program
end YamlOrder
