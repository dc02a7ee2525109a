import YamlOrder.Program
import YamlOrder.Proofs.Batch.Overwrite
import YamlOrder.Proofs.Sorter.Outcome

/-!
This module contains what a batch does to its files: each of them is treated by itself, whatever
becomes of the others, and the run fails if one of them does.
-/

namespace YamlOrder
namespace Batch

open Log (Record)

/-- An input that is a file: its path, the place that the path leads to, and what the file holds. -/
structure Regular where
  path : Text
  route : Route
  content : Text

variable {t : FileTree} {target : Target} {fn : Text → Except Error Text}
  {records : Text → List Record}
variable {f g : Regular} {fs : List Regular} {s : State} {r : Route}

namespace Regular

/-- The file is one of a tree. -/
def In (f : Regular) (t : FileTree) : Prop :=
  f.path ≠ standardInput ∧ t.find f.path = .ok (f.route, .file f.content)

/-- The transformation of the file comes to an end, with a new text or with a fault. -/
def Returns (fn : Text → Except Error Text) (f : Regular) : Prop :=
  ∀ e, fn f.content = .error e → e.cause ≠ .levelTooDeep

def fails (fn : Text → Except Error Text) (f : Regular) : Bool := (fn f.content).toOption.isNone

/-- The new text of the file, or its old one if there is none. -/
def result (fn : Text → Except Error Text) (f : Regular) : Text :=
    (fn f.content).toOption.getD f.content

def changed (fn : Text → Except Error Text) (f : Regular) : Bool := f.result fn != f.content

/-- What is put out for the file. -/
def printed (target : Target) (fn : Text → Except Error Text) (f : Regular) : Text :=
  if target.list then if f.changed fn then f.path ++ [Text.newline] else []
  else if target.write then []
  else (fn f.content).toOption.getD []

/-- What becomes of the tree. -/
def rewrite (target : Target) (fn : Text → Except Error Text) (t : FileTree) (f : Regular)
    : FileTree :=
  if target.write && !target.list && f.changed fn then t.put f.route (f.result fn) else t

theorem printed_write (hwrite : target.write = true) (hlist : target.list = false)
    : printed target fn = fun _ => [] := by
  funext f
  rw [printed, hlist, hwrite]
  rfl

theorem printed_plain (hwrite : target.write = false) (hlist : target.list = false)
    : printed target fn = fun f => (fn f.content).toOption.getD [] := by
  funext f
  rw [printed, hlist, hwrite]
  rfl

theorem flatMap_printed_list (hlist : target.list = true) (fs : List Regular)
    : fs.flatMap (printed target fn) = (fs.filter (changed fn)).flatMap fun f => f.path ++
      [Text.newline] := by
  induction fs with
  | nil => rfl
  | cons f fs ih =>
    rw [List.flatMap_cons, ih, printed, hlist]
    cases hchanged : f.changed fn
    all_goals simp [hchanged]

theorem In.entryAt? (h : f.In t) : t.entryAt? f.route = some (.file f.content) :=
    FileTree.entryAt?_of_find h.2

theorem In.read (h : f.In t) : s.files = t → s.read f.path = .ok (f.content, s) := by
  rintro rfl
  have hpath : (f.path == standardInput) = false := by simp [h.1]
  rw [State.read, hpath, FileTree.read_of_find h.2]
  rfl

theorem In.rewrite (hg : g.In t) (hf : f.In t) (hne : g.route ≠ f.route)
    : g.In (f.rewrite target fn t) := by
  unfold Regular.rewrite
  split
  . exact ⟨hg.1, FileTree.find_put_of_ne hf.entryAt? hg.2 hne _⟩
  . exact hg

theorem entryAt?_rewrite_of_ne (hf : f.In t) (hne : r ≠ f.route)
    : (f.rewrite target fn t).entryAt? r = t.entryAt? r := by
  unfold Regular.rewrite
  split
  . exact FileTree.entryAt?_put_of_ne hf.entryAt? hne _
  . rfl

theorem foldl_rewrite_eq_self (h : (target.write && !target.list) = false)
    : fs.foldl (Regular.rewrite target fn) t = t := by
  induction fs with
  | nil => rfl
  | cons f fs ih =>
    have hself : f.rewrite target fn t = t := by
      rw [Regular.rewrite, h]
      rfl
    rw [List.foldl_cons, hself, ih]

theorem In.rewritten (h : f.In t) (hwrite : target.write = true) (hlist : target.list = false)
    : In { f with content := f.result fn } (f.rewrite target fn t) := by
  refine ⟨h.1, ?_⟩
  simp only [Regular.rewrite, hwrite, hlist, Bool.not_false, Bool.true_and]
  split
  . exact FileTree.find_put h.entryAt? h.2 (FileTree.entryAt?_put_self _ _ _)
  . next hsame =>
    have hresult : f.result fn = f.content := by simpa [changed] using hsame
    rw [hresult]
    exact h.2

theorem in_rewrite_of_nodup (hin : ∀ g ∈ f :: fs, g.In t)
    (hdistinct : ((f :: fs).map (·.route)).Nodup)
    : ∀ g ∈ fs, g.In (f.rewrite target fn t) := by
  rw [List.forall_mem_cons] at hin
  rw [List.map_cons, List.nodup_cons] at hdistinct
  intro g hg
  refine (hin.2 g hg).rewrite hin.1 ?_
  intro hroute
  exact hdistinct.1 (List.mem_map.mpr ⟨g, hg, hroute⟩)

theorem entryAt?_foldl_rewrite (hin : ∀ f ∈ fs, f.In t) (hdistinct : (fs.map (·.route)).Nodup)
    (hother : r ∉ fs.map (·.route))
    : (fs.foldl (Regular.rewrite target fn) t).entryAt? r = t.entryAt? r := by
  induction fs generalizing t with
  | nil => rfl
  | cons f fs ih =>
    rw [List.map_cons, List.mem_cons, not_or] at hother
    rw [List.foldl_cons, ih (in_rewrite_of_nodup hin hdistinct)
      (List.nodup_cons.mp hdistinct).2 hother.2]
    exact entryAt?_rewrite_of_ne (hin f List.mem_cons_self) hother.1

theorem In.foldl_rewrite (hg : g.In t) (hin : ∀ f ∈ fs, f.In t)
    (hdistinct : ((g :: fs).map (·.route)).Nodup)
    : g.In (fs.foldl (Regular.rewrite target fn) t) := by
  induction fs generalizing t with
  | nil => exact hg
  | cons f fs ih =>
    have hroutes : ((f :: fs).map (·.route)).Nodup := (List.nodup_cons.mp hdistinct).2
    have hne : g.route ≠ f.route := by
      intro hroute
      exact (List.nodup_cons.mp hdistinct).1 (List.mem_cons.mpr (.inl hroute))
    have hrest : ((g :: fs).map (·.route)).Nodup := by
      refine hdistinct.sublist ?_
      exact (List.sublist_cons_self f fs).cons_cons g |>.map _
    exact ih (hg.rewrite (hin f List.mem_cons_self) hne) (in_rewrite_of_nodup hin hroutes) hrest

theorem in_foldl_rewrite (hin : ∀ f ∈ fs, f.In t) (hdistinct : (fs.map (·.route)).Nodup)
    (hwrite : target.write = true) (hlist : target.list = false) (hf : f ∈ fs)
    : In { f with content := f.result fn } (fs.foldl (Regular.rewrite target fn) t) := by
  induction fs generalizing t with
  | nil => cases hf
  | cons g fs ih =>
    have hrest : ∀ f ∈ fs, f.In (g.rewrite target fn t) := in_rewrite_of_nodup hin hdistinct
    rw [List.foldl_cons]
    rcases List.mem_cons.mp hf with rfl | hf
    . exact ((hin f List.mem_cons_self).rewritten hwrite hlist).foldl_rewrite hrest hdistinct
    . exact ih hrest (List.nodup_cons.mp hdistinct).2 hf

theorem entryAt?_foldl_rewrite_perm {gs : List Regular} (hperm : gs.Perm fs)
    (hin : ∀ f ∈ fs, f.In t) (hdistinct : (fs.map (·.route)).Nodup) (hwrite : target.write = true)
    (hlist : target.list = false) (r : Route)
    : (gs.foldl (Regular.rewrite target fn) t).entryAt? r =
      (fs.foldl (Regular.rewrite target fn) t).entryAt? r := by
  have hings : ∀ g ∈ gs, g.In t := fun g hg => hin g (hperm.mem_iff.mp hg)
  have hdistinctgs : (gs.map (·.route)).Nodup := (hperm.map _).nodup_iff.mpr hdistinct
  by_cases hr : r ∈ fs.map (·.route)
  . obtain ⟨f, hf, rfl⟩ := List.mem_map.mp hr
    have hfs : In { f with content := f.result fn } _ :=
      in_foldl_rewrite hin hdistinct hwrite hlist hf
    have hgs : In { f with content := f.result fn } _ :=
      in_foldl_rewrite hings hdistinctgs hwrite hlist (hperm.mem_iff.mpr hf)
    exact hgs.entryAt?.trans hfs.entryAt?.symm
  . have hrgs : r ∉ gs.map (·.route) := fun h => hr ((hperm.map _).mem_iff.mp h)
    rw [entryAt?_foldl_rewrite hin hdistinct hr, entryAt?_foldl_rewrite hings hdistinctgs hrgs]

end Regular

theorem deliver_regular (target : Target) (hin : f.In s.files) {new : Text}
    (hfn : fn f.content = .ok new)
    : (s.deliver target f.path f.content new).files = f.rewrite target fn s.files ∧
      (s.deliver target f.path f.content new).output = s.output ++ f.printed target fn ∧
      (s.deliver target f.path f.content new).failed = s.failed ∧
      (s.deliver target f.path f.content new).halted = s.halted := by
  have hpath : (f.path != standardInput) = true := by simp [hin.1]
  have hresult : f.result fn = new := by simp [Regular.result, hfn, Except.toOption]
  have hwrite : ∀ rs, ((s.log rs).write f.path new) =
      ({ s.log rs with files := s.files.put f.route new }).log
        [{ level := .info, message := "rewrote file", attributes := [("path", .text f.path)] }] :=
          by
    intro rs
    simp only [State.write, State.log, FileTree.write_of_find hin.2]
  simp only [State.deliver, hpath, Bool.and_true, hwrite, Regular.rewrite, Regular.printed,
    Regular.changed, hresult,
    hfn, Except.toOption, Option.getD_some]
  cases target.list
  all_goals cases target.write
  all_goals cases new != f.content
  all_goals simp [State.print, State.log]

theorem step_regular (target : Target) (records : Text → List Record) (hin : f.In s.files)
    (hreturns : f.Returns fn) (hrun : s.halted = false)
    : (s.step (.rewriting fn records) target { path := f.path }).files =
      f.rewrite target fn s.files ∧
      (s.step (.rewriting fn records) target { path := f.path }).output = s.output ++
      f.printed target fn ∧
      (s.step (.rewriting fn records) target { path := f.path }).failed
        = s.failed + (if f.fails fn then 1 else 0) ∧
      (s.step (.rewriting fn records) target { path := f.path }).halted = false := by
  simp only [State.step, hrun, Bool.false_eq_true, if_false, State.process, hin.read rfl,
    Job.rewriting]
  cases hfn : fn f.content with
  | error e =>
    have hcause : (e.cause == .levelTooDeep) = false := by simp [hreturns e hfn]
    simp [Except.map, hcause, State.fail, State.log, Regular.rewrite, Regular.printed,
      Regular.fails,
      Regular.result, Regular.changed, hfn, Except.toOption, hrun]
  | ok new =>
    have hlog : f.In (s.log (records f.content)).files := hin
    obtain ⟨hfiles, houtput, hfailed, hhalted⟩ := deliver_regular target hlog hfn
    simp only [Except.map]
    refine ⟨hfiles, houtput, ?_, hhalted.trans hrun⟩
    rw [hfailed]
    simp [Regular.fails, hfn, Except.toOption, State.log]

theorem run_regular (target : Target) (records : Text → List Record) (s : State)
    (hin : ∀ f ∈ fs, f.In s.files) (hdistinct : (fs.map (·.route)).Nodup)
    (hreturns : ∀ f ∈ fs, f.Returns fn) (hrun : s.halted = false)
    : (run (.rewriting fn records) target (fs.map fun f => { path := f.path }) s).files
        = fs.foldl (Regular.rewrite target fn) s.files ∧
      (run (.rewriting fn records) target (fs.map fun f => { path := f.path }) s).output
        = s.output ++ fs.flatMap (Regular.printed target fn) ∧
      (run (.rewriting fn records) target (fs.map fun f => { path := f.path }) s).failed
        = s.failed + fs.countP (Regular.fails fn) ∧
      (run (.rewriting fn records) target (fs.map fun f => { path := f.path }) s).halted = false :=
        by
  induction fs generalizing s with
  | nil => simp [run, hrun]
  | cons f fs ih =>
    rw [List.forall_mem_cons] at hreturns
    obtain ⟨hfiles, houtput, hfailed, hhalted⟩ :=
      step_regular target records (hin f List.mem_cons_self) hreturns.1 hrun
    have hrest : ∀ g ∈ fs, g.In (s.step (.rewriting fn records) target { path := f.path }).files :=
      by
      rw [hfiles]
      exact Regular.in_rewrite_of_nodup hin hdistinct
    have htail := ih _ hrest (List.nodup_cons.mp hdistinct).2 hreturns.2 hhalted
    rw [hfiles, houtput, hfailed] at htail
    simpa [run, List.countP_cons, Nat.add_comm, Nat.add_left_comm, Nat.add_assoc] using htail

end Batch

namespace Program

open Batch (Regular Target)
open Log (Record)

variable {w : World} {target : Target} {fn : Text → Except Error Text}
  {records : Text → List Record}
variable {fs : List Regular} {o : Outcome}

theorem inputs_regular (hsome : fs ≠ []) (hin : ∀ f ∈ fs, f.In w.files)
    : inputs w (fs.map (·.path)) = .ok (fs.map fun f => { path := f.path }) := by
  have hexpand : ∀ f ∈ fs, Batch.expand w.files f.path = [{ path := f.path }] := by
    intro f hf
    have hpath : (f.path == Batch.standardInput) = false := by simp [(hin f hf).1]
    rw [Batch.expand, hpath, (hin f hf).2]
    rfl
  have hempty : (fs.map (·.path)).isEmpty = false := by simp [hsome]
  rw [inputs, hempty, List.flatMap_map, List.map_eq_flatMap, List.flatMap_def,
    List.map_congr_left hexpand]
  rfl

theorem runAll_regular (hsome : fs ≠ []) (hin : ∀ f ∈ fs, f.In w.files)
    (hdistinct : (fs.map (·.route)).Nodup) (hreturns : ∀ f ∈ fs, f.Returns fn)
    (ho : runAll w (fs.map (·.path)) target (.rewriting fn records) = o)
    : o.files = fs.foldl (Regular.rewrite target fn) w.files ∧
      o.output = fs.flatMap (Regular.printed target fn) ∧
      o.failure =
        if fs.countP (Regular.fails fn) = 0 then none
        else some (.someFailed (fs.countP (Regular.fails fn)) fs.length) := by
  obtain ⟨hfiles, houtput, hfailed, hhalted⟩ :=
    Batch.run_regular target records { files := w.files, input := w.input } hin hdistinct
    hreturns rfl
  subst ho
  rw [runAll, inputs_regular hsome hin]
  refine ⟨hfiles, houtput, ?_⟩
  simp only [hhalted, Bool.false_eq_true, if_false, hfailed, Nat.zero_add, List.length_map]
  by_cases hnone : fs.countP (Regular.fails fn) = 0
  . simp [hnone]
  . simp [hnone, Nat.pos_of_ne_zero hnone]

/--
A run over files treats each of them by itself. Written back, each holds its new text, or its old
one if it has none, and no other file is another one, in whichever order the files are given.
Otherwise no file changes, and the paths of those with another text are listed, or the new texts
printed, in the order of the files. The run fails exactly if one of them has no new text, and tells
how many have none.
-/
theorem runAll_isolates (hsome : fs ≠ []) (hin : ∀ f ∈ fs, f.In w.files)
    (hdistinct : (fs.map (·.route)).Nodup) (hreturns : ∀ f ∈ fs, f.Returns fn)
    (ho : runAll w (fs.map (·.path)) target (.rewriting fn records) = o)
    : (target.write = true → target.list = false →
        (∀ f ∈ fs, o.files.find f.path = .ok (f.route, .file (f.result fn))) ∧
        (∀ r, r ∉ fs.map (·.route) → o.files.entryAt? r = w.files.entryAt? r) ∧
        (∀ gs : List Regular, gs.Perm fs → ∀ r,
          (runAll w (gs.map (·.path)) target (.rewriting fn records)).files.entryAt? r =
            o.files.entryAt? r) ∧
        o.output = []) ∧
      (target.list = true →
        o.files = w.files ∧
        o.output = (fs.filter (·.changed fn)).flatMap fun f => f.path ++ [Text.newline]) ∧
      (target.write = false → target.list = false →
        o.files = w.files ∧ o.output = fs.flatMap fun f => (fn f.content).toOption.getD []) ∧
      (o.failure = none ↔ ∀ f ∈ fs, f.fails fn = false) ∧
      (∀ failure, o.failure = some failure →
        failure = .someFailed (fs.countP (Regular.fails fn)) fs.length) := by
  obtain ⟨hfiles, houtput, hfailure⟩ := runAll_regular hsome hin hdistinct hreturns ho
  have hall : fs.countP (Regular.fails fn) = 0 ↔ ∀ f ∈ fs, f.fails fn = false := by
    simp only [List.countP_eq_zero, Bool.not_eq_true]
  refine ⟨?_, ?_, ?_, ?_, ?_⟩
  . intro hwrite hlist
    refine ⟨?_, ?_, ?_, ?_⟩
    . intro f hf
      rw [hfiles]
      exact (Regular.in_foldl_rewrite hin hdistinct hwrite hlist hf).2
    . intro r hr
      rw [hfiles]
      exact Regular.entryAt?_foldl_rewrite hin hdistinct hr
    . intro gs hperm r
      have hsomegs : gs ≠ [] := by
        rintro rfl
        exact hsome hperm.nil_eq.symm
      have hfilesgs : (runAll w (gs.map (·.path)) target (.rewriting fn records)).files = _ :=
        (runAll_regular hsomegs (fun g hg => hin g (hperm.mem_iff.mp hg))
          ((hperm.map _).nodup_iff.mpr hdistinct)
            (fun g hg => hreturns g (hperm.mem_iff.mp hg)) rfl).1
      rw [hfiles, hfilesgs]
      exact Regular.entryAt?_foldl_rewrite_perm hperm hin hdistinct hwrite hlist r
    . rw [houtput, Regular.printed_write hwrite hlist]
      simp
  . intro hlist
    refine ⟨?_, ?_⟩
    . rw [hfiles, Regular.foldl_rewrite_eq_self (by simp [hlist])]
    . rw [houtput, Regular.flatMap_printed_list hlist]
  . intro hwrite hlist
    refine ⟨?_, ?_⟩
    . rw [hfiles, Regular.foldl_rewrite_eq_self (by simp [hwrite])]
    . rw [houtput, Regular.printed_plain hwrite hlist]
  . rw [hfailure, ← hall]
    split
    . next hnone => simp [hnone]
    . next hnone => simp [hnone]
  . intro failure h
    rw [hfailure] at h
    split at h
    . cases h
    . exact (Option.some.inj h).symm

/-- Three files, the second of which cannot be read. -/
def bookings : List Regular :=
  [{ path := "a.yaml", route := ["a.yaml"], content := "a:   1\n" },
    { path := "./b.yaml", route := ["b.yaml"], content := "b: [\n" },
    { path := "c.yaml", route := ["c.yaml"], content := "c: 3 # three\n" }]

def bookingsWorld : World := { files := { files := bookings.map fun f => (f.route, f.content) } }

/--
Formatting in place leaves the second file as it is, and brings the files around it into form.
-/
theorem runAll_isolates_bookings
    : ∃ o, runAll bookingsWorld (bookings.map (·.path)) { write := true }
        (.rewriting ({ settings := {} } : Sorter).format fun _ => []) = o ∧
      o.files.find "a.yaml" = .ok (["a.yaml"], .file "---\na: 1\n") ∧
      o.files.find "./b.yaml" = .ok (["b.yaml"], .file "b: [\n") ∧
      o.files.find "c.yaml" = .ok (["c.yaml"], .file "---\nc: 3 # three\n") ∧
      o.output = [] ∧ o.failure = some (.someFailed 1 3) := by
  have hin : ∀ f ∈ bookings, f.In bookingsWorld.files := by
    unfold bookings
    simp only [List.forall_mem_cons]
    exact ⟨⟨by decide, rfl⟩, ⟨by decide, rfl⟩, ⟨by decide, rfl⟩, by simp⟩
  have hreturns : ∀ f ∈ bookings, f.Returns ({ settings := {} } : Sorter).format :=
    fun f _ e he => Sorter.cause_ne_of_format he
  have hresults : bookings.map (Regular.result ({ settings := {} } : Sorter).format)
      = (["---\na: 1\n", "b: [\n", "---\nc: 3 # three\n"] : List Text) := by decide +kernel
  have hcount : bookings.countP (Regular.fails ({ settings := {} } : Sorter).format) = 1 := by
    decide +kernel
  obtain ⟨o, ho⟩ : ∃ o, runAll bookingsWorld (bookings.map (·.path)) { write := true }
      (.rewriting ({ settings := {} } : Sorter).format fun _ => []) = o := ⟨_, rfl⟩
  obtain ⟨hwrite, -, -, hnone, hsome⟩ := runAll_isolates (by decide) hin (by decide) hreturns ho
  obtain ⟨hfiles, -, -, houtput⟩ := hwrite rfl rfl
  simp only [bookings, List.forall_mem_cons] at hfiles
  simp only [bookings, List.map_cons, List.cons.injEq] at hresults
  obtain ⟨hfirst, hsecond, hthird, -⟩ := hfiles
  refine ⟨o, ho, ?_, ?_, ?_, houtput, ?_⟩
  . rw [hfirst, hresults.1]
  . rw [hsecond, hresults.2.1]
  . rw [hthird, hresults.2.2.1]
  . cases hfailure : o.failure with
    | none =>
      obtain ⟨f, hf, hfails⟩ := List.countP_pos_iff.mp
        (Nat.lt_of_lt_of_eq Nat.zero_lt_one hcount.symm)
      rw [hnone.mp hfailure f hf] at hfails
      cases hfails
    | some failure =>
      rw [hsome failure hfailure, hcount]
      rfl

end Program
end YamlOrder
