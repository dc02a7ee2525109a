import YamlOrder.Proofs.Folding.Wrap
import YamlOrder.Proofs.Layout.Break

/-!
This module contains where wrapping cuts a text, by the indices of the characters: these spaces
become line breaks with spaces behind them.
-/

namespace YamlOrder
namespace Layout

open Text (ofChars)
open Yaml (broken)

/--
The spaces between the pieces of a line, by their indices and with the indentation behind each cut.
-/
def pieceCuts (indent : Nat) : Nat → List Text → List (Nat × Nat)
  | i, p :: q :: ps => (i + Text.charCount p, indent) :: pieceCuts indent
      (i + Text.charCount p + 1) (q :: ps)
  | _, _ => []

/--
The spaces at which a line that starts at an index is cut into others, each with its indentation.
-/
def lineCuts (i : Nat) (line : Text) (out : List Text) : List (Nat × Nat) :=
  pieceCuts (Text.indent line) (i + Text.indent line) (out.map (·.drop (Text.indent line)))

/-- The spaces at which lines are cut, the first one of which starts at an index. -/
def linesCuts (width : Int) : WrapState → Nat → List Text → List (Nat × Nat)
  | _, _, [] => []
  | state, i, line :: rest =>
    let (out, state') := wrapStep width state line
    lineCuts i line out ++ linesCuts width state' (i + Text.charCount line + 1) rest

/--
The spaces of a text that become line breaks when it is wrapped, with the indentation behind each of
them.
-/
def wrapCuts (text : Text) (width : Int) : List (Nat × Nat) :=
  if width ≤ 0 || !text.contains 62 then [] else linesCuts width .outside 0 (Text.lines text)

variable {i k n : Nat} {width : Int} {state : WrapState} {cs : List Char} {ls : List (List Char)}

theorem lookup_eq_none {cuts : List (Nat × Nat)} (h : ∀ c ∈ cuts, c.1 ≠ k)
    : cuts.lookup k = none := by
  rw [List.lookup_eq_none_iff]
  intro c hc
  simpa using (h c hc).symm

theorem broken_lookup_append {cuts later : List (Nat × Nat)}
    (hcuts : ∀ c ∈ cuts, c.1 < i + cs.length) (hlater : ∀ c ∈ later, i + cs.length < c.1)
    (ch : Char) (ds : List Char)
    : broken ((cuts ++ later).lookup ·) i (cs ++ ch :: ds) =
        broken (cuts.lookup ·) i cs ++ ch :: broken (later.lookup ·) (i + cs.length + 1) ds := by
  have hbefore {k : Nat} (hk : k ≤ i + cs.length) : later.lookup k = none := by
    refine lookup_eq_none fun c hc => ?_
    have := hlater c hc
    omega
  have hbehind {k : Nat} (hk : i + cs.length ≤ k) : cuts.lookup k = none := by
    refine lookup_eq_none fun c hc => ?_
    have := hcuts c hc
    omega
  have hfirst : broken ((cuts ++ later).lookup ·) i cs = broken (cuts.lookup ·) i cs := by
    refine Yaml.broken_congr fun k _ hlt => ?_
    rw [List.lookup_append, hbefore hlt.le, Option.or_none]
  have hrest : broken ((cuts ++ later).lookup ·) (i + cs.length + 1) ds =
      broken (later.lookup ·) (i + cs.length + 1) ds := by
    refine Yaml.broken_congr fun k hle _ => ?_
    rw [List.lookup_append, hbehind (by omega), Option.none_or]
  rw [Yaml.broken_append, broken, List.lookup_append, hbefore (Nat.le_refl _),
    hbehind (Nat.le_refl _), hfirst, hrest]
  rfl

theorem broken_pieceCuts (n i : Nat) (ps : List (List Char))
    : (∀ c ∈ pieceCuts n i (ps.map ofChars), i ≤ c.1 ∧
        c.1 < i + (List.intercalate [' '] ps).length) ∧
        broken ((pieceCuts n i (ps.map ofChars)).lookup ·) i (List.intercalate [' '] ps) =
          List.intercalate ('\n' :: List.replicate n ' ') ps := by
  induction ps generalizing i with
  | nil => exact ⟨by simp [pieceCuts], rfl⟩
  | cons p ps ih =>
    cases ps with
    | nil => exact ⟨by simp [pieceCuts], by simp [pieceCuts, Yaml.broken_of_none]⟩
    | cons q ps =>
      obtain ⟨hrange, hbroken⟩ := ih (i + p.length + 1)
      have hcuts : pieceCuts n i ((p :: q :: ps).map ofChars) =
          (i + p.length, n) :: pieceCuts n (i + p.length + 1) ((q :: ps).map ofChars) := by
        simp [pieceCuts, Text.charCount_ofChars]
      rw [hcuts, List.intercalate_cons_cons, List.intercalate_cons_cons]
      generalize pieceCuts n (i + p.length + 1) ((q :: ps).map ofChars) = cuts at hrange hbroken ⊢
      generalize List.intercalate [' '] (q :: ps) = rest at hrange hbroken ⊢
      constructor
      . simp only [List.forall_mem_cons, List.length_append, List.length_singleton]
        refine ⟨by omega, fun c hc => ?_⟩
        have := hrange c hc
        omega
      . have hfirst : broken (((i + p.length, n) :: cuts).lookup ·) i p = p := by
          refine Yaml.broken_of_none fun k _ hlt => lookup_eq_none ?_
          rw [List.forall_mem_cons]
          refine ⟨by dsimp only; omega, fun c hc => ?_⟩
          have := hrange c hc
          omega
        have hrest : broken (((i + p.length, n) :: cuts).lookup ·) (i + p.length + 1) rest =
            broken (cuts.lookup ·) (i + p.length + 1) rest := by
          refine Yaml.broken_congr fun k hle _ => ?_
          rw [List.lookup_cons, beq_eq_false_iff_ne.mpr (by omega)]
        rw [Yaml.broken_append, Yaml.broken_append, hfirst, List.length_append,
          List.length_singleton, ← Nat.add_assoc,
          hrest, hbroken]
        simp [broken]

theorem intercalate_map_append {α : Type} (sep pre : List α) {ps : List (List α)} (h : ps ≠ [])
    : List.intercalate sep (ps.map (pre ++ ·)) = pre ++ List.intercalate (sep ++ pre) ps := by
  induction ps with
  | nil => exact absurd rfl h
  | cons p ps ih =>
    cases ps with
    | nil => simp
    | cons q ps =>
      rw [List.map_cons, List.map_cons, List.intercalate_cons_cons, ← List.map_cons,
        ih (List.cons_ne_nil q ps),
        List.intercalate_cons_cons]
      simp only [List.append_assoc]

namespace CutLine

variable {l : CutLine}

theorem lineCuts_written (l : CutLine) (i : Nat)
    : lineCuts i l.whole l.written = pieceCuts l.indent (i + l.indent) l.pieces := by
  rw [lineCuts, indent_whole, written, List.map_map]
  congr 1
  refine (List.map_congr_left fun p _ => ?_).trans (List.map_id _)
  exact Text.drop_spaces_append _ _

theorem unlines_written (l : CutLine)
    : Text.unlines l.written =
        Text.spaces l.indent ++ List.intercalate (Text.newline :: Text.spaces l.indent) l.pieces :=
  intercalate_map_append [Text.newline] (Text.spaces l.indent) (List.cons_ne_nil l.first l.later)

theorem broken_lineCuts (hl : ofChars cs = l.whole) (i : Nat)
    : (∀ c ∈ lineCuts i l.whole l.written, i ≤ c.1 ∧ c.1 < i + cs.length) ∧
        ofChars (broken ((lineCuts i l.whole l.written).lookup ·) i cs) =
        Text.unlines l.written := by
  have hspace : Char.ofNat Text.space.toNat = ' ' := by decide
  rw [lineCuts_written, unlines_written]
  rw [whole, Text.spaces_eq_ofChars] at hl
  obtain ⟨ds, rfl, hds⟩ := Text.exists_of_ofChars_eq_append hl
  obtain ⟨ps, rfl, hps⟩ := Text.exists_of_ofChars_eq_intercalate (b := Text.space) (by decide)
    (List.cons_ne_nil l.first l.later) hds.symm
  rw [pieces, hps, hspace]
  obtain ⟨hrange, hbroken⟩ := broken_pieceCuts l.indent (i + l.indent) ps
  rw [List.length_append, List.length_replicate]
  refine ⟨fun c hc => ?_, ?_⟩
  . have := hrange c hc
    omega
  . have hindent : broken ((pieceCuts l.indent (i + l.indent) (ps.map ofChars)).lookup ·) i
        (List.replicate l.indent ' ') = List.replicate l.indent ' ' := by
      refine Yaml.broken_of_none fun k _ hlt => lookup_eq_none fun c hc => ?_
      have := hrange c hc
      rw [List.length_replicate] at hlt
      omega
    rw [Yaml.broken_append, hindent, List.length_replicate, hbroken, Text.ofChars_append,
      Text.ofChars_intercalate,
      Text.ofChars_cons, ← Text.spaces_eq_ofChars]
    rfl

end CutLine

theorem broken_wrapStep {out : List Text} {state' : WrapState}
    (h : wrapStep width state (ofChars cs) = (out, state')) (i : Nat)
    : out ≠ [] ∧ (∀ c ∈ lineCuts i (ofChars cs) out, i ≤ c.1 ∧ c.1 < i + cs.length) ∧
        ofChars (broken ((lineCuts i (ofChars cs) out).lookup ·) i cs) = Text.unlines out := by
  obtain ⟨l, hwhole, hwritten, -⟩ := exists_cut_of_wrapStep width state (ofChars cs)
  obtain rfl : l.written = out := by rw [hwritten, h]
  rw [← hwhole]
  exact ⟨List.cons_ne_nil _ _, CutLine.broken_lineCuts hwhole.symm i⟩

theorem le_of_mem_linesCuts {c : Nat × Nat} (h : c ∈ linesCuts width state i (ls.map ofChars))
    : i ≤ c.1 := by
  induction ls generalizing i state with
  | nil => cases h
  | cons cs ls ih =>
    rw [List.map_cons, linesCuts] at h
    cases hstep : wrapStep width state (ofChars cs) with
    | mk out state' =>
      rw [hstep, List.mem_append] at h
      obtain h | h := h
      . exact ((broken_wrapStep hstep i).2.1 c h).1
      . have := ih h
        omega

theorem broken_linesCuts (hls : ls ≠ [])
    : wrapLines width state (ls.map ofChars) ≠ [] ∧
        ofChars
        (broken ((linesCuts width state i (ls.map ofChars)).lookup ·) i
          (List.intercalate ['\n'] ls)) =
          Text.unlines (wrapLines width state (ls.map ofChars)) := by
  induction ls generalizing i state with
  | nil => exact absurd rfl hls
  | cons cs ls ih =>
    rw [List.map_cons, linesCuts, wrapLines]
    cases hstep : wrapStep width state (ofChars cs) with
    | mk out state' =>
      obtain ⟨hne, hrange, hbroken⟩ := broken_wrapStep hstep i
      refine ⟨List.append_ne_nil_of_left_ne_nil hne _, ?_⟩
      dsimp only
      cases ls with
      | nil =>
        rw [List.map_nil, linesCuts, wrapLines, List.append_nil, List.append_nil,
          List.intercalate_singleton]
        exact hbroken
      | cons ds ls =>
        obtain ⟨hne', hrest⟩ := ih (List.cons_ne_nil ds ls)
        have hlater : ∀ c ∈ linesCuts width state' (i + cs.length + 1) ((ds :: ls).map ofChars),
          i + cs.length < c.1 :=
          fun c hc => le_of_mem_linesCuts hc
        rw [List.intercalate_cons_cons, List.append_assoc, List.singleton_append,
          Text.charCount_ofChars,
          broken_lookup_append (fun c hc => (hrange c hc).2) hlater, Text.ofChars_append,
          Text.ofChars_cons, hbroken,
          hrest, Text.unlines_append hne', ← Text.unlines_append_newline hne, List.append_assoc]
        rfl

/-- Wrapping a text replaces the spaces at its cuts. -/
theorem wrapFolded_ofChars (cs : List Char) (width : Int)
    : wrapFolded (ofChars cs) width =
      ofChars (broken ((wrapCuts (ofChars cs) width).lookup ·) 0 cs) := by
  unfold wrapFolded wrapCuts
  split
  . rw [Yaml.broken_of_none]
    intro k _ _
    rfl
  . have hlines := Text.unlines_lines (ofChars cs)
    obtain ⟨ls, hcs, hls⟩ := Text.exists_of_ofChars_eq_intercalate (b := Text.newline) (by decide)
      (Text.lines_ne_nil (ofChars cs)) hlines.symm
    have hne : ls ≠ [] := by
      rintro rfl
      exact Text.lines_ne_nil _ hls
    have hnewline : Char.ofNat Text.newline.toNat = '\n' := by decide
    rw [hls, ← (broken_linesCuts hne).2, ← hnewline, ← hcs]

end Layout
end YamlOrder
