import YamlOrder.Proofs.Event.Control

/-!
This module contains the open collections while the events of a document are read. The grammar ends
a mapping only when a value is complete, and it emits no node after the root.
-/

namespace YamlOrder
namespace Yaml

/-- What an open collection waits for. -/
inductive Shape where
  | item
  | key
  | value
  deriving DecidableEq

/-- What the open collections wait for, the innermost first, and whether the root is complete. -/
abbrev Outline := List Shape × Bool

namespace Outline

/-- A node has been completed. There is no place for another one after the root. -/
def fill : Outline → Option Outline
  | (.item :: rest, full) => some (.item :: rest, full)
  | (.key :: rest, full) => some (.value :: rest, full)
  | (.value :: rest, full) => some (.key :: rest, full)
  | ([], false) => some ([], true)
  | ([], true) => none

/-- An event. No mapping ends when a value is missing. -/
def step : EventKind → Outline → Option Outline
  | .alias _, o => fill o
  | .scalar _ _ _ _, o => fill o
  | .sequenceStart _ _ _, (rest, full) => some (.item :: rest, full)
  | .mappingStart _ _ _, (rest, full) => some (.key :: rest, full)
  | .sequenceEnd, (.item :: rest, full) => fill (rest, full)
  | .sequenceEnd, _ => none
  | .mappingEnd, (.key :: rest, full) => fill (rest, full)
  | .mappingEnd, _ => none
  | _, o => some o

end Outline

namespace Parser

variable {e back : Expect} {stack : List Expect} {o : Outline} {k : EventKind} {c c' : Control}
variable {W : Outline → Prop}

/--
The outlines that a state goes with, if those that its stack goes with when a node is awaited are
`W`.
-/
def Fits (W : Outline → Prop) : Expect → Outline → Prop
  | .streamStart, o => o = ([], false)
  | .implicitDocument, o => o = ([], false)
  | .document, o => o = ([], false)
  | .documentContent, o => W o
  | .documentEnd, o => o = ([], true)
  | .blockNode, o => W o
  | .blockSequenceFirst, o => ∃ rest full, o = (.item :: rest, full) ∧ W (rest, full)
  | .blockSequence, o => ∃ rest full, o = (.item :: rest, full) ∧ W (rest, full)
  | .indentlessSequence, o => ∃ rest full, o = (.item :: rest, full) ∧ W (rest, full)
  | .blockMappingFirst, o => ∃ rest full, o = (.key :: rest, full) ∧ W (rest, full)
  | .blockMappingKey, o => ∃ rest full, o = (.key :: rest, full) ∧ W (rest, full)
  | .blockMappingValue, o => ∃ rest full, o = (.value :: rest, full) ∧ W (rest, full)
  | .flowSequenceFirst, o => ∃ rest full, o = (.item :: rest, full) ∧ W (rest, full)
  | .flowSequence, o => ∃ rest full, o = (.item :: rest, full) ∧ W (rest, full)
  | .flowPairKey, o => ∃ rest full, o = (.key :: .item :: rest, full) ∧ W (rest, full)
  | .flowPairValue, o => ∃ rest full, o = (.value :: .item :: rest, full) ∧ W (rest, full)
  | .flowPairEnd, o => ∃ rest full, o = (.key :: .item :: rest, full) ∧ W (rest, full)
  | .flowMappingFirst, o => ∃ rest full, o = (.key :: rest, full) ∧ W (rest, full)
  | .flowMappingKey, o => ∃ rest full, o = (.key :: rest, full) ∧ W (rest, full)
  | .flowMappingValue, o => ∃ rest full, o = (.value :: rest, full) ∧ W (rest, full)
  | .flowMappingEmptyValue, o => ∃ rest full, o = (.value :: rest, full) ∧ W (rest, full)
  | .nothing, _ => False

/-- The outlines in which a node is awaited, and the stack goes on when it is complete. -/
def Waits : List Expect → Outline → Prop
  | [], _ => False
  | e :: stack, o => ∃ o', o.fill = some o' ∧ Fits (Waits stack) e o'

theorem fits_iff_of_atItem (h : AtItem e)
    : Fits W e o ↔ ∃ rest full, o = (.item :: rest, full) ∧ W (rest, full) := by
  obtain rfl | rfl | rfl | rfl | rfl := h
  all_goals rfl

theorem fits_iff_of_atKey (h : AtKey e)
    : Fits W e o ↔ ∃ rest full, o = (.key :: rest, full) ∧ W (rest, full) := by
  obtain rfl | rfl | rfl | rfl := h
  all_goals rfl

theorem fits_iff_of_atValue (h : AtValue e)
    : Fits W e o ↔ ∃ rest full, o = (.value :: rest, full) ∧ W (rest, full) := by
  obtain rfl | rfl | rfl := h
  all_goals rfl

theorem Waits.popped (h : Waits stack o)
    : ∃ o', o.fill = some o' ∧ Fits (Waits (popped stack).2) (popped stack).1 o' := by
  cases stack with
  | nil => exact h.elim
  | cons e stack => exact h

theorem NodeNext.fits (h : NodeNext stack k c) (hwaits : Waits stack o)
    : ∃ o', o.step k = some o' ∧ Fits (Waits c.2) c.1 o' := by
  cases h with
  | link name => exact hwaits.popped
  | scalar anchor tag value style => exact hwaits.popped
  | sequence anchor tag flow h => exact ⟨_, rfl, (fits_iff_of_atItem h).mpr ⟨o.1, o.2, rfl, hwaits⟩⟩
  | mapping anchor tag flow h => exact ⟨_, rfl, (fits_iff_of_atKey h).mpr ⟨o.1, o.2, rfl, hwaits⟩⟩

/-- Every event but the last one leads to an outline that goes with the next state. -/
theorem Next.fits (h : Next c k c') (hfits : Fits (Waits c.2) c.1 o) (hdocument : k ≠ .documentEnd)
    (hstream : k ≠ .streamEnd) : ∃ o', o.step k = some o' ∧ Fits (Waits c'.2) c'.1 o' := by
  cases h with
  | start stack => exact ⟨o, rfl, hfits⟩
  | document stack h h' =>
    obtain rfl : o = ([], false) := by
      obtain rfl | rfl := h
      all_goals exact hfits
    refine ⟨([], false), rfl, ?_⟩
    have hwaits : Waits (.documentEnd :: stack) ([], false) := ⟨([], true), rfl, rfl⟩
    obtain rfl | rfl := h'
    all_goals exact hwaits
  | endDocument => exact absurd rfl hdocument
  | endStream => exact absurd rfl hstream
  | root h hnode =>
    apply hnode.fits
    obtain rfl | rfl := h
    all_goals exact hfits
  | item h hback hnode =>
    obtain ⟨rest, full, rfl, hwaits⟩ := (fits_iff_of_atItem h).mp hfits
    exact hnode.fits ⟨_, rfl, (fits_iff_of_atItem hback).mpr ⟨rest, full, rfl, hwaits⟩⟩
  | key h hback hnode =>
    obtain ⟨rest, full, rfl, hwaits⟩ := (fits_iff_of_atKey h).mp hfits
    exact hnode.fits ⟨_, rfl, (fits_iff_of_atValue hback).mpr ⟨rest, full, rfl, hwaits⟩⟩
  | value h hback hnode =>
    obtain ⟨rest, full, rfl, hwaits⟩ := (fits_iff_of_atValue h).mp hfits
    exact hnode.fits ⟨_, rfl, (fits_iff_of_atKey hback).mpr ⟨rest, full, rfl, hwaits⟩⟩
  | endSequence stack h =>
    obtain ⟨rest, full, rfl, hwaits⟩ := (fits_iff_of_atItem h).mp hfits
    exact hwaits.popped
  | endMapping stack h =>
    obtain ⟨rest, full, rfl, hwaits⟩ := (fits_iff_of_atKey h).mp hfits
    exact hwaits.popped
  | pair stack h =>
    obtain ⟨rest, full, rfl, hwaits⟩ := (fits_iff_of_atItem h).mp hfits
    exact ⟨_, rfl, rest, full, rfl, hwaits⟩
  | pairKey hnode =>
    obtain ⟨rest, full, rfl, hwaits⟩ := hfits
    exact hnode.fits ⟨_, rfl, rest, full, rfl, hwaits⟩
  | pairValue hnode =>
    obtain ⟨rest, full, rfl, hwaits⟩ := hfits
    exact hnode.fits ⟨_, rfl, rest, full, rfl, hwaits⟩
  | endPair stack =>
    obtain ⟨rest, full, rfl, hwaits⟩ := hfits
    exact ⟨_, rfl, rest, full, rfl, hwaits⟩

end Parser
end Yaml
end YamlOrder
