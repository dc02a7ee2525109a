import YamlOrder.Proofs.Printer.Node
import YamlOrder.Tree.Style

/-!
This module contains what becomes of a document that is formatted, read and formatted again. The
tree that is read holds what was written, in the styles in which it was written. A value that cannot
be written in the style that is wanted for it gets quotes that nobody asked for, and these give way
to the configured ones in the second run, so the tree is written as before exactly if no scalar got
quotes that are not the configured ones.
-/

namespace YamlOrder
namespace Tree

open Yaml
open Node (SameProperties Alike AlikeItems AlikePairs)

/--
Where a scalar stands: whether it is a key, inside of a flow collection, and a key without
indicator.
-/
structure Spot where
  isKey : Bool
  inFlow : Bool
  simpleKey : Bool

/-- The style in which a scalar is written at a spot if a style is set for it. -/
def writtenStyle (spot : Spot) (i : NodeInfo) (value : Text) (style : ScalarStyle) : ScalarStyle :=
  Node.writtenStyle spot.inFlow spot.simpleKey i value style

/-- The style in which a scalar is written when a document is formatted. -/
def formattedStyle (s : Schema) (o : StyleOptions) (spot : Spot) (i : NodeInfo) (value : Text)
    (style : ScalarStyle) : ScalarStyle :=
  writtenStyle spot i value (restyle s o spot.isKey i value style)

variable {s : Schema} {o : StyleOptions} {spot : Spot} {i i' : NodeInfo} {value : Text}
variable {style : ScalarStyle}

/--
The quotes of a value differ from the configured ones, although these can hold it: double quotes
where single ones are configured, or the other way around.
-/
def Misquoted (o : StyleOptions) (spot : Spot) (value : Text) (written : ScalarStyle) : Prop :=
  let a := Analysis.ofValue (Text.toChars value)
  (o.quote = .single ∧ written = .doubleQuoted ∧ a.singleQuoted = true ∧
      (spot.simpleKey && a.multiline) = false) ∨
    (o.quote = .double ∧ written = .singleQuoted)

theorem wantedStyle_of_ne_plain (h : style ≠ .plain) : Node.wantedStyle i value style = style := by
  simp [Node.wantedStyle, h]

theorem formattedStyle_of_quoted (h : style = .singleQuoted ∨ style = .doubleQuoted)
    : formattedStyle s o spot i value style =
        if o.quote = .single ∧ (Analysis.ofValue (Text.toChars value)).singleQuoted = true ∧
          (spot.simpleKey && (Analysis.ofValue (Text.toChars value)).multiline) = false
        then .singleQuoted else .doubleQuoted := by
  have hrestyle : restyle s o spot.isKey i value style = o.quote.style := by
    obtain rfl | rfl := h
    all_goals rfl
  unfold formattedStyle writtenStyle Node.writtenStyle
  rw [hrestyle]
  generalize Analysis.ofValue (Text.toChars value) = a
  cases hquote : o.quote with
  | double =>
    rw [wantedStyle_of_ne_plain (by simp [Quote.style])]
    simp [Analysis.style, Quote.style]
  | single =>
    rw [wantedStyle_of_ne_plain (by simp [Quote.style])]
    unfold Analysis.style
    cases spot.simpleKey && a.multiline with
    | true => simp
    | false =>
      cases a.singleQuoted
      all_goals simp [Quote.style]

theorem style_of_multiline_key {a : Analysis} {isEmpty inFlow simpleKey : Bool}
    (h : (simpleKey && a.multiline) = true)
    : a.style style isEmpty inFlow simpleKey = .doubleQuoted := by
  simp [Analysis.style, h]

theorem formattedStyle_of_block (h : style = .literal ∨ style = .folded)
    : formattedStyle s o spot i value style =
        if (Analysis.ofValue (Text.toChars value)).block = true ∧ spot.inFlow = false ∧
          spot.simpleKey = false
        then style else .doubleQuoted := by
  have hrestyle : restyle s o spot.isKey i value style = style := by
    obtain rfl | rfl := h
    all_goals rfl
  unfold formattedStyle writtenStyle Node.writtenStyle
  rw [hrestyle, wantedStyle_of_ne_plain (by rintro rfl; simp at h)]
  generalize Analysis.ofValue (Text.toChars value) = a
  by_cases hkey : (spot.simpleKey && a.multiline) = true
  . rw [style_of_multiline_key hkey, if_neg]
    simp_all
  . obtain rfl | rfl := h
    all_goals simp [Analysis.style, hkey, and_assoc]

theorem writtenStyle_singleQuoted (h : writtenStyle spot i value style = .singleQuoted)
    : (Analysis.ofValue (Text.toChars value)).singleQuoted = true ∧
        (spot.simpleKey && (Analysis.ofValue (Text.toChars value)).multiline) = false := by
  unfold writtenStyle Node.writtenStyle at h
  generalize Analysis.ofValue (Text.toChars value) = a at h ⊢
  by_cases hkey : (spot.simpleKey && a.multiline) = true
  . rw [style_of_multiline_key hkey] at h
    simp at h
  . simp only [Bool.not_eq_true] at hkey
    simp only [Analysis.style, hkey, Bool.false_eq_true, if_false] at h
    cases hwanted : Node.wantedStyle i value style
    all_goals
      rw [hwanted] at h
      grind

theorem writtenStyle_block {style' : ScalarStyle} (hstyle : style = .literal ∨ style = .folded)
    (h : writtenStyle spot i value style' = style)
    : (Analysis.ofValue (Text.toChars value)).block = true ∧ spot.inFlow = false ∧
        spot.simpleKey = false := by
  unfold writtenStyle Node.writtenStyle at h
  generalize Analysis.ofValue (Text.toChars value) = a at h ⊢
  by_cases hkey : (spot.simpleKey && a.multiline) = true
  . rw [style_of_multiline_key hkey] at h
    simp [← h] at hstyle
  . simp only [Bool.not_eq_true] at hkey
    simp only [Analysis.style, hkey, Bool.false_eq_true, if_false] at h
    cases hwanted : Node.wantedStyle i value style'
    all_goals
      rw [hwanted] at h
      grind

theorem plain_of_formattedStyle (h : formattedStyle s o spot i value style = .plain)
    : style = .plain := by
  cases style with
  | plain => rfl
  | singleQuoted =>
    rw [formattedStyle_of_quoted (Or.inl rfl)] at h
    split at h
    all_goals simp at h
  | doubleQuoted =>
    rw [formattedStyle_of_quoted (Or.inr rfl)] at h
    split at h
    all_goals simp at h
  | literal =>
    rw [formattedStyle_of_block (Or.inl rfl)] at h
    split at h
    all_goals simp at h
  | folded =>
    rw [formattedStyle_of_block (Or.inr rfl)] at h
    split at h
    all_goals simp at h

theorem formattedStyle_congr (htag : i'.tag = i.tag) (htagged : i'.tagged = i.tagged)
    : formattedStyle s o spot i' value style = formattedStyle s o spot i value style := by
  have hresolve : s.resolve i' value .plain = s.resolve i value .plain := by
    simp only [Schema.resolve, htag, htagged]
  have hrestyle : restyle s o spot.isKey i' value style = restyle s o spot.isKey i value style := by
    simp only [restyle, hresolve]
  simp only [formattedStyle, writtenStyle, Node.writtenStyle, hrestyle, Node.wantedStyle,
    htag, htagged]

theorem formattedStyle_twice_iff
    (hread : formattedStyle s o spot i value style = .plain → i'.tag = i.tag ∧ i'.tagged = i.tagged)
    : formattedStyle s o spot i' value (formattedStyle s o spot i value style) =
        formattedStyle s o spot i value style ↔
      ¬ Misquoted o spot value (formattedStyle s o spot i value style) := by
  generalize hw : formattedStyle s o spot i value style = w at hread ⊢
  cases w with
  -- The tag matters here alone, since only a plain value is resolved again.
  | plain =>
    obtain ⟨htag, htagged⟩ := hread rfl
    have hstyle := plain_of_formattedStyle hw
    subst hstyle
    rw [formattedStyle_congr htag htagged, hw]
    simp [Misquoted]
  | singleQuoted =>
    obtain ⟨hquoted, hkey⟩ := writtenStyle_singleQuoted hw
    rw [formattedStyle_of_quoted (Or.inl rfl)]
    cases hquote : o.quote
    all_goals simp [Misquoted, hquote, hquoted, hkey]
  | doubleQuoted =>
    rw [formattedStyle_of_quoted (Or.inr rfl)]
    simp [Misquoted]
  | literal =>
    rw [formattedStyle_of_block (Or.inl rfl), if_pos (writtenStyle_block (Or.inl rfl) hw)]
    simp [Misquoted]
  | folded =>
    rw [formattedStyle_of_block (Or.inr rfl), if_pos (writtenStyle_block (Or.inr rfl) hw)]
    simp [Misquoted]

/-- A scalar of a tree, and where it stands. -/
structure Placed where
  spot : Spot
  info : NodeInfo
  value : Text
  style : ScalarStyle

mutual

/-- The scalars of a node that stands at a spot. -/
def scalarsAt (spot : Spot) : Node → List Placed
  | .scalar i value style => [⟨spot, i, value, style⟩]
  | .sequence _ flow items => scalarsOfItems (spot.inFlow || flow) items
  | .mapping _ flow pairs => scalarsOfPairs (spot.inFlow || flow) pairs
  | .alias _ _ _ => []

def scalarsOfItems (inFlow : Bool) : List Node → List Placed
  | [] => []
  | n :: rest => scalarsAt ⟨false, inFlow, false⟩ n ++ scalarsOfItems inFlow rest

def scalarsOfPairs (inFlow : Bool) : List (Node × Node) → List Placed
  | [] => []
  | (k, v) :: rest =>
    scalarsAt ⟨true, inFlow, k.isSimpleKey⟩ k ++ scalarsAt ⟨false, inFlow, false⟩ v ++
      scalarsOfPairs inFlow rest

end

/-- The scalars of a document. -/
def scalarsOf (t : Yaml.Tree) : List Placed := scalarsAt ⟨false, false, false⟩ t.root

/-- Whether a scalar is written with quotes that are not the configured ones. -/
def Placed.Misquoted (s : Schema) (o : StyleOptions) (p : Placed) : Prop :=
  Tree.Misquoted o p.spot p.value (formattedStyle s o p.spot p.info p.value p.style)

instance (s : Schema) (o : StyleOptions) (p : Placed) : Decidable (p.Misquoted s o) :=
  inferInstanceAs (Decidable (_ ∨ _))

variable (s o)

mutual

/-- The second node can be read of what is written for the first one in its styles. -/
def Settles (spot : Spot) : Node → Node → Prop
  | .scalar i value style, .scalar i' value' style' =>
    SameProperties (.scalar i value style) (.scalar i' value' style') ∧ value' = value ∧
      style' = formattedStyle s o spot i value style ∧
      (style' = .plain → i'.tag = i.tag ∧ i'.tagged = i.tagged)
  | .sequence i flow items, .sequence i' flow' items' =>
    SameProperties (.sequence i flow []) (.sequence i' flow' []) ∧ flow' = (spot.inFlow || flow) ∧
      SettlesItems (spot.inFlow || flow) items items'
  | .mapping i flow pairs, .mapping i' flow' pairs' =>
    SameProperties (.mapping i flow []) (.mapping i' flow' []) ∧ flow' = (spot.inFlow || flow) ∧
      SettlesPairs (spot.inFlow || flow) pairs pairs'
  | .alias i name _, .alias i' name' _ => i'.remarks = i.remarks ∧ name' = name
  | _, _ => False

def SettlesItems (inFlow : Bool) : List Node → List Node → Prop
  | [], [] => True
  | n :: rest, n' :: rest' => Settles ⟨false, inFlow, false⟩ n n' ∧ SettlesItems inFlow rest rest'
  | _, _ => False

def SettlesPairs (inFlow : Bool) : List (Node × Node) → List (Node × Node) → Prop
  | [], [] => True
  | (k, v) :: rest, (k', v') :: rest' =>
    Settles ⟨true, inFlow, k.isSimpleKey⟩ k k' ∧ Settles ⟨false, inFlow, false⟩ v v' ∧
      SettlesPairs inFlow rest rest'
  | _, _ => False

end

variable {s o} {inFlow : Bool} {n n' : Node} {items items' : List Node}
variable {pairs pairs' : List (Node × Node)} {R : List Char → List Char → Prop} {t t' : Yaml.Tree}

theorem isSimpleKey_styleNode (isKey : Bool) (n : Node)
    : (styleNode s o isKey n).isSimpleKey = n.isSimpleKey := by
  cases n with
  | scalar i value style => rfl
  | «alias» i name target => rfl
  | sequence i flow items =>
    cases items
    all_goals rfl
  | mapping i flow pairs =>
    cases pairs
    all_goals rfl

theorem propertiesLength_eq (h : SameProperties n n')
    : n'.propertiesLength = n.propertiesLength := by
  have hname : n'.info.anchor.elim 0 (·.name.length) = n.info.anchor.elim 0 (·.name.length) := by
    have hlength := congrArg (Option.elim · 0 List.length) h.anchor
    cases ha : n.info.anchor
    all_goals
      cases ha' : n'.info.anchor
      all_goals simp_all
  unfold Node.propertiesLength
  rw [h.tag, hname]

theorem SettlesItems.isEmpty_eq (h : SettlesItems s o inFlow items items')
    : items'.isEmpty = items.isEmpty := by
  unfold SettlesItems at h
  split at h
  . rfl
  . rfl
  . exact h.elim

theorem SettlesPairs.isEmpty_eq (h : SettlesPairs s o inFlow pairs pairs')
    : pairs'.isEmpty = pairs.isEmpty := by
  unfold SettlesPairs at h
  split at h
  . rfl
  . rfl
  . exact h.elim

theorem Settles.isSimpleKey_eq (h : Settles s o spot n n') : n'.isSimpleKey = n.isSimpleKey := by
  unfold Settles at h
  split at h
  . obtain ⟨hproperties, rfl, -⟩ := h
    simp only [Node.isSimpleKey, propertiesLength_eq hproperties]
  . obtain ⟨hproperties, -, hitems⟩ := h
    have hlength := propertiesLength_eq hproperties
    simp only [Node.isSimpleKey, hitems.isEmpty_eq]
    exact congrArg (fun length => _ && decide (length ≤ Node.maxSimpleKey)) hlength
  . obtain ⟨hproperties, -, hpairs⟩ := h
    have hlength := propertiesLength_eq hproperties
    simp only [Node.isSimpleKey, hpairs.isEmpty_eq]
    exact congrArg (fun length => _ && decide (length ≤ Node.maxSimpleKey)) hlength
  . obtain ⟨-, rfl⟩ := h
    rfl
  . exact h.elim

mutual

theorem Settles.alike {spot : Spot} {n n' : Node} (h : Settles s o spot n n')
    (hquotes : ∀ p ∈ scalarsAt spot n, ¬ p.Misquoted s o)
    : Alike R spot.inFlow spot.simpleKey (styleNode s o spot.isKey n)
      (styleNode s o spot.isKey n') := by
  match n, n', h with
  | .scalar i value style, .scalar i' value' style', h =>
    obtain ⟨hproperties, rfl, rfl, htag⟩ := h
    have hstyle := (formattedStyle_twice_iff htag).mpr (hquotes _ (List.mem_singleton_self _))
    exact ⟨⟨hproperties.anchor, hproperties.tag, hproperties.remarks⟩, hstyle, .refl _,
      fun _ _ => rfl⟩
  | .sequence i flow items, .sequence i' flow' items', h =>
    obtain ⟨hproperties, rfl, hitems⟩ := h
    exact ⟨hproperties, by simp, hitems.alike hquotes⟩
  | .mapping i flow pairs, .mapping i' flow' pairs', h =>
    obtain ⟨hproperties, rfl, hpairs⟩ := h
    exact ⟨hproperties, by simp, hpairs.alike hquotes⟩
  | .alias i name target, .alias i' name' target', h => exact h
termination_by structural n

theorem SettlesItems.alike {inFlow : Bool} {items items' : List Node}
    (h : SettlesItems s o inFlow items items')
    (hquotes : ∀ p ∈ scalarsOfItems inFlow items, ¬ p.Misquoted s o)
    : AlikeItems R inFlow (styleItems s o items) (styleItems s o items') := by
  match items, items', h with
  | [], [], _ => trivial
  | n :: rest, n' :: rest', h =>
    simp only [scalarsOfItems, List.forall_mem_append] at hquotes
    exact ⟨h.1.alike hquotes.1, h.2.alike hquotes.2⟩
termination_by structural items

theorem SettlesPairs.alike {inFlow : Bool} {pairs pairs' : List (Node × Node)}
    (h : SettlesPairs s o inFlow pairs pairs')
    (hquotes : ∀ p ∈ scalarsOfPairs inFlow pairs, ¬ p.Misquoted s o)
    : AlikePairs R inFlow (stylePairs s o pairs) (stylePairs s o pairs') := by
  match pairs, pairs', h with
  | [], [], _ => trivial
  | (k, v) :: rest, (k', v') :: rest', h =>
    obtain ⟨hkey, hvalue, hrest⟩ := h
    simp only [scalarsOfPairs, List.forall_mem_append] at hquotes
    refine ⟨?_, ?_, hvalue.alike hquotes.1.2, hrest.alike hquotes.2⟩
    . rw [isSimpleKey_styleNode, isSimpleKey_styleNode, hkey.isSimpleKey_eq]
    . rw [isSimpleKey_styleNode]
      exact hkey.alike hquotes.1.1
termination_by structural pairs

end

mutual

theorem Settles.not_misquoted {spot : Spot} {n n' : Node} (h : Settles s o spot n n')
    (hagain : Settles s o spot n' n')
    : ∀ p ∈ scalarsAt spot n, ¬ p.Misquoted s o := by
  match n, n', h with
  | .scalar i value style, .scalar i' value' style', h =>
    obtain ⟨-, rfl, rfl, htag⟩ := h
    obtain ⟨-, -, hstyle, -⟩ := hagain
    rintro _ (- | ⟨_, ⟨⟩⟩)
    exact (formattedStyle_twice_iff htag).mp hstyle.symm
  | .sequence i flow items, .sequence i' flow' items', h =>
    obtain ⟨-, rfl, hitems⟩ := h
    obtain ⟨-, -, hagain⟩ := hagain
    rw [← Bool.or_assoc, Bool.or_self] at hagain
    exact hitems.not_misquoted hagain
  | .mapping i flow pairs, .mapping i' flow' pairs', h =>
    obtain ⟨-, rfl, hpairs⟩ := h
    obtain ⟨-, -, hagain⟩ := hagain
    rw [← Bool.or_assoc, Bool.or_self] at hagain
    exact hpairs.not_misquoted hagain
  | .alias i name target, .alias i' name' target', h => simp [scalarsAt]
termination_by structural n

theorem SettlesItems.not_misquoted {inFlow : Bool} {items items' : List Node}
    (h : SettlesItems s o inFlow items items') (hagain : SettlesItems s o inFlow items' items')
    : ∀ p ∈ scalarsOfItems inFlow items, ¬ p.Misquoted s o := by
  match items, items', h with
  | [], [], _ => simp [scalarsOfItems]
  | n :: rest, n' :: rest', h =>
    rw [scalarsOfItems, List.forall_mem_append]
    exact ⟨h.1.not_misquoted hagain.1, h.2.not_misquoted hagain.2⟩
termination_by structural items

theorem SettlesPairs.not_misquoted {inFlow : Bool} {pairs pairs' : List (Node × Node)}
    (h : SettlesPairs s o inFlow pairs pairs') (hagain : SettlesPairs s o inFlow pairs' pairs')
    : ∀ p ∈ scalarsOfPairs inFlow pairs, ¬ p.Misquoted s o := by
  match pairs, pairs', h with
  | [], [], _ => simp [scalarsOfPairs]
  | (k, v) :: rest, (k', v') :: rest', h =>
    obtain ⟨hkey, hvalue, hrest⟩ := h
    obtain ⟨hkeyAgain, hvalueAgain, hrestAgain⟩ := hagain
    rw [hkey.isSimpleKey_eq] at hkeyAgain
    rw [scalarsOfPairs, List.forall_mem_append, List.forall_mem_append]
    exact ⟨⟨hkey.not_misquoted hkeyAgain, hvalue.not_misquoted hvalueAgain⟩,
      hrest.not_misquoted hrestAgain⟩
termination_by structural pairs

end

/-- The second document can be read of what is written for the first one in its styles. -/
structure TreeSettles (s : Schema) (o : StyleOptions) (t t' : Yaml.Tree) : Prop where
  root : Settles s o ⟨false, false, false⟩ t.root t'.root
  head : t'.head = t.head
  foot : t'.foot = t.foot

theorem TreeSettles.render_eq (h : TreeSettles s o t t')
    (hquotes : ∀ p ∈ scalarsOf t, ¬ p.Misquoted s o) (width : Nat)
    : (applyStyles s o t').render width = (applyStyles s o t).render width := by
  have halike : Yaml.Tree.Alike (fun _ _ => False) (applyStyles s o t) (applyStyles s o t') :=
    ⟨h.root.alike hquotes, h.head, h.foot⟩
  obtain ⟨u, v, hu, hv, hspelt⟩ := halike.render (fun h => h.elim) width
  rw [hu, hv, hspelt.eq_of_forall_not fun _ _ => id]

end Tree
end YamlOrder
