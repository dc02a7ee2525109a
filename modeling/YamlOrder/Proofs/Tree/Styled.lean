import Mathlib.Data.List.Forall2
import YamlOrder.Proofs.Tree.Children
import YamlOrder.Tree.Style

/-!
This module contains what the choice of styles does to a tree: scalars get other styles and nothing
else changes. No style that is chosen changes what the schema makes of a scalar, and none is chosen
anew in a second run.
-/

namespace YamlOrder
namespace Tree

open Yaml
open Substitution (tokenStart)

variable {s : Schema} {o : StyleOptions} {isKey : Bool} {i : NodeInfo} {value : Text}
  {style : ScalarStyle}

/--
Trees that are the same but for the styles of scalars. What can become of the style of a scalar
depends on whether it is a key of a mapping; the items of a collection that is a key are none.
-/
inductive Restyled (change : Bool → NodeInfo → Text → ScalarStyle → ScalarStyle → Prop)
    : Bool → Node → Node → Prop where
  | scalar {isKey : Bool} {i : NodeInfo} {value : Text} {style style' : ScalarStyle}
    (h : change isKey i value style style') : Restyled change isKey (.scalar i value style)
      (.scalar i value style')
  | sequence (isKey : Bool) (i : NodeInfo) (flow : Bool) {items items' : List Node}
    (h : List.Forall₂ (Restyled change false) items items')
    : Restyled change isKey (.sequence i flow items) (.sequence i flow items')
  | mapping (isKey : Bool) (i : NodeInfo) (flow : Bool) {ps qs : List (Node × Node)}
    (hkeys : List.Forall₂ (Restyled change true) (ps.map Prod.fst) (qs.map Prod.fst))
    (hvalues : List.Forall₂ (Restyled change false) (ps.map Prod.snd) (qs.map Prod.snd))
    : Restyled change isKey (.mapping i flow ps) (.mapping i flow qs)
  | alias (isKey : Bool) (i : NodeInfo) (name : Text) (target : Nat)
    : Restyled change isKey (.alias i name target) (.alias i name target)

/--
A new style of a scalar that does not change its meaning, nor what hangs on it that it is plain.
-/
structure KeepsMeaning (s : Schema) (o : StyleOptions) (isKey : Bool) (i : NodeInfo) (value : Text)
    (style style' : ScalarStyle) : Prop where
  resolve : s.resolve i value style' = s.resolve i value style
  key : style = .plain → isKey = true → style' = .plain
  token : style = .plain → tokenStart "array" <+: value ∨ tokenStart "helm" <+: value →
    style' = .plain
  quoted : style = .singleQuoted ∨ style = .doubleQuoted → style' = o.quote.style
  block : style = .literal ∨ style = .folded → style' = style

theorem styleItems_eq (s : Schema) (o : StyleOptions) (items : List Node)
    : styleItems s o items = items.map (styleNode s o false) := by
  induction items with
  | nil => rfl
  | cons n rest ih => rw [styleItems, ih, List.map_cons]

theorem stylePairs_eq (s : Schema) (o : StyleOptions) (ps : List (Node × Node))
    : stylePairs s o ps = ps.map (Prod.map (styleNode s o true) (styleNode s o false)) := by
  induction ps with
  | nil => rfl
  | cons p rest ih => rw [stylePairs, ih, List.map_cons, Prod.map]

/-- A function on trees that gives each scalar a style and leaves everything else as it is. -/
structure Restyling (f : Bool → Node → Node)
    (styleOf : Bool → NodeInfo → Text → ScalarStyle → ScalarStyle)
    : Prop where
  scalar (isKey : Bool) (i : NodeInfo) (value : Text) (style : ScalarStyle) :
    f isKey (.scalar i value style) = .scalar i value (styleOf isKey i value style)
  sequence (isKey : Bool) (i : NodeInfo) (flow : Bool) (items : List Node) :
    f isKey (.sequence i flow items) = .sequence i flow (items.map (f false))
  mapping (isKey : Bool) (i : NodeInfo) (flow : Bool) (ps : List (Node × Node)) :
    f isKey (.mapping i flow ps) = .mapping i flow (ps.map (Prod.map (f true) (f false)))
  reference (isKey : Bool) (i : NodeInfo) (name : Text) (target : Nat) :
    f isKey (.alias i name target) = .alias i name target

theorem restyling_id : Restyling (fun _ n => n) (fun _ _ _ style => style) where
  scalar _ _ _ _ := rfl
  sequence _ _ _ _ := by rw [List.map_id']
  mapping _ _ _ _ := by rw [Prod.map_id', List.map_id']
  reference _ _ _ _ := rfl

theorem restyling_styleNode (s : Schema) (o : StyleOptions)
    : Restyling (styleNode s o) (restyle s o) where
  scalar _ _ _ _ := rfl
  sequence _ _ _ _ := by rw [styleNode, styleItems_eq]
  mapping _ _ _ _ := by rw [styleNode, stylePairs_eq]
  reference _ _ _ _ := rfl

theorem Restyling.restyled {f g : Bool → Node → Node}
    {φ ψ : Bool → NodeInfo → Text → ScalarStyle → ScalarStyle} (hf : Restyling f φ)
    (hg : Restyling g ψ) {change : Bool → NodeInfo → Text → ScalarStyle → ScalarStyle → Prop}
    (h : ∀ isKey i value style, change isKey i value (φ isKey i value style)
      (ψ isKey i value style))
    (isKey : Bool) (n : Node) : Restyled change isKey (f isKey n) (g isKey n) := by
  induction n using Node.induction_on_children generalizing isKey with
  | h n ih =>
    match n with
    | .scalar i value style =>
      rw [hf.scalar, hg.scalar]
      exact .scalar (h isKey i value style)
    | .alias i name target =>
      rw [hf.reference, hg.reference]
      exact .alias isKey i name target
    | .sequence i flow items =>
      rw [hf.sequence, hg.sequence]
      refine .sequence isKey i flow ?_
      rw [List.forall₂_map_left_iff, List.forall₂_map_right_iff, List.forall₂_same]
      exact fun c hc => ih c hc false
    | .mapping i flow ps =>
      rw [hf.mapping, hg.mapping]
      refine .mapping isKey i flow ?_ ?_
      all_goals
        simp only [List.map_map, List.forall₂_map_left_iff, List.forall₂_map_right_iff,
          List.forall₂_same]
        intro p hp
      . exact ih p.1 (mem_flatten_of_mem hp).1 true
      . exact ih p.2 (mem_flatten_of_mem hp).2 false

theorem isShielded_of_tokenStart (h : tokenStart "array" <+: value ∨ tokenStart "helm" <+: value)
    : isShielded value = true := by
  simpa [isShielded] using h

theorem style_cases (style : ScalarStyle)
    : style = .plain ∨ (style = .singleQuoted ∨ style = .doubleQuoted) ∨ style = .literal ∨
      style = .folded := by
  cases style
  all_goals simp

theorem style_ne_plain (q : Quote) : q.style ≠ .plain := by
  cases q
  all_goals decide

theorem restyle_quoted (h : style = .singleQuoted ∨ style = .doubleQuoted)
    : restyle s o isKey i value style = o.quote.style := by
  obtain rfl | rfl := h
  all_goals rfl

theorem restyle_block (h : style = .literal ∨ style = .folded)
    : restyle s o isKey i value style = style := by
  obtain rfl | rfl := h
  all_goals rfl

theorem restyle_plain (s : Schema) (o : StyleOptions) (isKey : Bool) (i : NodeInfo) (value : Text)
    : restyle s o isKey i value .plain = .plain ∨
        (isKey = false ∧ isShielded value = false ∧ s.resolve i value .plain = Tag.str) ∧
          (restyle s o isKey i value .plain = .folded ∨
            restyle s o isKey i value .plain = o.quote.style) := by
  unfold restyle
  grind

theorem resolve_of_ne_plain (h : style ≠ .plain)
    : s.resolve i value style = if i.tagged then i.tag else Tag.str := by
  simp [Schema.resolve, h]

theorem resolve_restyle_plain (s : Schema) (o : StyleOptions) (isKey : Bool) (i : NodeInfo)
    (value : Text)
    : s.resolve i value (restyle s o isKey i value .plain) = s.resolve i value .plain := by
  obtain hplain | ⟨⟨-, -, hstr⟩, hstyle⟩ := restyle_plain s o isKey i value
  . rw [hplain]
  . have hne : restyle s o isKey i value .plain ≠ .plain := by
      obtain hfolded | hquote := hstyle
      . simp [hfolded]
      . rw [hquote]
        exact style_ne_plain o.quote
    rw [resolve_of_ne_plain hne]
    cases htagged : i.tagged with
    | true => simp [Schema.resolve, htagged]
    | false => simp [hstr]

theorem resolve_restyle (s : Schema) (o : StyleOptions) (isKey : Bool) (i : NodeInfo) (value : Text)
    (style : ScalarStyle) : s.resolve i value (restyle s o isKey i value style) =
    s.resolve i value style := by
  obtain rfl | hquoted | hblock := style_cases style
  . exact resolve_restyle_plain s o isKey i value
  . have hne : style ≠ .plain := by
      obtain rfl | rfl := hquoted
      all_goals decide
    rw [restyle_quoted hquoted, resolve_of_ne_plain (style_ne_plain _), resolve_of_ne_plain hne]
  . rw [restyle_block hblock]

theorem keepsMeaning_restyle (s : Schema) (o : StyleOptions) (isKey : Bool) (i : NodeInfo)
    (value : Text) (style : ScalarStyle)
    : KeepsMeaning s o isKey i value style (restyle s o isKey i value style) where
  resolve := resolve_restyle s o isKey i value style
  key := by
    rintro rfl rfl
    rfl
  token := by
    rintro rfl htoken
    obtain hplain | ⟨⟨-, hfree, -⟩, -⟩ := restyle_plain s o isKey i value
    . exact hplain
    . rw [isShielded_of_tokenStart htoken] at hfree
      contradiction
  quoted := restyle_quoted
  block := restyle_block

theorem restyle_quote (s : Schema) (o : StyleOptions) (isKey : Bool) (i : NodeInfo) (value : Text)
    : restyle s o isKey i value o.quote.style = o.quote.style := by
  apply restyle_quoted
  cases o.quote
  . exact Or.inl rfl
  . exact Or.inr rfl

theorem restyle_restyle (s : Schema) (o : StyleOptions) (isKey : Bool) (i : NodeInfo) (value : Text)
    (style : ScalarStyle)
    : restyle s o isKey i value (restyle s o isKey i value style) =
      restyle s o isKey i value style := by
  obtain rfl | hquoted | hblock := style_cases style
  . obtain hplain | ⟨-, hfolded | hquote⟩ := restyle_plain s o isKey i value
    . rw [hplain, hplain]
    . rw [hfolded, restyle_block (Or.inr rfl)]
    . rw [hquote, restyle_quote]
  . rw [restyle_quoted hquoted, restyle_quote]
  . rw [restyle_block hblock, restyle_block hblock]

theorem styleNode_styleNode (s : Schema) (o : StyleOptions) (isKey : Bool) (n : Node)
    : styleNode s o isKey (styleNode s o isKey n) = styleNode s o isKey n := by
  induction n using Node.induction_on_children generalizing isKey with
  | h n ih =>
    match n with
    | .scalar i value style => rw [styleNode, styleNode, restyle_restyle]
    | .alias i name target => rfl
    | .sequence i flow items =>
      rw [styleNode, styleNode, styleItems_eq, styleItems_eq, List.map_map]
      congr 1
      exact List.map_congr_left fun c hc => ih c hc false
    | .mapping i flow ps =>
      rw [styleNode, styleNode, stylePairs_eq, stylePairs_eq, List.map_map]
      congr 1
      refine List.map_congr_left fun p hp => ?_
      obtain ⟨hkey, hvalue⟩ := mem_flatten_of_mem hp
      exact Prod.ext (ih p.1 hkey true) (ih p.2 hvalue false)

/--
The choice of styles keeps the meaning of all scalars, keys and values in a tree, changes nothing
else, and is made once and for all.
-/
theorem applyStyles_keeps_meaning (s : Schema) (o : StyleOptions) (t : Yaml.Tree)
    : Restyled (KeepsMeaning s o) false t.root (applyStyles s o t).root ∧
        { applyStyles s o t with root := t.root } = t ∧
        applyStyles s o (applyStyles s o t) = applyStyles s o t := by
  refine ⟨restyling_id.restyled (restyling_styleNode s o) (keepsMeaning_restyle s o) false
    t.root, rfl, ?_⟩
  simp only [applyStyles, styleNode_styleNode]

end Tree
end YamlOrder
