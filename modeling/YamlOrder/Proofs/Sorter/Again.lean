import YamlOrder.Proofs.Shield.Renumber
import YamlOrder.Proofs.Sorter.Rerun
import YamlOrder.Proofs.Tree.Repair
import YamlOrder.Proofs.Tree.Parsed
import YamlOrder.Proofs.Tree.Rename

/-!
This module contains when a text that has been sorted is sorted to itself. Keys are compared while
templates are hidden, and what hides a template is numbered in the order of the text, so that a key
can get another name once the text has been sorted.
-/

namespace YamlOrder
namespace Sorter

open YamlOrder.Tree
open Std (TransCmp)

open YamlOrder.Tree (TreeSettles scalarsOf)
open Document (Separable)
open Text (dropNewlines)

variable {s : Sorter} {slot : Int} {sorting : Sorting} {orders : Comparator × Comparator}
variable {text new hidden out buffer : Text} {t t' : Yaml.Tree} {d e : Document}
  {names : List (Text × Text)}

theorem parse_of_checked {schema : Schema} (h : Tree.parse text schema = .ok (some t))
    : Yaml.Tree.parse text = .ok (some t) := by
  obtain ⟨t₀, hread, h⟩ := bind_eq_ok.mp h
  obtain ⟨_, -, hpure⟩ := bind_eq_ok.mp h
  cases hpure
  exact mapError_eq_ok_iff.mp hread

theorem Reads.linked (h : s.Reads text t) : Linked t.root := by
  obtain ⟨p, -, hparse⟩ := h
  exact linked_of_parse (parse_of_checked hparse)

theorem Reads.ordered (h : s.Reads text t) : Ordered [] t.root.preorder := by
  obtain ⟨p, -, hparse⟩ := h
  exact (scoped_of_parse (parse_of_checked hparse)).ordered

theorem arrange_of_inKeyOrder (h : s.Reads text t) (horder : InKeyOrder orders.1 orders.2 t.root)
    : arrange (some orders) t = t := by
  rw [arrange, sortRoot_of_inKeyOrder horder, fixAnchors_of_ordered h.linked h.ordered]

/-- A tree in one of the four orders. -/
abbrev sortTree (s : Sorter) (slot : Int) (t : Yaml.Tree) : Yaml.Tree :=
    arrange (some (s.comparators slot)) t

/-- What is read once expressions have been hidden. -/
def contentOf (s : Sorter) (hidden : Text) : Text :=
  if s.settings.comments then Comment.strip (Comment.linesOf hidden) else hidden

/-- The tokens that stand for parts of a document. -/
def Issued (s : Sorter) (text token : Text) : Prop :=
  ∃ p, s.prepare text = .ok p ∧ ∃ sub ∈ p.shield.substitutions, token ∈ sub.store.map (·.token)

/-- The sorted tree of a document once the tokens in it have been exchanged. -/
def renumbered (s : Sorter) (slot : Int) (names : List (Text × Text)) (t : Yaml.Tree) : Yaml.Tree :=
  (s.sortTree slot t).renamed (Substitution.rename names)

/-- The keys of a sorted document are in order under the names that the tokens in them have got. -/
def InNewOrder (s : Sorter) (slot : Int) (names : List (Text × Text)) (t : Yaml.Tree) : Prop :=
  InKeyOrder (Function.onFun (s.comparators slot).1 (Substitution.rename names))
    (Function.onFun (s.comparators slot).2 (Substitution.rename names)) (s.sortTree slot t).root

instance (s : Sorter) (slot : Int) (names : List (Text × Text)) (t : Yaml.Tree)
    : Decidable (s.InNewOrder slot names t) :=
  inferInstanceAs (Decidable (InKeyOrder _ _ _))

/--
The new text of a document that has been sorted, as it is read again. The expressions that were
hidden are hidden again, and `names` says which token stands now where another one stood. With them,
what is hidden of the new text is what is laid out for the sorted tree, and is read as the tree in
its written styles.
-/
structure Retold (s : Sorter) (slot : Int) (names : List (Text × Text)) (text : Text)
    (t : Yaml.Tree) (new : Text)
    : Prop where
  nonblank : Text.isBlank new = false
  expanded : expandTabs new s.settings.indent = .ok new
  free : Text.occursIn "yamlsort." new = false
  read : ∃ hidden, Shield.Retraces (s.Issued text) s.shield.substitutions new hidden names ∧
    (s.settings.comments = true → ∀ l ∈ Comment.linesOf hidden, Comment.isComment l = false) ∧
    dropNewlines hidden = dropNewlines (s.draft (s.renumbered slot names t)) ∧
    ∃ t', Tree.parse (s.contentOf hidden) s.schema = .ok (some t') ∧
      TreeSettles s.schema s.styleOptions (s.renumbered slot names t) t'

theorem Retold.rereads (hoctal : s.settings.octal = false) (h : s.Retold slot names text t new)
    : s.Rereads (s.renumbered slot names t) new := by
  obtain ⟨hidden, hretraces, huncommented, hwritten, t', hparse, hsettles⟩ := h.read
  have hsubs : s.shield.substitutions =
    (Shield.ofFlags s.settings.helm s.settings.arrays false).substitutions := by
    rw [shield, hoctal]
  have hunused : ∀ sub ∈ s.shield.substitutions, Shield.Unused sub := hsubs ▸ Shield.unused_ofFlags
  have hforeign := hsubs ▸ Shield.pairwise_foreign_ofFlags
  have hfree : ∀ sub ∈ s.shield.substitutions, ¬ Substitution.tokenStart sub.kind <:+: new :=
    fun sub _ => Substitution.not_tokenStart_infix h.free List.infix_rfl
  have hnext : ∀ sub ∈ s.shield.substitutions, sub.next = 0 := by
    intro sub hsub
    obtain rfl | rfl := Shield.eq_of_mem_ofFlags (hsubs ▸ hsub)
    all_goals rfl
  have hhidden : (s.shield.shield new).2 = hidden := hretraces.go_eq hunused hnext hforeign hfree
  have hprepared : (s.prepared new).content = s.contentOf hidden := by
    rw [prepared, hhidden, contentOf]
  exact {
    nonblank := h.nonblank
    expanded := h.expanded
    restored := Shield.foldr_restore_go hunused hforeign hfree
    uncommented := hhidden ▸ huncommented
    written := hhidden ▸ hwritten
    read := ⟨t', ⟨_, prepare_eq h.expanded, hprepared ▸ hparse⟩, hsettles⟩
  }

theorem Retold.inKeyOrder_iff
    (h : TreeSettles s.schema s.styleOptions (s.renumbered slot names t) t')
    : InKeyOrder (s.comparators slot).1 (s.comparators slot).2 t'.root ↔
      s.InNewOrder slot names t :=
  ((sameKeys_renamed rfl _).trans_settles h.root).inKeyOrder_iff

theorem Retold.sortDocument (hlow : 0 ≤ slot) (hhigh : slot ≤ 3)
    (hlevels : s.settings.emptyLinesUntilLevel ≤ 0) (hoctal : s.settings.octal = false)
    (h : s.Retold slot names text t new) (horder : s.InNewOrder slot names t)
    (hquotes : ∀ p ∈ scalarsOf (s.renumbered slot names t), ¬ p.Misquoted s.schema s.styleOptions)
    : ∃ new', s.sortDocument new slot = .ok new' ∧ dropNewlines new' = dropNewlines new := by
  have hrereads := h.rereads hoctal
  rw [sortDocument_eq hlow hhigh]
  refine hrereads.transform_eq (fun _ => hlevels) (fun t' hread => ?_) hquotes
  obtain ⟨t'', hread', hsettles⟩ := hrereads.read
  obtain rfl := hread.unique hread'
  exact arrange_of_inKeyOrder hread ((inKeyOrder_iff hsettles).mpr horder)

/-- The template of a name. -/
def template (name : Text) : Text := "\x7b\x7b " ++ name ++ " \x7d\x7d"

/-- The line of a key and a value. -/
def pairLine (key value : Text) : Text := key ++ ": " ++ value ++ "\n"

/-- The lines of the document in their new order. -/
def reordered : Text := pairLine "a" (template "z") ++ pairLine (template "y") (template "x")

end Sorter
end YamlOrder
