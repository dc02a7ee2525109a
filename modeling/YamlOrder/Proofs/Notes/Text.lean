import Mathlib.Logic.Relation
import YamlOrder.Proofs.Layout.Transparent
import YamlOrder.Proofs.Notes.Run

/-!
This module contains comment lines that are added to a text outside of its scalars: they leave its
tree as it is.
-/

namespace YamlOrder
namespace Yaml

variable {p : Note} {start : Bool} {cs ds ds' : List Char}

theorem undirected_line (h : ∀ ch ∈ cs, isBreak ch = false)
    : undirected false (cs ++ ds) = undirected false ds := by
  induction cs with
  | nil => rfl
  | cons ch cs ih =>
    rw [List.forall_mem_cons] at h
    rw [List.cons_append, undirected, h.1, ih h.2, Bool.false_and, Bool.not_false, Bool.true_and]

theorem undirected_after_break (h : undirected true ds' = undirected true ds)
    : undirected start (cs ++ '\n' :: ds') = undirected start (cs ++ '\n' :: ds) := by
  induction cs generalizing start with
  | nil =>
    have hbreak : isBreak '\n' = true := rfl
    rw [List.nil_append, List.nil_append, undirected, undirected, hbreak, h]
  | cons ch cs ih => rw [List.cons_append, List.cons_append, undirected, undirected, ih]

namespace Note

/-- Whether the line is outside of the scalars of the stream. -/
def Apart (p : Note) : Prop :=
  ∀ a ∈ Scanner.passages (12 * p.chars.length + 64) { cursor := { rest := p.chars } },
    a.Spares p.before.length p.spaces

instance (p : Note) : Decidable p.Apart := inferInstanceAs (Decidable (∀ _ ∈ _, _))

theorem exists_added (p : Note)
    : ∃ ch u, p.added = ch :: u ++ p.ending ∧ (ch == '%') = false ∧
        ∀ c ∈ ch :: u, isBreak c = false := by
  have hplain : ∀ c ∈ List.replicate p.spaces ' ' ++ '#' :: p.content, isBreak c = false := by
    intro c hc
    rw [List.mem_append, List.mem_replicate, List.mem_cons] at hc
    obtain ⟨-, rfl⟩ | rfl | hc := hc
    . rfl
    . rfl
    . have := p.plain c hc
      rw [isBreakOrEnd, Bool.or_eq_false_iff] at this
      exact this.1
  have hadded : p.added = List.replicate p.spaces ' ' ++ '#' :: p.content ++ p.ending := by
    rw [added, List.append_assoc, List.cons_append]
  rw [hadded]
  cases hspaces : p.spaces with
  | zero =>
    rw [hspaces] at hplain
    exact ⟨'#', p.content, rfl, rfl, hplain⟩
  | succ n =>
    rw [hspaces] at hplain
    exact ⟨' ', List.replicate n ' ' ++ '#' :: p.content, rfl, rfl, hplain⟩

theorem undirected_extended (p : Note) : undirected true p.extended = undirected true p.chars := by
  have hending : undirected false (p.ending ++ p.behind) = undirected true p.behind := by
    unfold ending
    split
    . rfl
    . rfl
  have hadded : undirected true (p.added ++ p.behind) = undirected true p.behind := by
    obtain ⟨ch, u, hline, hch, hplain⟩ := p.exists_added
    rw [List.forall_mem_cons] at hplain
    rw [hline, List.append_assoc, List.cons_append, undirected, hch, hplain.1,
      undirected_line hplain.2, hending]
    rfl
  obtain hnil | ⟨w, hw⟩ := p.opens
  . rw [extended, chars, hnil, List.nil_append, List.nil_append, hadded]
  . rw [extended, chars, hw, List.append_assoc, List.append_assoc]
    exact undirected_after_break hadded

end Note

end Yaml

namespace Comment

open Layout (Readable readable_ofChars)
open Text (ofChars toChars)
open Yaml (Note Spacing isAllowed)

variable {text text' : Text} {schema : Schema} {t : Yaml.Tree} {p : Note}

/--
A text, and the same text with a comment line outside of its scalars, or with blank lines outside of
them.
-/
inductive Adds : Text → Text → Prop where
  | comment (p : Note) (allowed : ∀ c ∈ p.content, isAllowed c.toNat = true) (apart : p.Apart)
    : Adds (ofChars p.chars) (ofChars p.extended)
  | blanks (p : Spacing)
      (spares : ∀ i ∈ (Yaml.TokenStream.ofSource (Yaml.Source.ofText (ofChars p.chars))).items,
        p.Spares i.token)
    : Adds (ofChars p.chars) (ofChars (p.after 0))

/-- A text, and the same text with comment lines and blank lines outside of its scalars. -/
abbrev Annotates : Text → Text → Prop := Relation.ReflTransGen Adds

theorem isAllowed_of_mem_extended (hchars : ∀ c ∈ p.chars, isAllowed c.toNat = true)
    (hcontent : ∀ c ∈ p.content, isAllowed c.toNat = true)
    : ∀ c ∈ p.extended, isAllowed c.toNat = true := by
  have hending : ∀ c ∈ p.ending, isAllowed c.toNat = true := by
    unfold Note.ending
    split
    all_goals exact List.all_eq_true.mp (by decide)
  intro c hc
  simp only [Note.extended, Note.added, List.mem_append, List.mem_replicate, List.mem_cons] at hc
  obtain hc | (⟨-, rfl⟩ | rfl | hc | hc) | hc := hc
  . exact hchars c (List.mem_append_left _ hc)
  . decide
  . decide
  . exact hcontent c hc
  . exact hending c hc
  . exact hchars c (List.mem_append_right _ hc)

theorem Adds.readable (h : Adds text text') (htext : Readable text) : Readable text' := by
  cases h with
  | comment p hcontent hapart =>
    obtain ⟨hallowed, hmark, hfree⟩ := readable_ofChars.mp htext
    refine readable_ofChars.mpr ⟨isAllowed_of_mem_extended hallowed hcontent, ?_, ?_⟩
    . exact Note.head?_extended hmark
    . rwa [p.undirected_extended]
  | blanks p hspares => exact Layout.readable_after p htext

theorem Adds.exists_parse (h : Adds text text') (htext : Readable text)
    (ht : Yaml.Tree.parse text = .ok (some t))
    : ∃ t', Yaml.Tree.parse text' = .ok (some t') ∧ t'.root.bare = t.root.bare := by
  have htext' := h.readable htext
  cases h with
  | comment p hcontent hapart =>
    obtain ⟨-, hmark, hfree⟩ := readable_ofChars.mp htext
    obtain ⟨hallowed', hmark', -⟩ := readable_ofChars.mp htext'
    have hne : p.extended ≠ [] := by
      obtain ⟨ch, u, hadded, -⟩ := p.exists_added
      simp [Note.extended, hadded]
    obtain ⟨t', ht', htwin⟩ := Layout.exists_twin (q := True) htext hallowed' hne hmark'
      (fun front front' _ => by
        rw [Text.toChars_ofChars]
        exact p.ofSource_leads front front' hfree hmark hapart) ht
    exact ⟨t', ht', htwin.bare trivial⟩
  | blanks p hspares =>
    obtain ⟨t', ht', htwin⟩ := Layout.exists_twin_after p htext ht
    exact ⟨t', ht', htwin.bare hspares⟩

/-- Comment lines that are added outside of the scalars of a text leave its tree as it is. -/
theorem Annotates.keeps_tree (h : Annotates text text') (htext : Readable text)
    (ht : Yaml.Tree.parse text = .ok (some t))
    : Readable text' ∧
        ∃ t', Yaml.Tree.parse text' = .ok (some t') ∧ t'.root.bare = t.root.bare := by
  induction h with
  | refl => exact ⟨htext, t, ht, rfl⟩
  | tail _ hadds ih =>
    obtain ⟨htext, t', ht', hbare⟩ := ih
    obtain ⟨t'', ht'', hbare'⟩ := hadds.exists_parse htext ht'
    exact ⟨hadds.readable htext, t'', ht'', hbare'.trans hbare⟩

end Comment
end YamlOrder
