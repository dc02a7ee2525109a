import YamlOrder.Proofs.Sorter.Rerun
import YamlOrder.Proofs.Tree.Repair

/-!
This module contains when the new text of a buffer stays as it is in a second run: exactly if the
first run left no scalar with quotes that are not the configured ones, provided that every document
is read as it was laid out.
-/

namespace YamlOrder
namespace Sorter

open YamlOrder.Tree (TreeSettles scalarsOf)
open Document (Separable)
open Text (dropNewlines)

variable {s : Sorter} {text out : Text} {t : Yaml.Tree} {d e : Document}

theorem Follows.formatDocument (h : s.Follows (fun _ => s.Rereads) d e)
    (hquotes : Text.isBlank d.text = false → ∀ t, s.Reads d.text t →
      ∀ p ∈ scalarsOf t, ¬ p.Misquoted s.schema s.styleOptions)
    : ∃ new, s.formatDocument e.text = .ok new ∧ dropNewlines new = dropNewlines e.text := by
  unfold Follows at h
  split at h
  . exact ⟨e.text, transform_of_isBlank none h, rfl⟩
  . next hblank =>
    obtain ⟨t, hread, hrereads⟩ := h
    exact hrereads.transform_eq (by simp) (fun _ _ => rfl) (hquotes (by simpa using hblank) t hread)

theorem Follows.not_misquoted (h : s.Follows (fun _ => s.Rereads) d e)
    (hagain : s.Follows (fun _ => s.Rereads) e e) (hblank : Text.isBlank d.text = false)
    (hread : s.Reads d.text t)
    : ∀ p ∈ scalarsOf t, ¬ p.Misquoted s.schema s.styleOptions := by
  rw [Follows, hblank] at h
  obtain ⟨t₀, hread₀, hrereads⟩ := h
  obtain rfl := hread.unique hread₀
  rw [Follows, hrereads.nonblank] at hagain
  obtain ⟨t₁, hread₁, hagain⟩ := hagain
  obtain ⟨t', hread', hsettles⟩ := hrereads.read
  obtain ⟨t'', hread'', hsettles'⟩ := hagain.read
  obtain rfl := hread'.unique hread₁
  obtain rfl := hread'.unique hread''
  exact hsettles.root.not_misquoted hsettles'.root

/-- A document of a quoted string and of a sequence that is hidden, and its new text. -/
def listing (quote : Text) : Text := "a: " ++ quote ++ "x" ++ quote ++ "\nb: [1,  2]\n"

end Sorter
end YamlOrder
