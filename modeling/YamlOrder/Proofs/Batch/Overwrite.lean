import YamlOrder.FileTree

/-!
This module contains what becomes of a tree of files when one of them gets a new content: every path
leads where it has led before, and only that file is another one.
-/

namespace YamlOrder
namespace FileTree

variable {t : FileTree} {r r' : Route} {path content new : Text} {e : Entry}

theorem map_fst_putFile {fs : List (Route × Text)} (h : (fs.lookup r).isSome = true)
    (content : Text)
    : (putFile r content fs).map (·.1) = fs.map (·.1) := by
  induction fs with
  | nil => simp at h
  | cons f fs ih =>
    rw [putFile]
    split
    . next heq => simp [eq_of_beq heq]
    . next hne =>
      rw [List.lookup_cons] at h
      simp only [Bool.not_eq_true] at hne
      rw [hne] at h
      simp [ih h]

theorem lookup_putFile_of_ne (h : r' ≠ r) (content : Text) (fs : List (Route × Text))
    : (putFile r content fs).lookup r' = fs.lookup r' := by
  have hother : (r' == r) = false := by simp [h]
  induction fs with
  | nil => rw [putFile, List.lookup_cons, hother]
  | cons f fs ih =>
    rw [putFile]
    split
    . next heq =>
      have hsame : r = f.1 := eq_of_beq heq
      rw [List.lookup_cons, List.lookup_cons, ← hsame, hother]
    . rw [List.lookup_cons, List.lookup_cons, ih]

theorem entryAt?_eq_file : t.entryAt? r = some (.file content) ↔
    t.files.lookup r = some content := by
  unfold entryAt?
  split
  . next hlookup => simp [hlookup]
  . next hlookup =>
    rw [hlookup]
    split
    all_goals simp

theorem entryAt?_put_of_ne (h : t.entryAt? r = some (.file content)) (hne : r' ≠ r) (new : Text)
    : (t.put r new).entryAt? r' = t.entryAt? r' := by
  have hsome : (t.files.lookup r).isSome = true := by simp [entryAt?_eq_file.mp h]
  have hany : (t.put r new).files.any (r'.isPrefixOf ·.1) = t.files.any (r'.isPrefixOf ·.1) := by
    have hany_map : ∀ fs : List (Route × Text),
        fs.any (r'.isPrefixOf ·.1) = (fs.map (·.1)).any r'.isPrefixOf := by
          simp [List.any_map, Function.comp_def]
    rw [hany_map, hany_map, put, map_fst_putFile hsome]
  simp only [entryAt?, hany]
  simp only [put, lookup_putFile_of_ne hne]
  rfl

theorem entryAt?_of_follow {start : Route} {ns : List Text} (h : t.follow start ns = .ok (r, e))
    : t.entryAt? r = some e := by
  induction ns generalizing start with
  | nil =>
    rw [follow] at h
    split at h
    . next hentry =>
      cases h
      exact hentry
    . cases h
  | cons name ns ih =>
    rw [follow] at h
    split at h
    . cases h
    . cases h
    . split at h
      . cases h
      . split at h
        . exact ih h
        . split at h
          . exact ih h
          . exact ih h

theorem follow_put {start : Route} {ns : List Text} {e' : Entry}
    (hfile : t.entryAt? r = some (.file content)) (h : t.follow start ns = .ok (r', e))
    (hentry : (t.put r new).entryAt? r' = some e')
    : (t.put r new).follow start ns = .ok (r', e') := by
  induction ns generalizing start with
  | nil =>
    have hstart : start = r' := by
      rw [follow] at h
      split at h
      . cases h
        rfl
      . cases h
    rw [follow, hstart, hentry]
  | cons name ns ih =>
    rw [follow] at h
    split at h
    . cases h
    . cases h
    . next hdirectory =>
      have hne : start ≠ r := by
        rintro rfl
        rw [hfile] at hdirectory
        cases hdirectory
      have hsame : (t.put r new).entryAt? start = some .directory :=
        (entryAt?_put_of_ne hfile hne new).trans hdirectory
      rw [follow, hsame]
      dsimp only
      split at h
      . cases h
      . next hlength =>
        rw [if_neg hlength]
        split at h
        . next hskip =>
          rw [if_pos hskip]
          exact ih h
        . next hskip =>
          rw [if_neg hskip]
          split at h
          . next hup =>
            rw [if_pos hup]
            exact ih h
          . next hup =>
            rw [if_neg hup]
            exact ih h

theorem find_eq_follow {x : Route × Entry} (h : t.find path = .ok x) (t' : FileTree)
    : t'.find path = t'.follow (t'.start path) (names path) := by
  unfold find at h ⊢
  split at h
  . cases h
  . next hzero =>
    rw [if_neg hzero]
    split at h
    . cases h
    . next hlength =>
      rw [if_neg hlength]
      split at h
      . cases h
      . next hpath => rw [if_neg hpath]

theorem entryAt?_of_find (h : t.find path = .ok (r, e)) : t.entryAt? r = some e := by
  exact entryAt?_of_follow ((find_eq_follow h t).symm.trans h)

theorem find_put {e' : Entry} (hfile : t.entryAt? r = some (.file content))
    (h : t.find path = .ok (r', e)) (hentry : (t.put r new).entryAt? r' = some e')
    : (t.put r new).find path = .ok (r', e') := by
  rw [find_eq_follow h]
  exact follow_put hfile ((find_eq_follow h t).symm.trans h) hentry

theorem find_put_of_ne {other : Text} (hfile : t.entryAt? r = some (.file content))
    (h : t.find path = .ok (r', .file other)) (hne : r' ≠ r) (new : Text)
    : (t.put r new).find path = .ok (r', .file other) :=
  find_put hfile h ((entryAt?_put_of_ne hfile hne new).trans (entryAt?_of_find h))

theorem write_of_find (h : t.find path = .ok (r, .file content)) (new : Text)
    : t.write path new = .ok (t.put r new) := by
  rw [write, place, h]
  rfl

theorem read_of_find (h : t.find path = .ok (r, .file content)) : t.read path = .ok content := by
  rw [read, h]

end FileTree
end YamlOrder
