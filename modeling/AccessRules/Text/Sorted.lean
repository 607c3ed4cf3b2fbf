/-!
# Sorted lists of texts

Lists of texts in the order of their code points, with every text at most once.
-/

namespace AccessRules.Text

/-- Puts a text into a sorted list unless it is there. -/
def insertText (s : String) : List String → List String
  | [] => [s]
  | t :: ts =>
    if s = t then t :: ts
    else if s < t then s :: t :: ts else t :: insertText s ts

/-- The distinct texts of a list in ascending order. -/
def sortTexts (xs : List String) : List String :=
  xs.foldr insertText []

theorem mem_insertText {s t : String} {xs : List String} :
    t ∈ insertText s xs ↔ t = s ∨ t ∈ xs := by
  induction xs with
  | nil => simp [insertText]
  | cons x xs ih =>
    rw [insertText]
    split
    · next h => simp [h]
    · split <;> simp [ih]
      grind

theorem mem_sortTexts {t : String} {xs : List String} :
    t ∈ sortTexts xs ↔ t ∈ xs := by
  induction xs with
  | nil => simp [sortTexts]
  | cons x xs ih =>
    have : sortTexts (x :: xs) = insertText x (sortTexts xs) := rfl
    rw [this, mem_insertText, ih, List.mem_cons]

theorem pairwise_insertText {s : String} {xs : List String}
    (h : xs.Pairwise (· < ·)) :
    (insertText s xs).Pairwise (· < ·) := by
  induction xs with
  | nil => simp [insertText]
  | cons t ts ih =>
    have ⟨ht, hts⟩ := List.pairwise_cons.mp h
    rw [insertText]
    split
    · exact h
    · next hne =>
      split
      · next hlt =>
        refine List.pairwise_cons.mpr ⟨?_, h⟩
        intro u hu
        rcases List.mem_cons.mp hu with rfl | hu
        · exact hlt
        · exact String.lt_trans hlt (ht u hu)
      · next hle =>
        have hgt : t < s := Classical.byContradiction fun hst =>
          hne (String.le_antisymm (String.not_lt.mp hst) (String.not_lt.mp hle))
        refine List.pairwise_cons.mpr ⟨?_, ih hts⟩
        intro u hu
        rcases mem_insertText.mp hu with rfl | hu
        · exact hgt
        · exact ht u hu

/-- No text stands twice in a sorted list. -/
theorem nodup_sortTexts (xs : List String) : (sortTexts xs).Nodup := by
  have hsorted : (sortTexts xs).Pairwise (· < ·) := by
    induction xs with
    | nil => exact .nil
    | cons x xs ih => exact pairwise_insertText ih
  refine hsorted.imp fun hlt heq => ?_
  exact String.lt_irrefl _ (heq ▸ hlt)

end AccessRules.Text
