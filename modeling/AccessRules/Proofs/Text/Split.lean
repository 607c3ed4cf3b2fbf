import AccessRules.Text.Split
import Mathlib.Data.List.Basic

/-!
# The pieces of a text

Cutting a text undoes joining pieces in which the separator does not occur.  The
first piece is what stands in front of the first separator, and no piece has a
separator in it.
-/

namespace AccessRules.Text

variable {sep : Char}

/-- The first piece is what stands in front of the first separator. -/
theorem exists_splitAt_eq_cons (sep : Char) (cs : List Char) :
    ∃ pieces, splitAt sep cs = cs.takeWhile (· ≠ sep) :: pieces := by
  induction cs with
  | nil => exact ⟨[], rfl⟩
  | cons c cs ih =>
    rw [splitAt]
    by_cases hc : c = sep
    · rw [if_pos hc]
      exact ⟨splitAt sep cs, by simp [hc]⟩
    · obtain ⟨pieces, hpieces⟩ := ih
      rw [if_neg hc, hpieces]
      exact ⟨pieces, by simp [hc]⟩

/-- The pieces of a text in two parts with a separator between them. -/
theorem splitAt_append_cons (sep : Char) (cs ds : List Char) :
    splitAt sep (cs ++ sep :: ds) = splitAt sep cs ++ splitAt sep ds := by
  induction cs with
  | nil => simp [splitAt]
  | cons c cs ih =>
    rw [List.cons_append, splitAt, splitAt, ih]
    by_cases hc : c = sep
    · rw [if_pos hc, if_pos hc, List.cons_append]
    · rw [if_neg hc, if_neg hc]
      cases hcs : splitAt sep cs with
      | nil => exact absurd hcs (splitAt_ne_nil sep cs)
      | cons piece pieces => rfl

theorem notMem_of_mem_splitAt {cs piece : List Char}
    (h : piece ∈ splitAt sep cs) :
    sep ∉ piece := by
  induction cs generalizing piece with
  | nil =>
    obtain rfl : piece = [] := by simpa [splitAt] using h
    exact List.not_mem_nil
  | cons c cs ih =>
    rw [splitAt] at h
    by_cases hc : c = sep
    · rw [if_pos hc, List.mem_cons] at h
      rcases h with rfl | h
      · exact List.not_mem_nil
      · exact ih h
    · obtain ⟨pieces, hpieces⟩ := exists_splitAt_eq_cons sep cs
      rw [if_neg hc, hpieces] at h
      rw [hpieces] at ih
      rcases List.mem_cons.mp h with rfl | h
      · rw [List.mem_cons, not_or]
        exact ⟨Ne.symm hc, ih List.mem_cons_self⟩
      · exact ih (List.mem_cons_of_mem _ h)

theorem splitAt_joinWith {pieces : List (List Char)} (hne : pieces ≠ [])
    (hpieces : ∀ piece ∈ pieces, sep ∉ piece) :
    splitAt sep (joinWith sep pieces) = pieces := by
  induction pieces with
  | nil => exact absurd rfl hne
  | cons piece pieces ih =>
    rw [List.forall_mem_cons] at hpieces
    by_cases hnil : pieces = []
    · rw [hnil, joinWith, splitAt_of_notMem hpieces.1]
    · obtain ⟨next, rest, rfl⟩ := List.exists_cons_of_ne_nil hnil
      rw [joinWith, splitAt_append_sep hpieces.1, ih hnil hpieces.2]

/-- A joined text has the separator and the characters of its pieces. -/
theorem mem_joinWith {pieces : List (List Char)} {c : Char}
    (h : c ∈ joinWith sep pieces) :
    c = sep ∨ ∃ piece ∈ pieces, c ∈ piece := by
  induction pieces with
  | nil => exact absurd h List.not_mem_nil
  | cons piece pieces ih =>
    by_cases hnil : pieces = []
    · rw [hnil, joinWith] at h
      exact Or.inr ⟨piece, List.mem_cons_self, h⟩
    · obtain ⟨next, rest, rfl⟩ := List.exists_cons_of_ne_nil hnil
      rw [joinWith, List.mem_append, List.mem_cons] at h
      rcases h with h | h | h
      · exact Or.inr ⟨piece, List.mem_cons_self, h⟩
      · exact Or.inl h
      · rcases ih h with h | ⟨other, hother, h⟩
        · exact Or.inl h
        · exact Or.inr ⟨other, List.mem_cons_of_mem piece hother, h⟩

theorem mem_joinWith_of_mem {pieces : List (List Char)} {piece : List Char}
    {c : Char} (hpiece : piece ∈ pieces) (hc : c ∈ piece) :
    c ∈ joinWith sep pieces := by
  induction pieces with
  | nil => exact absurd hpiece List.not_mem_nil
  | cons first pieces ih =>
    by_cases hnil : pieces = []
    · subst hnil
      rw [joinWith, ← List.mem_singleton.mp hpiece]
      exact hc
    · obtain ⟨next, rest, rfl⟩ := List.exists_cons_of_ne_nil hnil
      rw [joinWith, List.mem_append, List.mem_cons]
      rcases List.mem_cons.mp hpiece with rfl | hpiece
      · exact Or.inl hc
      · exact Or.inr (Or.inr (ih hpiece))

theorem mem_of_mem_splitAt {cs piece : List Char} {c : Char}
    (hpiece : piece ∈ splitAt sep cs) (hc : c ∈ piece) :
    c ∈ cs := by
  rw [← joinWith_splitAt sep cs]
  exact mem_joinWith_of_mem hpiece hc

/-- The characters of a text are separators and the characters of its pieces. -/
theorem eq_sep_or_mem_splitAt (sep : Char) {cs : List Char} {c : Char}
    (h : c ∈ cs) :
    c = sep ∨ ∃ piece ∈ splitAt sep cs, c ∈ piece := by
  rw [← joinWith_splitAt sep cs] at h
  exact mem_joinWith h

end AccessRules.Text
