import AccessRules.Proofs.Text.Fold

/-!
# Upper-case texts

A text in upper case stays as it is when it is put in upper case again, whatever
it was before: the characters that letters become have no other upper-case form,
also where one letter becomes several of them.  A text does not become empty
either.
-/

namespace AccessRules.Text

/-! ## Runs of letters -/

theorem mapCase_eq_self {runs : List CaseRun} {n : Nat}
    (h : ∀ u ∈ runs, u.covers n = false) :
    mapCase runs n = n := by
  have hnone : runs.find? (·.covers n) = none := by
    rw [List.find?_eq_none]
    intro u hu
    rw [h u hu]
    exact Bool.false_ne_true
  rw [mapCase, hnone]

/-- Whether the images of a run are outside of another run: apart from it, or
between its letters. -/
def CaseRun.avoids (r u : CaseRun) : Bool :=
  !(r.image.ble u.last && u.first.ble (r.image + (r.last - r.first))) ||
    ((r.step % u.step).beq 0 || r.first.beq r.last) &&
      !(r.image % u.step).beq (u.first % u.step)

theorem CaseRun.covers_apply_eq_false {r u : CaseRun} {c : Nat}
    (h : r.avoids u = true) (hc : r.covers c = true) :
    u.covers (r.apply c) = false := by
  rw [covers_iff] at hc
  obtain ⟨hfirst, hlast, hstep⟩ := hc
  rw [Bool.eq_false_iff, ne_eq, covers_iff, apply]
  rintro ⟨hufirst, hulast, hustep⟩
  have hmeets : (r.image.ble u.last &&
      u.first.ble (r.image + (r.last - r.first))) = true := by
    rw [Bool.and_eq_true, Nat.ble_eq, Nat.ble_eq]
    omega
  rw [avoids, hmeets, Bool.not_true, Bool.false_or, Bool.and_eq_true,
    Bool.or_eq_true, Nat.beq_eq, Nat.beq_eq] at h
  obtain ⟨hsteps, hne⟩ := h
  have hmod : (c - r.first) % u.step = 0 := by
    rcases hsteps with hsteps | hsame
    · exact Nat.mod_eq_zero_of_dvd (Nat.dvd_trans
        (Nat.dvd_of_mod_eq_zero hsteps) (Nat.dvd_of_mod_eq_zero hstep))
    · have hzero : c - r.first = 0 := by omega
      rw [hzero, Nat.zero_mod]
  -- all letters of a run leave the same remainder, and so do all images of the
  -- other one
  have hsplit : r.image + (c - r.first) =
      u.first + (r.image + (c - r.first) - u.first) := by
    omega
  have hsame : r.image % u.step = u.first % u.step := by
    calc
      r.image % u.step = (r.image + (c - r.first)) % u.step := by
        rw [Nat.add_mod, hmod, Nat.add_zero, Nat.mod_mod]
      _ = (u.first + (r.image + (c - r.first) - u.first)) % u.step := by
        rw [← hsplit]
      _ = u.first % u.step := by
        rw [Nat.add_mod, hustep, Nat.add_zero, Nat.mod_mod]
  rw [hsame, Nat.beq_refl] at hne
  cases hne

/-! ## Characters -/

/-- Whether no table of letters has a code point. -/
def isUpperCode (n : Nat) : Bool :=
  (upperExpansions.all fun e => !n.beq e.1) &&
    upperRuns.all fun u => !u.covers n

theorem upperChar_of_isUpperCode {c : Char} (hc : isUpperCode c.toNat = true) :
    upperChar c = [c] := by
  rw [isUpperCode, Bool.and_eq_true, List.all_eq_true, List.all_eq_true] at hc
  obtain ⟨hexpansions, hruns⟩ := hc
  have hlookup : upperExpansions.lookup c.toNat = none := by
    rw [List.lookup_eq_none_iff]
    intro e he
    simpa [← Bool.not_eq_true, Nat.beq_eq] using hexpansions e he
  have hself : mapCase upperRuns c.toNat = c.toNat :=
    mapCase_eq_self fun u hu => by simpa using hruns u hu
  rw [upperChar, hlookup, hself, Char.ofNat_toNat]

/-- No table has what letters become in upper case: neither the null character,
nor the characters that a letter becomes several of, nor the images of a run. -/
theorem upperTables_closed :
    isUpperCode 0 = true ∧
      (∀ e ∈ upperExpansions, e.2 ≠ []) ∧
      (upperExpansions.flatMap (·.2)).all isUpperCode = true ∧
      (upperRuns.all fun r => upperRuns.all r.avoids) = true ∧
      (upperRuns.all fun r => upperExpansions.all fun e =>
        r.avoids ⟨e.1, e.1, 1, e.1⟩) = true := by
  refine ⟨?_, ?_, ?_, ?_, ?_⟩
  all_goals decide +kernel

/-- A number that stands for no character gives the null character, which has no
other form either. -/
theorem upperChar_ofNat {n : Nat} (hn : isUpperCode n = true) :
    upperChar (Char.ofNat n) = [Char.ofNat n] := by
  apply upperChar_of_isUpperCode
  by_cases hvalid : n.isValidChar
  · rwa [Char.ofNat, dif_pos hvalid]
  · rw [Char.ofNat, dif_neg hvalid]
    exact upperTables_closed.1

theorem isUpperCode_apply {r : CaseRun} {n : Nat} (hr : r ∈ upperRuns)
    (hn : r.covers n = true) :
    isUpperCode (r.apply n) = true := by
  obtain ⟨-, -, -, hruns, hexpansions⟩ := upperTables_closed
  have hruns := List.all_eq_true.mp (List.all_eq_true.mp hruns r hr)
  have hexpansions := List.all_eq_true.mp (List.all_eq_true.mp hexpansions r hr)
  rw [isUpperCode, Bool.and_eq_true, List.all_eq_true, List.all_eq_true]
  constructor
  · intro e he
    have hfalse := CaseRun.covers_apply_eq_false (hexpansions e he) hn
    rw [Bool.not_eq_true', Bool.eq_false_iff, ne_eq, Nat.beq_eq]
    intro heq
    rw [Bool.eq_false_iff, ne_eq, CaseRun.covers_iff] at hfalse
    exact hfalse ⟨Nat.le_of_eq heq.symm, Nat.le_of_eq heq, Nat.mod_one _⟩
  · intro u hu
    rw [CaseRun.covers_apply_eq_false (hruns u hu) hn]
    rfl

/-- Every character of an upper-case form is its own upper-case form. -/
theorem upperChar_of_mem_upperChar {c d : Char} (hd : d ∈ upperChar c) :
    upperChar d = [d] := by
  rw [upperChar] at hd
  cases hlookup : upperExpansions.lookup c.toNat with
  | some codes =>
    obtain ⟨l, l', hl, -⟩ := List.lookup_eq_some_iff.mp hlookup
    have hmem : (c.toNat, codes) ∈ upperExpansions := by simp [hl]
    rw [hlookup] at hd
    obtain ⟨n, hn, rfl⟩ := List.mem_map.mp hd
    exact upperChar_ofNat (List.all_eq_true.mp upperTables_closed.2.2.1 n
      (List.mem_flatMap.mpr ⟨_, hmem, hn⟩))
  | none =>
    rw [hlookup, List.mem_singleton] at hd
    cases hfind : upperRuns.find? (·.covers c.toNat) with
    | none =>
      obtain rfl : d = c := by rw [hd, mapCase, hfind, Char.ofNat_toNat]
      rw [upperChar, hlookup, ← hd]
    | some r =>
      rw [hd, mapCase, hfind]
      exact upperChar_ofNat (isUpperCode_apply (List.mem_of_find?_eq_some hfind)
        (by simpa using List.find?_some hfind))

theorem upperChar_ne_nil (c : Char) : upperChar c ≠ [] := by
  rw [upperChar]
  cases hlookup : upperExpansions.lookup c.toNat with
  | some codes =>
    obtain ⟨l, l', hl, -⟩ := List.lookup_eq_some_iff.mp hlookup
    have hmem : (c.toNat, codes) ∈ upperExpansions := by simp [hl]
    simpa using upperTables_closed.2.1 _ hmem
  | none => exact List.cons_ne_nil _ _

/-! ## Texts -/

/-- Putting a text in upper case twice is the same as doing it once. -/
theorem upper_upper (s : String) : upper (upper s) = upper s := by
  rw [upper, upper, String.toList_ofList, List.flatMap_assoc]
  congr 1
  apply List.flatMap_congr
  intro c _
  calc
    (upperChar c).flatMap upperChar = (upperChar c).flatMap fun d => [d] :=
      List.flatMap_congr fun d hd => upperChar_of_mem_upperChar hd
    _ = upperChar c := by simp

theorem upper_eq_empty_iff {s : String} : upper s = "" ↔ s = "" := by
  rw [upper, ← String.toList_inj, ← String.toList_inj, String.toList_ofList,
    String.toList_empty, List.flatMap_eq_nil_iff]
  constructor
  · intro h
    cases hs : s.toList with
    | nil => rfl
    | cons c cs => exact absurd (h c (by simp [hs])) (upperChar_ne_nil c)
  · intro h c hc
    rw [h] at hc
    cases hc

end AccessRules.Text
