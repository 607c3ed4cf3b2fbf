import AccessRules.Text.Fold
import Mathlib.Data.List.Basic

/-!
# Equality of letters up to case

The lower-case letters that count as the same letter are a letter and its
companions.  The least of them stands for all of them, so letters that are equal
up to case are letters with the same least one.

A code point that has no letter case is the same letter as itself only.  For
this, the lower-case letter of another code point must have a capital, which the
tables of letters decide.
-/

namespace AccessRules.Text

/-! ## Capitals of lower-case letters -/

theorem CaseRun.covers_iff {r : CaseRun} {c : Nat} :
    r.covers c = true ↔
      r.first ≤ c ∧ c ≤ r.last ∧ (c - r.first) % r.step = 0 := by
  simp [covers, and_assoc]

/-- Whether another run covers the images of a run. -/
def CaseRun.covered (r u : CaseRun) : Bool :=
  u.first.ble r.image && (r.image + (r.last - r.first)).ble u.last &&
    ((r.image - u.first) % u.step).beq 0 &&
      ((r.step % u.step).beq 0 || r.first.beq r.last)

theorem CaseRun.covers_apply {r u : CaseRun} {c : Nat}
    (h : r.covered u = true) (hc : r.covers c = true) :
    u.covers (r.apply c) = true := by
  rw [covers_iff] at hc
  obtain ⟨hfirst, hlast, hstep⟩ := hc
  simp only [covered, Bool.and_eq_true, Bool.or_eq_true, Nat.ble_eq,
    Nat.beq_eq] at h
  obtain ⟨⟨⟨hufirst, hulast⟩, himage⟩, hsteps⟩ := h
  have hmod : (c - r.first) % u.step = 0 := by
    rcases hsteps with hsteps | hsame
    · exact Nat.mod_eq_zero_of_dvd (Nat.dvd_trans
        (Nat.dvd_of_mod_eq_zero hsteps) (Nat.dvd_of_mod_eq_zero hstep))
    · have hzero : c - r.first = 0 := by omega
      rw [hzero, Nat.zero_mod]
  have hsplit : r.apply c - u.first = r.image - u.first + (c - r.first) := by
    rw [apply]
    omega
  rw [covers_iff, hsplit]
  refine ⟨by rw [apply]; omega, by rw [apply]; omega, ?_⟩
  exact Nat.mod_eq_zero_of_dvd (Nat.dvd_add (Nat.dvd_of_mod_eq_zero himage)
    (Nat.dvd_of_mod_eq_zero hmod))

/-- A run whose images are at a distance from their letters changes the letters
that it covers. -/
theorem mapCase_ne {runs : List CaseRun} {c : Nat}
    (hruns : ∀ r ∈ runs, r.first ≠ r.image)
    (hc : ∃ r ∈ runs, r.covers c = true) :
    mapCase runs c ≠ c := by
  rw [← List.find?_isSome] at hc
  obtain ⟨r, hr⟩ := Option.isSome_iff_exists.mp hc
  have hne := hruns r (List.mem_of_find?_eq_some hr)
  have hcovers := List.find?_some hr
  rw [CaseRun.covers_iff] at hcovers
  rw [mapCase, hr]
  change r.image + (c - r.first) ≠ c
  omega

theorem exists_covers_of_mapCase_ne {runs : List CaseRun} {c : Nat}
    (h : mapCase runs c ≠ c) :
    ∃ r ∈ runs, r.covers c = true ∧ mapCase runs c = r.apply c := by
  cases hr : runs.find? (·.covers c) with
  | none =>
    rw [mapCase, hr] at h
    exact absurd rfl h
  | some r =>
    refine ⟨r, List.mem_of_find?_eq_some hr, by simpa using List.find?_some hr,
      ?_⟩
    rw [mapCase, hr]

/-- All letters in the tables of capitals change. -/
theorem upperTables_ne :
    (∀ r ∈ upperRuns, r.first ≠ r.image) ∧
      ∀ e ∈ upperExpansions, e.2.head? ≠ some e.1 := by
  decide +kernel

theorem upperCode_ne {c : Nat} (hc : ∃ r ∈ upperRuns, r.covers c = true) :
    upperCode c ≠ c := by
  obtain ⟨hruns, hexpansions⟩ := upperTables_ne
  unfold upperCode
  split
  · next first rest hlookup =>
    obtain ⟨l, l', hl, -⟩ := List.lookup_eq_some_iff.mp hlookup
    have hmem : (c, first :: rest) ∈ upperExpansions := by
      rw [hl]
      exact List.mem_append_right _ List.mem_cons_self
    simpa using hexpansions _ hmem
  · exact mapCase_ne hruns hc

/-- The images of a run of the table of lower-case letters have capitals.  Most
runs are the images of one run of capitals. -/
theorem capitals_lowerRuns :
    ∀ r ∈ lowerRuns, upperRuns.any r.covered ∨
      ∀ i ∈ List.range (r.last - r.first + 1),
        upperCode (r.image + i) ≠ r.image + i ∨ i % r.step ≠ 0 := by
  decide +kernel

/-- The lower-case letter of a code point that is another one has a capital. -/
theorem isCased_lowerCode {c : Nat} (h : lowerCode c ≠ c) :
    isCased (lowerCode c) = true := by
  obtain ⟨r, hr, hcovers, happly⟩ := exists_covers_of_mapCase_ne h
  have hupper : upperCode (lowerCode c) ≠ lowerCode c := by
    rw [lowerCode, happly]
    rcases capitals_lowerRuns r hr with hcovered | hpoints
    · obtain ⟨u, hu, hcovered⟩ := List.any_eq_true.mp hcovered
      exact upperCode_ne ⟨u, hu, CaseRun.covers_apply hcovered hcovers⟩
    · obtain ⟨hfirst, hlast, hstep⟩ := CaseRun.covers_iff.mp hcovers
      have hrange : c - r.first ∈ List.range (r.last - r.first + 1) := by
        rw [List.mem_range]
        omega
      exact (hpoints _ hrange).resolve_right (not_not_intro hstep)
  simp [isCased, hupper]

/-! ## Companions -/

/-- The least of a lower-case letter and its companions. -/
def leastCompanion (d : Nat) : Nat :=
  (companions d).foldl min d

/-- The letter that stands for all code points that are the same letter up to
case. -/
def foldCode (c : Nat) : Nat :=
  leastCompanion (lowerCode c)

theorem mem_companionTable {d : Nat} (h : companionTable.lookup d ≠ none) :
    (d, companions d) ∈ companionTable := by
  obtain ⟨ds, hds⟩ := Option.ne_none_iff_exists'.mp h
  obtain ⟨l, l', hl, -⟩ := List.lookup_eq_some_iff.mp hds
  rw [companions, hds, hl]
  exact List.mem_append_right _ List.mem_cons_self

theorem companions_eq_nil {d : Nat} (h : companionTable.lookup d = none) :
    companions d = [] := by
  rw [companions, h]
  rfl

theorem leastCompanion_eq_self {d : Nat}
    (h : companionTable.lookup d = none) :
    leastCompanion d = d := by
  rw [leastCompanion, companions_eq_nil h, List.foldl_nil]

/-- Companions are listed for each other, and have letter case. -/
theorem companionTable_closed :
    ∀ e ∈ companionTable,
      companionTable.lookup (e.2.foldl min e.1) ≠ none ∧
        (∀ d ∈ e.1 :: e.2, companionTable.lookup d ≠ none) ∧
        (∀ e' ∈ companionTable,
          (e'.1 ∈ e.1 :: e.2 ↔ e.2.foldl min e.1 = e'.2.foldl min e'.1)) ∧
        isCased e.1 = true := by
  decide +kernel

theorem lookup_leastCompanion {d : Nat}
    (h : companionTable.lookup d ≠ none) :
    companionTable.lookup (leastCompanion d) ≠ none :=
  (companionTable_closed _ (mem_companionTable h)).1

/-- Two lower-case letters are companions if the least letter among their
companions is the same. -/
theorem mem_companions_iff {d e : Nat} :
    e ∈ d :: companions d ↔ leastCompanion d = leastCompanion e := by
  by_cases hd : companionTable.lookup d = none
  · rw [companions_eq_nil hd, List.mem_singleton, leastCompanion_eq_self hd]
    by_cases he : companionTable.lookup e = none
    · rw [leastCompanion_eq_self he, eq_comm]
    · constructor
      · rintro rfl
        exact absurd hd he
      · rintro rfl
        exact absurd hd (lookup_leastCompanion he)
  · by_cases he : companionTable.lookup e = none
    · rw [leastCompanion_eq_self he]
      constructor
      · intro hmem
        exact absurd he
          ((companionTable_closed _ (mem_companionTable hd)).2.1 e hmem)
      · rintro rfl
        exact absurd he (lookup_leastCompanion hd)
    · exact (companionTable_closed _ (mem_companionTable hd)).2.2.1 _
        (mem_companionTable he)

theorem lowerCode_mem_foldClass_iff {c d : Nat} :
    lowerCode d ∈ foldClass c ↔ foldCode c = foldCode d :=
  mem_companions_iff

/-! ## Code points without case -/

theorem isCased_of_lookup {d : Nat} (h : companionTable.lookup d ≠ none) :
    isCased d = true :=
  (companionTable_closed _ (mem_companionTable h)).2.2.2

theorem lowerCode_eq_self {c : Nat} (h : isCased c = false) :
    lowerCode c = c := by
  by_contra hne
  simp [isCased, hne] at h

theorem lookup_eq_none {c : Nat} (h : isCased c = false) :
    companionTable.lookup c = none := by
  by_contra hne
  rw [isCased_of_lookup hne] at h
  cases h

/-- A code point without case is the same letter as itself only. -/
theorem foldCode_eq_iff {c d : Nat} (h : isCased c = false) :
    foldCode c = foldCode d ↔ c = d := by
  have hself : foldCode c = c := by
    rw [foldCode, lowerCode_eq_self h,
      leastCompanion_eq_self (lookup_eq_none h)]
  constructor
  · intro heq
    rw [hself] at heq
    by_contra hne
    have hcased : isCased (foldCode d) = true := by
      by_cases hd : companionTable.lookup (lowerCode d) = none
      · rw [foldCode, leastCompanion_eq_self hd] at heq ⊢
        apply isCased_lowerCode
        intro hlower
        exact hne (heq.trans hlower)
      · exact isCased_of_lookup (lookup_leastCompanion hd)
    rw [← heq, h] at hcased
    cases hcased
  · exact congrArg foldCode

end AccessRules.Text
