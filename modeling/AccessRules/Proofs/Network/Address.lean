import AccessRules.Network.Address
import AccessRules.Proofs.Text.Numeral
import AccessRules.Proofs.Text.Split
import Mathlib.Data.List.Forall2
import Mathlib.Tactic.SplitIfs

/-!
# The numbers of addresses

The number that an address is read as has no more bits than the addresses of its
version.  No text is an address of both versions: the numbers of an address of
version 4 have points between them, and those of version 6 have colons.
-/

namespace AccessRules.Network

/-- A reader of all members of a list reads each of them. -/
theorem mapM_eq_some_iff {α β : Type} {f : α → Option β} {xs : List α}
    {ys : List β} :
    xs.mapM f = some ys ↔ List.Forall₂ (fun x y => f x = some y) xs ys := by
  induction xs generalizing ys with
  | nil => simp [eq_comm]
  | cons x xs ih =>
    rw [List.mapM_cons, List.forall₂_cons_left_iff]
    simp only [Option.bind_eq_bind, Option.bind_eq_some_iff, Option.pure_def,
      Option.some.injEq, ih]
    constructor
    · rintro ⟨y, hy, ys, hys, rfl⟩
      exact ⟨y, ys, hy, hys, rfl⟩
    · rintro ⟨y, ys, hy, hys, rfl⟩
      exact ⟨y, hy, ys, hys, rfl⟩

theorem forall_mem_of_mapM {α β : Type} {f : α → Option β} {p : β → Prop}
    {xs : List α} {ys : List β} (h : xs.mapM f = some ys)
    (hf : ∀ x y, f x = some y → p y) :
    ∀ y ∈ ys, p y := by
  rw [mapM_eq_some_iff] at h
  induction h with
  | nil => simp
  | cons hx _ ih => exact List.forall_mem_cons.mpr ⟨hf _ _ hx, ih⟩

theorem isSome_of_mapM {α β : Type} {f : α → Option β} {xs : List α}
    {ys : List β} (h : xs.mapM f = some ys) :
    ∀ x ∈ xs, ∃ y, f x = some y := by
  rw [mapM_eq_some_iff] at h
  induction h with
  | nil => simp
  | cons hx _ ih => exact List.forall_mem_cons.mpr ⟨⟨_, hx⟩, ih⟩

theorem assemble_lt_pow {base : Nat} {ds : List Nat} (hbase : 1 < base)
    (hds : ∀ d ∈ ds, d < base) :
    assemble base ds < base ^ ds.length :=
  Text.foldl_lt_pow hbase hds

/-! ## Version 4 -/

theorem octet?_eq_some {cs : List Char} {n : Nat} (h : octet? cs = some n) :
    (∀ c ∈ cs, c.isDigit = true) ∧ n < 256 := by
  rw [octet?] at h
  split_ifs at h with hcs
  obtain rfl := Option.some.inj h
  exact ⟨List.all_eq_true.mp hcs.1, hcs.2.2.2.2⟩

theorem v4Value?_eq_some_iff {cs : List Char} {n : Nat} :
    v4Value? cs = some n ↔
      ∃ a b c d, (Text.splitAt '.' cs).mapM octet? = some [a, b, c, d] ∧
        n = assemble 256 [a, b, c, d] := by
  constructor
  · intro h
    unfold v4Value? at h
    split at h
    · next a b c d hds => exact ⟨a, b, c, d, hds, (Option.some.inj h).symm⟩
    · cases h
  · rintro ⟨a, b, c, d, hds, rfl⟩
    rw [v4Value?, hds]

theorem v4Value?_lt {cs : List Char} {n : Nat} (h : v4Value? cs = some n) :
    n < 2 ^ 32 := by
  obtain ⟨a, b, c, d, hds, rfl⟩ := v4Value?_eq_some_iff.mp h
  have hlt : ∀ e ∈ [a, b, c, d], e < 256 :=
    forall_mem_of_mapM hds fun _ _ he => (octet?_eq_some he).2
  have hvalue : assemble 256 [a, b, c, d] < 256 ^ 4 :=
    assemble_lt_pow (by decide) hlt
  exact hvalue

/-- The text of an address of version 4 has digits and points only. -/
theorem eq_point_or_isDigit_of_v4Value? {cs : List Char} {n : Nat}
    (h : v4Value? cs = some n) {c : Char} (hc : c ∈ cs) :
    c = '.' ∨ c.isDigit = true := by
  obtain ⟨_, _, _, _, hds, -⟩ := v4Value?_eq_some_iff.mp h
  rcases Text.eq_sep_or_mem_splitAt '.' hc with hc | ⟨piece, hpiece, hc⟩
  · exact Or.inl hc
  · obtain ⟨e, he⟩ := isSome_of_mapM hds piece hpiece
    exact Or.inr ((octet?_eq_some he).1 c hc)

/-! ## Version 6 -/

theorem group?_eq_some {cs : List Char} {g : Nat} (h : group? cs = some g) :
    (∀ c ∈ cs, Text.isHexDigit c = true) ∧ g < 65536 := by
  rw [group?] at h
  split_ifs at h with hcs
  obtain rfl := Option.some.inj h
  obtain ⟨hhex, -, hlength⟩ := hcs
  rw [List.all_eq_true] at hhex
  refine ⟨hhex, ?_⟩
  calc
    Text.ofDigits 16 cs < 16 ^ cs.length :=
      Text.ofDigits_lt_pow (by decide) fun c hc =>
        Text.digitOf_lt_of_isHexDigit (hhex c hc)
    _ ≤ 16 ^ 4 := Nat.pow_le_pow_right (by decide) hlength

theorem lt_of_mapM_group? {pieces : List (List Char)} {gs : List Nat}
    (h : pieces.mapM group? = some gs) :
    ∀ g ∈ gs, g < 65536 :=
  forall_mem_of_mapM h fun _ _ hg => (group?_eq_some hg).2

theorem lt_of_side? {pieces : List (List Char)} {gs : List Nat}
    (h : side? pieces = some gs) :
    ∀ g ∈ gs, g < 65536 := by
  rw [side?] at h
  split_ifs at h with hgap
  · obtain rfl := Option.some.inj h
    simp
  · exact lt_of_mapM_group? h

/-- An address of version 6 has eight groups, also where some are left out. -/
theorem groups?_eq_some {pieces : List (List Char)} {gs : List Nat}
    (h : groups? pieces = some gs) :
    gs.length = 8 ∧ ∀ g ∈ gs, g < 65536 := by
  unfold groups? at h
  split at h
  · split_ifs at h with hlength
    have hsame := (mapM_eq_some_iff.mp h).length_eq
    exact ⟨hsame ▸ hlength, lt_of_mapM_group? h⟩
  · next i hgap =>
    split at h
    · next high low hhigh hlow =>
      split_ifs at h with hshort
      obtain rfl := Option.some.inj h
      constructor
      · simp only [List.length_append, List.length_replicate]
        omega
      · intro g hg
        rw [List.mem_append, List.mem_append] at hg
        rcases hg with (hg | hg) | hg
        · exact lt_of_side? hhigh g hg
        · rw [List.eq_of_mem_replicate hg]
          decide
        · exact lt_of_side? hlow g hg
    · cases h
  · cases h

theorem v6Value?_lt {cs : List Char} {n : Nat} (h : v6Value? cs = some n) :
    n < 2 ^ 128 := by
  rw [v6Value?] at h
  split_ifs at h with hshort
  split at h
  · next pieces hpieces =>
    obtain ⟨gs, hgs, rfl⟩ := Option.map_eq_some_iff.mp h
    obtain ⟨hlength, hlt⟩ := groups?_eq_some hgs
    have hvalue := assemble_lt_pow (by decide) hlt
    rw [hlength] at hvalue
    exact hvalue
  · cases h

/-! ## Both versions -/

theorem v4?_eq_some_iff {cs : List Char} {a : Address} :
    v4? cs = some a ↔ ∃ n, v4Value? cs = some n ∧ a = ⟨.v4, n, none⟩ := by
  rw [v4?, Option.map_eq_some_iff]
  simp only [eq_comm]

theorem v6?_eq_some_iff {cs : List Char} {a : Address} :
    v6? cs = some a ↔ ∃ address zone n, splitZone? cs = some (address, zone) ∧
      v6Value? address = some n ∧ a = ⟨.v6, n, zone⟩ := by
  rw [v6?]
  constructor
  · intro h
    split at h
    · next address zone hzone =>
      obtain ⟨n, hn, rfl⟩ := Option.map_eq_some_iff.mp h
      exact ⟨address, zone, n, hzone, hn, rfl⟩
    · cases h
  · rintro ⟨address, zone, n, hzone, hn, rfl⟩
    rw [hzone]
    simp [hn]

/-- The text of an address of version 4 is none of version 6, having no
colon. -/
theorem v6?_eq_none_of_v4? {cs : List Char} {a : Address}
    (h : v4? cs = some a) :
    v6? cs = none := by
  obtain ⟨n, hn, -⟩ := v4?_eq_some_iff.mp h
  have hnot : ∀ c, c ≠ '.' → c.isDigit = false → c ∉ cs := by
    intro c hpoint hdigit hc
    rcases eq_point_or_isDigit_of_v4Value? hn hc with rfl | hc
    · exact hpoint rfl
    · rw [hc] at hdigit
      cases hdigit
  have hzone : splitZone? cs = some (cs, none) := by
    rw [splitZone?, Text.splitAt_of_notMem (hnot '%' (by decide) (by decide))]
  have hvalue : v6Value? cs = none := by
    rw [v6Value?, Text.splitAt_of_notMem (hnot ':' (by decide) (by decide))]
    rfl
  rw [v6?, hzone]
  simp [hvalue]

theorem v4?_eq_none_of_v6? {cs : List Char} {a : Address}
    (h : v6? cs = some a) :
    v4? cs = none := by
  rw [Option.eq_none_iff_forall_ne_some]
  intro b hb
  rw [v6?_eq_none_of_v4? hb] at h
  cases h

/-- A text is an address if it is one of either version, and has no slash. -/
theorem Address.ofText?_eq_some_iff {cs : List Char} {a : Address} :
    Address.ofText? cs = some a ↔
      '/' ∉ cs ∧ (v4? cs = some a ∨ v6? cs = some a) := by
  rw [Address.ofText?]
  by_cases hslash : '/' ∈ cs
  · simp [hslash]
  · rw [if_neg (by simpa using hslash)]
    cases hv4 : v4? cs with
    | none => simp [hslash]
    | some b => simp [hslash, v6?_eq_none_of_v4? hv4]

/-- The number of an address has the bits of its version. -/
theorem Address.value_lt {cs : List Char} {a : Address}
    (h : Address.ofText? cs = some a) :
    a.value < 2 ^ a.version.width := by
  rcases (Address.ofText?_eq_some_iff.mp h).2 with h | h
  · obtain ⟨n, hn, rfl⟩ := v4?_eq_some_iff.mp h
    exact v4Value?_lt hn
  · obtain ⟨_, _, n, -, hn, rfl⟩ := v6?_eq_some_iff.mp h
    exact v6Value?_lt hn

end AccessRules.Network
