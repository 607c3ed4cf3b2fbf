import AccessRules.Text.Blank
import AccessRules.Text.Numeral
import Mathlib.Data.Nat.Digits.Lemmas

/-!
# Numbers and their digits

The digits of a number stand for it in the base in which it is written, and a
numeral stands for a number below the power of the base that its length gives.
-/

namespace AccessRules.Text

/-! ## Lists of digits -/

/-- The number that a list of digits gives, the first digit being the most
significant one. -/
theorem foldl_eq_ofDigits (base : Nat) (ds : List Nat) :
    ds.foldl (fun n d => base * n + d) 0 = Nat.ofDigits base ds.reverse := by
  rw [Nat.ofDigits_eq_foldr, List.foldr_reverse]
  congr
  funext n d
  simp [Nat.add_comm]

theorem foldl_lt_pow {base : Nat} {ds : List Nat} (hbase : 1 < base)
    (hds : ∀ d ∈ ds, d < base) :
    ds.foldl (fun n d => base * n + d) 0 < base ^ ds.length := by
  rw [foldl_eq_ofDigits, ← List.length_reverse]
  apply Nat.ofDigits_lt_base_pow_length hbase
  intro d hd
  exact hds d (List.mem_reverse.mp hd)

/-! ## Numerals -/

variable {base : Nat}

theorem digitOf_digitChar : ∀ d < 16, digitOf (Nat.digitChar d) = d := by
  decide

theorem isHexDigit_digitChar :
    ∀ d < 16, isHexDigit (Nat.digitChar d) = true := by
  decide

theorem isDigit_iff_toNat {c : Char} :
    c.isDigit = true ↔ 48 ≤ c.toNat ∧ c.toNat ≤ 57 := by
  rw [Char.isDigit, Bool.and_eq_true, decide_eq_true_eq, decide_eq_true_eq]
  rfl

theorem toNat_of_isHexDigit {c : Char} (hc : isHexDigit c = true) :
    (48 ≤ c.toNat ∧ c.toNat ≤ 57) ∨ (97 ≤ c.toNat ∧ c.toNat ≤ 102) ∨
      (65 ≤ c.toNat ∧ c.toNat ≤ 70) := by
  rw [isHexDigit, Bool.or_eq_true, Bool.or_eq_true, isDigit_iff_toNat,
    or_assoc] at hc
  simp only [Bool.and_eq_true, decide_eq_true_eq] at hc
  exact hc

theorem digitOf_lt_of_isHexDigit {c : Char} (hc : isHexDigit c = true) :
    digitOf c < 16 := by
  have hrange := toNat_of_isHexDigit hc
  have hsmall : 'a' ≤ c ↔ 97 ≤ c.toNat := Iff.rfl
  rw [digitOf]
  by_cases hdigit : c.isDigit = true
  · rw [isDigit_iff_toNat] at hdigit
    rw [if_pos (isDigit_iff_toNat.mpr hdigit)]
    omega
  · rw [if_neg hdigit]
    rw [isDigit_iff_toNat] at hdigit
    simp only [hsmall]
    split <;> omega

theorem ofDigits_concat (base : Nat) (cs : List Char) (c : Char) :
    ofDigits base (cs ++ [c]) = base * ofDigits base cs + digitOf c := by
  rw [ofDigits_append]
  rfl

theorem ofDigits_lt_pow {cs : List Char} (hbase : 1 < base)
    (hcs : ∀ c ∈ cs, digitOf c < base) :
    ofDigits base cs < base ^ cs.length := by
  have hdigits : ∀ d ∈ cs.map digitOf, d < base := by simpa using hcs
  have hfold := foldl_lt_pow hbase hdigits
  rwa [List.foldl_map, List.length_map] at hfold

/-- The digits of a number stand for it. -/
theorem ofDigits_toDigits (hbase : 1 < base) (hle : base ≤ 16) (n : Nat) :
    ofDigits base (Nat.toDigits base n) = n := by
  induction n using Nat.strongRecOn with
  | _ n ih =>
    rw [Nat.toDigits_eq_if hbase]
    by_cases hn : n < base
    · rw [if_pos hn, ← List.nil_append [_], ofDigits_concat,
        digitOf_digitChar n (by omega)]
      simp [ofDigits]
    · have hdiv : n / base < n := Nat.div_lt_self (by omega) hbase
      have hmod : n % base < base := Nat.mod_lt n (by omega)
      rw [if_neg hn, ofDigits_concat, ih _ hdiv,
        digitOf_digitChar (n % base) (by omega)]
      exact Nat.div_add_mod n base

theorem isHexDigit_of_mem_toDigits (hbase : 1 < base) (hle : base ≤ 16)
    {n : Nat} {c : Char} (hc : c ∈ Nat.toDigits base n) :
    isHexDigit c = true := by
  induction n using Nat.strongRecOn with
  | _ n ih =>
    rw [Nat.toDigits_eq_if hbase] at hc
    by_cases hn : n < base
    · rw [if_pos hn, List.mem_singleton] at hc
      rw [hc]
      exact isHexDigit_digitChar n (by omega)
    · rw [if_neg hn, List.mem_append, List.mem_singleton] at hc
      rcases hc with hc | rfl
      · exact ih _ (Nat.div_lt_self (by omega) hbase) hc
      · have hmod : n % base < base := Nat.mod_lt n (by omega)
        exact isHexDigit_digitChar _ (by omega)

/-- A hexadecimal digit is none of the characters that are not. -/
theorem ne_of_isHexDigit {c d : Char} (hc : isHexDigit c = true)
    (hd : isHexDigit d = false) :
    c ≠ d := by
  rintro rfl
  rw [hc] at hd
  cases hd

theorem isBlank_of_isHexDigit {c : Char} (hc : isHexDigit c = true) :
    isBlank c = false := by
  have hrange := toNat_of_isHexDigit hc
  simp only [isBlank, Bool.or_eq_false_iff, Bool.and_eq_false_iff,
    decide_eq_false_iff_not, beq_eq_false_iff_ne]
  omega

end AccessRules.Text
