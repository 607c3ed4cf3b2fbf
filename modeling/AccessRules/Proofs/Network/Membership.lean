import AccessRules.Matcher
import AccessRules.Proofs.Network.Address
import AccessRules.Proofs.Outcome
import Mathlib.Data.List.TakeWhile

/-!
# Membership in a subnet

A subnet that is read from an expression is the one around the address in front
of its slash: the bits behind the common ones are cleared, whatever the address
has there.  A client belongs to it if the address of the client has the same
version and the same common bits.

So a subnet has the address that it was written with, none of the other version,
and all members of the longer subnets around the same address.
-/

namespace AccessRules.Network

/-- The number whose first `length` bits are ones and whose other bits are
zeros. -/
def Version.mask (v : Version) (length : Nat) : Nat :=
  2 ^ v.width - 2 ^ (v.width - length)

/-- What stands in front of the first slash. -/
def addressPart (cs : List Char) : List Char :=
  cs.takeWhile (· ≠ '/')

theorem slash_notMem_addressPart (cs : List Char) : '/' ∉ addressPart cs := by
  intro hslash
  simpa using List.mem_takeWhile_imp hslash

/-! ## Common bits -/

/-- Clearing the last bits of a number leaves its bits under the mask. -/
theorem div_mul_eq_and_mask {v : Version} {n x : Nat} (hx : x < 2 ^ v.width) :
    x / 2 ^ (v.width - n) * 2 ^ (v.width - n) = x &&& v.mask n := by
  generalize hk : v.width - n = k
  have hle : k ≤ v.width := by omega
  have hmask : v.mask n = (2 ^ (v.width - k) - 1) <<< k := by
    rw [Version.mask, hk, Nat.shiftLeft_eq, Nat.sub_mul, ← Nat.pow_add,
      Nat.one_mul, Nat.sub_add_cancel hle]
  rw [hmask, ← Nat.shiftRight_eq_div_pow, ← Nat.shiftLeft_eq]
  apply Nat.eq_of_testBit_eq
  intro i
  rw [Nat.testBit_and, Nat.testBit_shiftLeft, Nat.testBit_shiftLeft,
    Nat.testBit_shiftRight, Nat.testBit_two_pow_sub_one]
  by_cases hki : k ≤ i
  · by_cases hi : i < v.width
    · have hone : i - k < v.width - k := by omega
      simp [hki, hone]
    · have hzero : x.testBit i = false := by
        apply Nat.testBit_lt_two_pow
        exact lt_of_lt_of_le hx (Nat.pow_le_pow_right (by decide) (by omega))
      simp [hki, hzero]
  · simp [hki]

/-- Numbers that share their first bits share the first of these. -/
theorem div_pow_eq_of_le {x y j k : Nat} (hjk : j ≤ k)
    (h : x / 2 ^ j = y / 2 ^ j) :
    x / 2 ^ k = y / 2 ^ k := by
  have hpow : 2 ^ k = 2 ^ j * 2 ^ (k - j) := by
    rw [← Nat.pow_add, Nat.add_sub_cancel' hjk]
  rw [hpow, ← Nat.div_div_eq_div_mul, ← Nat.div_div_eq_div_mul, h]

/-! ## Subnets around an address -/

namespace Subnet

variable {a x : Address} {n : Nat}

theorem base_around (a : Address) (n : Nat) :
    (around a n).base =
      a.value / 2 ^ (a.version.width - n) * 2 ^ (a.version.width - n) :=
  rfl

theorem contains_iff {s : Subnet} :
    s.contains x = true ↔ x.version = s.version ∧
      x.value / 2 ^ (s.version.width - s.length) =
        s.base / 2 ^ (s.version.width - s.length) := by
  rw [contains, Bool.and_eq_true, beq_iff_eq, beq_iff_eq]
  rfl

theorem base_around_div (a : Address) (n : Nat) :
    (around a n).base / 2 ^ (a.version.width - n) =
      a.value / 2 ^ (a.version.width - n) := by
  rw [base_around]
  exact Nat.mul_div_cancel _ (Nat.two_pow_pos _)

/-- The subnet around an address has the addresses that share the first bits
with it. -/
theorem contains_around_iff :
    (around a n).contains x = true ↔ x.version = a.version ∧
      x.value / 2 ^ (a.version.width - n) =
        a.value / 2 ^ (a.version.width - n) := by
  rw [contains_iff, ← base_around_div]
  rfl

theorem base_around_lt (ha : a.value < 2 ^ a.version.width) :
    (around a n).base < 2 ^ a.version.width := by
  rw [base_around]
  exact lt_of_le_of_lt (Nat.div_mul_le_self _ _) ha

/-- A shorter subnet around an address has the members of a longer one. -/
theorem contains_around_of_le {m : Nat} (hmn : m ≤ n)
    (h : (around a n).contains x = true) :
    (around a m).contains x = true := by
  rw [contains_around_iff] at h ⊢
  exact ⟨h.1, div_pow_eq_of_le (by omega) h.2⟩

end Subnet

/-! ## Reading subnets -/

theorem lengthOfNumber?_le {width n : Nat} {cs : List Char}
    (h : lengthOfNumber? width cs = some n) :
    n ≤ width := by
  rw [lengthOfNumber?] at h
  split_ifs at h with hcs
  exact Option.some.inj h ▸ hcs.2.2.2

theorem lengthOfMask?_le {width mask n : Nat}
    (h : lengthOfMask? width mask = some n) :
    n ≤ width := by
  have hn := List.mem_of_find?_eq_some h
  rw [List.mem_range] at hn
  omega

/-- The number of common bits is at most the number of bits, whether it is given
by a number or by a mask. -/
theorem length?_le {v : Version} {cs : List Char} {n : Nat}
    (h : length? v cs = some n) :
    n ≤ v.width := by
  unfold length? at h
  split at h
  · next hnumber =>
    obtain rfl := Option.some.inj h
    exact lengthOfNumber?_le hnumber
  · split at h
    · cases h
    · split at h
      · cases h
      · split at h
        · next hmask =>
          obtain rfl := Option.some.inj h
          exact lengthOfMask?_le hmask
        · exact lengthOfMask?_le h

theorem version_of_v4? {cs : List Char} {a : Address} (h : v4? cs = some a) :
    a.version = .v4 := by
  obtain ⟨n, -, rfl⟩ := v4?_eq_some_iff.mp h
  rfl

theorem version_of_v6? {cs : List Char} {a : Address} (h : v6? cs = some a) :
    a.version = .v6 := by
  obtain ⟨_, _, n, -, -, rfl⟩ := v6?_eq_some_iff.mp h
  rfl

namespace Subnet

variable {cs : List Char} {s : Subnet}

/-- A subnet is the one around the address in front of the slash. -/
theorem exists_of_ofParts? {v : Version} {address? : List Char → Option Address}
    (hversion : ∀ ds a, address? ds = some a → a.version = v)
    (h : ofParts? v address? cs = some s) :
    ∃ a n, address? (addressPart cs) = some a ∧ n ≤ a.version.width ∧
      s = around a n := by
  obtain ⟨pieces, hpieces⟩ := Text.exists_splitAt_eq_cons '/' cs
  change _ = addressPart cs :: pieces at hpieces
  unfold ofParts? at h
  rw [hpieces] at h
  split at h
  · next address haddress =>
    obtain ⟨rfl, -⟩ := List.cons.inj haddress
    obtain ⟨a, ha, rfl⟩ := Option.map_eq_some_iff.mp h
    exact ⟨a, v.width, ha, (hversion _ a ha) ▸ le_rfl, rfl⟩
  · next address length haddress =>
    obtain ⟨rfl, -⟩ := List.cons.inj haddress
    split at h
    · next a n ha hn =>
      obtain rfl := Option.some.inj h
      exact ⟨a, n, ha, (hversion _ a ha) ▸ length?_le hn, rfl⟩
    · cases h
  · cases h

theorem exists_of_ofText? (h : ofText? cs = some s) :
    ∃ a n, Address.ofText? (addressPart cs) = some a ∧
      n ≤ a.version.width ∧ s = around a n := by
  unfold ofText? at h
  split at h
  · next hv4 =>
    obtain rfl := Option.some.inj h
    obtain ⟨a, n, ha, hn, rfl⟩ :=
      exists_of_ofParts? (fun _ _ => version_of_v4?) hv4
    exact ⟨a, n, Address.ofText?_eq_some_iff.mpr
      ⟨slash_notMem_addressPart cs, Or.inl ha⟩, hn, rfl⟩
  · obtain ⟨a, n, ha, hn, rfl⟩ :=
      exists_of_ofParts? (fun _ _ => version_of_v6?) h
    exact ⟨a, n, Address.ofText?_eq_some_iff.mpr
      ⟨slash_notMem_addressPart cs, Or.inr ha⟩, hn, rfl⟩

/-- A client belongs to a subnet if its text, without the blanks around it, is
the text of a member. -/
theorem admits_iff {client : String} :
    s.admits client = true ↔ ∃ x,
      Address.ofText? (Text.strip client.toList) = some x ∧
        s.contains x = true := by
  rw [admits]
  cases Address.ofText? (Text.strip client.toList) with
  | none => simp
  | some x => simp

theorem admits_eq_contains {client : String} {x : Address}
    (hx : Address.ofText? (Text.strip client.toList) = some x) :
    s.admits client = s.contains x := by
  rw [admits, hx]

end Subnet

theorem subnetOf_eq_ok_iff {expression : String} {s : Subnet} :
    subnetOf expression = .ok s ↔
      Text.strip expression.toList ≠ [] ∧
        Subnet.ofText? (Text.strip expression.toList) = some s := by
  rw [subnetOf]
  by_cases hblank : Text.strip expression.toList = []
  · simp [hblank]
  · cases hs : Subnet.ofText? (Text.strip expression.toList) with
    | none => simp [hblank]
    | some s' => simp [hblank]

/-! ## Matchers -/

/-- A subnet that an expression describes has as many bits as its version,
starts at a multiple of its size, and has the clients whose address shares the
common bits with it; their bits under the mask are those of the subnet.  It has
the address in front of the slash of the expression, no address of the other
version, and all clients of the longer subnets of that address. -/
theorem networkMatcher_admits_iff {expression : String} {m : NetworkMatcher}
    (hm : NetworkMatcher.make expression = .ok m) :
    let s := m.subnet
    let unit := 2 ^ (s.version.width - s.length)
    let written := addressPart (Text.strip expression.toList)
    (s.version.width = 32 ∨ s.version.width = 128) ∧
    s.base < 2 ^ s.version.width ∧ s.length ≤ s.version.width ∧ unit ∣ s.base ∧
    (∀ client : String, s.admits client = true ↔ ∃ x,
      Address.ofText? (Text.strip client.toList) = some x ∧
        x.version = s.version ∧ x.value / unit = s.base / unit) ∧
    (∀ (client : String) x,
      Address.ofText? (Text.strip client.toList) = some x →
      (s.admits client = true ↔ x.version = s.version ∧
        x.value &&& s.version.mask s.length = s.base)) ∧
    (∃ a, Address.ofText? written = some a ∧ a.version = s.version ∧
      s.base = a.value &&& s.version.mask s.length ∧
      ∀ (client : String) x,
        Address.ofText? (Text.strip client.toList) = some x →
        x.version = a.version → x.value = a.value → s.admits client = true) ∧
    (∀ client : String, Text.strip client.toList = written →
      s.admits client = true) ∧
    (∀ (client : String) x,
      Address.ofText? (Text.strip client.toList) = some x →
      x.version ≠ s.version → s.admits client = false) ∧
    ∀ expression' m', NetworkMatcher.make expression' = .ok m' →
      addressPart (Text.strip expression'.toList) = written →
      m'.subnet.length ≤ s.length →
      ∀ client : String, s.admits client = true →
        m'.subnet.admits client = true := by
  obtain ⟨s, hs, rfl⟩ := Outcome.map_eq_ok_iff.mp hm
  intro s' unit written
  obtain ⟨-, hs⟩ := subnetOf_eq_ok_iff.mp hs
  obtain ⟨a, n, ha, hn, rfl⟩ := Subnet.exists_of_ofText? hs
  have hvalue : a.value < 2 ^ a.version.width := Address.value_lt ha
  have hadmits : ∀ (client : String) x,
      Address.ofText? (Text.strip client.toList) = some x →
      (s'.admits client = true ↔ x.version = a.version ∧
        x.value / unit = a.value / unit) := by
    intro client x hx
    rw [Subnet.admits_eq_contains hx]
    exact Subnet.contains_around_iff
  have hwritten : ∀ (client : String) x,
      Address.ofText? (Text.strip client.toList) = some x →
      x.version = a.version → x.value = a.value → s'.admits client = true := by
    intro client x hx hversion hx'
    exact (hadmits client x hx).mpr ⟨hversion, by rw [hx']⟩
  refine ⟨?_, Subnet.base_around_lt hvalue, hn, Dvd.intro_left _ rfl, ?_, ?_,
    ⟨a, ha, rfl, div_mul_eq_and_mask hvalue, hwritten⟩, ?_, ?_, ?_⟩
  · cases s'.version with
    | v4 => exact Or.inl rfl
    | v6 => exact Or.inr rfl
  · intro client
    simp only [Subnet.admits_iff, Subnet.contains_iff]
    rfl
  · intro client x hx
    rw [hadmits client x hx]
    apply and_congr_right
    intro hversion
    have hlt : x.value < 2 ^ a.version.width :=
      hversion ▸ Address.value_lt hx
    have hbits : x.value / unit * unit = x.value &&& s'.version.mask n :=
      div_mul_eq_and_mask hlt
    change _ ↔ x.value &&& s'.version.mask n = a.value / unit * unit
    rw [← hbits]
    exact (Nat.mul_left_inj (Nat.two_pow_pos _).ne').symm
  · intro client hclient
    exact hwritten client a (hclient ▸ ha) rfl rfl
  · intro client x hx hversion
    rw [Bool.eq_false_iff]
    intro hclient
    exact hversion ((hadmits client x hx).mp hclient).1
  · intro expression' m' hm' hsame hle client hclient
    obtain ⟨t, ht, rfl⟩ := Outcome.map_eq_ok_iff.mp hm'
    obtain ⟨-, ht⟩ := subnetOf_eq_ok_iff.mp ht
    obtain ⟨a', n', ha', -, rfl⟩ := Subnet.exists_of_ofText? ht
    obtain rfl : a' = a := by
      rw [hsame, ha] at ha'
      exact (Option.some.inj ha').symm
    obtain ⟨x, hx, hcontains⟩ := Subnet.admits_iff.mp hclient
    exact Subnet.admits_iff.mpr
      ⟨x, hx, Subnet.contains_around_of_le hle hcontains⟩

/-- A subnet that is given by a mask of zeros followed by ones, with blanks
around it.  The same number as an address of version 6 does not belong to it. -/
theorem networkMatcher_admits_iff_hostmask :
    let expression := " 10.0.0.7/0.255.255.255\n"
    let m : NetworkMatcher := ⟨expression, ⟨.v4, 10 * 2 ^ 24, 8, none⟩⟩
    let shorter : NetworkMatcher := ⟨"10.0.0.7/0", ⟨.v4, 0, 0, none⟩⟩
    NetworkMatcher.make expression = .ok m ∧
      NetworkMatcher.make "10.0.0.7/0" = .ok shorter ∧
      2 ^ (32 - 8) ∣ m.subnet.base ∧
      m.subnet.admits "10.0.0.7" = true ∧
      Address.ofText? "::a00:7".toList = some ⟨.v6, 10 * 2 ^ 24 + 7, none⟩ ∧
      m.subnet.admits "::a00:7" = false ∧
      m.subnet.admits "10.255.0.1\t" = true ∧
      shorter.subnet.admits "10.255.0.1\t" = true := by
  intro expression m shorter
  have hm : NetworkMatcher.make expression = .ok m := by decide +kernel
  have hshorter : NetworkMatcher.make "10.0.0.7/0" = .ok shorter := by
    decide +kernel
  have hother : Address.ofText? "::a00:7".toList =
      some ⟨.v6, 10 * 2 ^ 24 + 7, none⟩ := by decide +kernel
  have hclient : Address.ofText? (Text.strip "10.255.0.1\t".toList) =
      some ⟨.v4, 10 * 2 ^ 24 + 255 * 2 ^ 16 + 1, none⟩ := by decide +kernel
  obtain ⟨-, -, -, hdvd, hiff, -, -, hwritten, hversion, hle⟩ :=
    networkMatcher_admits_iff hm
  have hadmits : m.subnet.admits "10.255.0.1\t" = true :=
    (hiff _).mpr ⟨_, hclient, rfl, by decide⟩
  exact ⟨hm, hshorter, hdvd, hwritten "10.0.0.7" (by decide +kernel), hother,
    hversion "::a00:7" _ hother (by decide), hadmits,
    hle _ _ hshorter (by decide +kernel) (by decide) _ hadmits⟩

end AccessRules.Network
