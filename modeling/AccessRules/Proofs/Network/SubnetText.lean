import AccessRules.Proofs.Network.AddressText
import AccessRules.Proofs.Network.Membership

/-!
# The texts of subnets

A subnet is written as the address that it starts with and the number of its
common bits.  It is read from this text again, because the bits behind the
common ones are zeros in this address.

So the text of the subnet that an expression describes is an expression for the
same subnet.
-/

namespace AccessRules.Network

/-! ## Subnets -/

theorem lengthOfNumber?_toDigits {width n : Nat} (hn : n ≤ width)
    (hwidth : width ≤ 128) :
    lengthOfNumber? width (Nat.toDigits 10 n) = some n := by
  have hdigits : (Nat.toDigits 10 n).all Char.isDigit = true := by
    rw [List.all_eq_true]
    intro c hc
    exact Nat.isDigit_of_mem_toDigits (by decide) (by decide) hc
  have hpos : 0 < (Nat.toDigits 10 n).length :=
    List.length_pos_iff.mpr Nat.toDigits_ne_nil
  have hlength : (Nat.toDigits 10 n).length ≤ 3 := by
    rw [Nat.length_toDigits_le_iff (by decide) (by decide)]
    omega
  have hshort : (Nat.toDigits 10 n).length ≤ Text.mostDigits :=
    hlength.trans (by decide)
  have hvalue : Text.ofDigits 10 (Nat.toDigits 10 n) = n :=
    Text.ofDigits_toDigits (by decide) (by decide) n
  rw [lengthOfNumber?, if_pos, hvalue]
  rw [hvalue]
  exact ⟨hdigits, hpos, hshort, hn⟩

theorem length?_toDigits {v : Version} {n : Nat} (hn : n ≤ v.width) :
    length? v (Nat.toDigits 10 n) = some n := by
  have hwidth : v.width ≤ 128 := by
    cases v <;> decide
  unfold length?
  rw [lengthOfNumber?_toDigits hn hwidth]

namespace Subnet

/-- The address that a subnet starts with. -/
def first (s : Subnet) : Address :=
  ⟨s.version, s.base, s.zone⟩

theorem isReadable_first_around {a : Address} (h : a.IsReadable) (n : Nat) :
    (around a n).first.IsReadable where
  value_lt := base_around_lt h.value_lt
  zone := by
    intro z hz
    change (if (around a n).base = a.value then a.zone else none) = some z at hz
    split_ifs at hz
    exact h.zone z hz

/-- The subnet around the first address of a subnet is the subnet itself. -/
theorem around_first_around (a : Address) (n : Nat) :
    around (around a n).first n = around a n := by
  have hbase : (around (around a n).first n).base = (around a n).base := by
    rw [base_around]
    exact congrArg (· * _) (base_around_div a n)
  have hzone : (around (around a n).first n).zone = (around a n).zone :=
    if_pos hbase
  unfold around at hbase hzone ⊢
  rw [Subnet.mk.injEq]
  exact ⟨rfl, hbase, rfl, hzone⟩

theorem splitAt_text {address : List Char} (n : Nat) (h : '/' ∉ address) :
    Text.splitAt '/' (address ++ '/' :: Nat.toDigits 10 n) =
      [address, Nat.toDigits 10 n] := by
  have hdigits : '/' ∉ Nat.toDigits 10 n :=
    notMem_toDigits (by decide) (by decide) (by decide)
  rw [Text.splitAt_append_sep h, Text.splitAt_of_notMem hdigits]

/-- A subnet around an address is read from its text. -/
theorem ofText?_text {a : Address} {n : Nat} (h : a.IsReadable)
    (hn : n ≤ a.version.width) :
    ofText? (around a n).text = some (around a n) := by
  have hfirst := isReadable_first_around h n
  have hread := hfirst.address?_text
  have hpieces : Text.splitAt '/' (around a n).text =
      [(around a n).first.text, Nat.toDigits 10 n] :=
    splitAt_text n hfirst.slash_notMem_text
  have hparts : ofParts? a.version a.version.address? (around a n).text =
      some (around a n) := by
    rw [ofParts?, hpieces]
    change a.version.address? _ = _ at hread
    simp only [hread, length?_toDigits hn, around_first_around]
  rw [ofText?]
  cases hversion : a.version with
  | v4 =>
    rw [hversion] at hparts
    change ofParts? .v4 v4? _ = _ at hparts
    rw [hparts]
  | v6 =>
    rw [hversion] at hparts
    change ofParts? .v6 v6? _ = _ at hparts
    have hnone : ofParts? .v4 v4? (around a n).text = none := by
      change a.version.address? _ = _ at hread
      rw [hversion] at hread
      rw [ofParts?, hpieces]
      simp only [v4?_eq_none_of_v6? hread]
    rw [hnone, hparts]

end Subnet

/-! ## Expressions -/

/-- The text of a subnet has no blanks around it. -/
theorem Subnet.strip_text {a : Address} (h : a.IsReadable) (n : Nat) :
    Text.strip (around a n).text = (around a n).text := by
  have hfirst := isReadable_first_around h n
  have htext : (around a n).text =
      (around a n).first.text ++ '/' :: Nat.toDigits 10 n := rfl
  apply Text.strip_eq_self
  · intro c hc
    rw [htext, List.head?_append_of_ne_nil _ hfirst.text_ne_nil] at hc
    exact hfirst.isBlank_head?_text c hc
  · intro c hc
    have hdigits : Nat.toDigits 10 n ≠ [] := Nat.toDigits_ne_nil
    have hlast : c ∈ (Nat.toDigits 10 n).getLast? := by
      rw [htext, List.getLast?_append_of_ne_nil _ (List.cons_ne_nil _ _),
        List.getLast?_cons_of_ne_nil hdigits] at hc
      exact hc
    exact Text.isBlank_of_isHexDigit
      (Text.isHexDigit_of_mem_toDigits (by decide) (by decide)
        (List.mem_of_getLast? hlast))

/-- The text of a subnet around an address describes this subnet. -/
theorem subnetOf_text_around {a : Address} {n : Nat} (h : a.IsReadable)
    (hn : n ≤ a.version.width) :
    subnetOf (String.ofList (Subnet.around a n).text) =
      .ok (Subnet.around a n) := by
  rw [subnetOf_eq_ok_iff, String.toList_ofList, Subnet.strip_text h]
  have hslash : '/' ∈ (Subnet.around a n).text :=
    List.mem_append_right _ List.mem_cons_self
  exact ⟨List.ne_nil_of_mem hslash, Subnet.ofText?_text h hn⟩

theorem subnetOf_text_of_subnetOf {expression : String} {s : Subnet}
    (h : subnetOf expression = .ok s) :
    subnetOf (String.ofList s.text) = .ok s := by
  obtain ⟨-, hs⟩ := subnetOf_eq_ok_iff.mp h
  obtain ⟨a, n, ha, hn, rfl⟩ := Subnet.exists_of_ofText? hs
  exact subnetOf_text_around (Address.isReadable_of_ofText? ha) hn

/-- The subnet of one address that is given by its bytes is read from its
text. -/
theorem subnetOf_text_of_ofBytes? {bytes : List UInt8} {s : Subnet}
    (h : Subnet.ofBytes? bytes = some s) :
    subnetOf (String.ofList s.text) = .ok s := by
  have hlt : assemble 256 (bytes.map (·.toNat)) < 256 ^ bytes.length := by
    have hbytes : ∀ d ∈ bytes.map (·.toNat), d < 256 := by
      intro d hd
      obtain ⟨b, -, rfl⟩ := List.mem_map.mp hd
      exact b.toNat_lt
    simpa using assemble_lt_pow (by decide) hbytes
  unfold Subnet.ofBytes? at h
  split_ifs at h with hfour hsixteen
  · obtain rfl := Option.some.inj h
    rw [hfour] at hlt
    exact subnetOf_text_around (Address.isReadable_of_lt hlt) (Nat.le_refl 32)
  · obtain rfl := Option.some.inj h
    rw [hsixteen] at hlt
    exact subnetOf_text_around (Address.isReadable_of_lt hlt) (Nat.le_refl 128)

theorem subnetOf_text_of_subnetOfBytes {bytes : List UInt8} {s : Subnet}
    (h : subnetOfBytes bytes = .ok s) :
    subnetOf (String.ofList s.text) = .ok s := by
  rw [subnetOfBytes] at h
  split_ifs at h with hblank
  split at h
  · next hs =>
    obtain rfl := Except.ok.inj h
    exact subnetOf_text_of_ofBytes? hs
  · cases h

/-- The text of the subnet that an expression describes is an expression too,
for the same subnet and the same clients; its own text is the same again.  So it
is for the subnets that are given by bytes.

The text of any address alone is read as this address.  It has the four numbers
of version 4, or the groups of version 6 without the longest run of zeros, the
first one of several. -/
theorem networkMatcher_make_text :
    (∀ expression m, NetworkMatcher.make expression = .ok m →
      let text := String.ofList m.subnet.text
      ∃ m', NetworkMatcher.make text = .ok m' ∧ m'.subnet = m.subnet ∧
        String.ofList m'.subnet.text = text ∧
        (∀ client : String, m'.subnet.admits client = m.subnet.admits client) ∧
        ∀ r : Request, m'.selects r = m.selects r) ∧
    (∀ bytes s, subnetOfBytes bytes = .ok s →
      subnetOf (String.ofList s.text) = .ok s) ∧
    (∀ (v : Version) n, n < 2 ^ v.width →
      Address.ofText? (Address.text ⟨v, n, none⟩) = some ⟨v, n, none⟩) ∧
    (∀ n, Address.text ⟨.v4, n, none⟩ =
      Text.joinWith '.' ((octetsOf n).map (Nat.toDigits 10))) ∧
    ∀ n, ∃ high k low, IsLongestRun (groupsOf n) high k low ∧
      Address.text ⟨.v6, n, none⟩ =
        if k < 2 then groupText (groupsOf n)
        else groupText high ++ ':' :: ':' :: groupText low := by
  refine ⟨?_, fun _ _ => subnetOf_text_of_subnetOfBytes, ?_, v4Text_eq, ?_⟩
  · intro expression m hm text
    obtain ⟨s, hs, rfl⟩ := Outcome.map_eq_ok_iff.mp hm
    have hm' : NetworkMatcher.make text = .ok ⟨text, s⟩ := by
      rw [NetworkMatcher.make, subnetOf_text_of_subnetOf hs]
      rfl
    exact ⟨⟨text, s⟩, hm', rfl, rfl, fun _ => rfl, fun _ => rfl⟩
  · intro v n hn
    exact (Address.isReadable_of_lt hn).ofText?_text
  · intro n
    rw [Address.text, List.append_nil]
    exact v6Text_cases n

/-- An expression in capitals with blanks around it, an address of version 4 in
it and a zone, which is dropped because the address does not start the
subnet. -/
theorem networkMatcher_make_text_mixed :
    let expression := "\t2001:DB8:0:0:1:0:192.0.2.1%eth0/96 "
    let s : Subnet := ⟨.v6, 0x20010db8000000000001000000000000, 96, none⟩
    NetworkMatcher.make expression = .ok ⟨expression, s⟩ ∧
      String.ofList s.text = "2001:db8:0:0:1::/96" ∧
      ∃ m', NetworkMatcher.make "2001:db8:0:0:1::/96" = .ok m' ∧
        m'.subnet = s := by
  intro expression s
  have hm : NetworkMatcher.make expression = .ok ⟨expression, s⟩ := by
    decide +kernel
  have htext : String.ofList s.text = "2001:db8:0:0:1::/96" := by decide +kernel
  obtain ⟨m', hm', hs, -⟩ := networkMatcher_make_text.1 _ _ hm
  exact ⟨hm, htext, m', htext ▸ hm', hs⟩

end AccessRules.Network
