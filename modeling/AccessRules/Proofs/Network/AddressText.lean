import AccessRules.Proofs.Network.Address
import Mathlib.Data.List.TakeWhile

/-!
# The texts of addresses

An address is read from its text: the four numbers of version 4, or the eight
groups of version 6.  A run of zero groups that the text leaves out is put back
by the reader, because the other groups say how long it is.
-/

namespace AccessRules.Network

theorem mapM_map_eq_some {α β : Type} {f : β → Option α} {g : α → β}
    {xs : List α} (h : ∀ x ∈ xs, f (g x) = some x) :
    (xs.map g).mapM f = some xs := by
  rw [mapM_eq_some_iff, List.forall₂_map_left_iff, List.forall₂_same]
  exact h

theorem assemble_concat (base : Nat) (ds : List Nat) (d : Nat) :
    assemble base (ds ++ [d]) = base * assemble base ds + d := by
  rw [assemble, List.foldl_append]
  rfl

/-- The digits of a number, the first ones being the most significant, give its
last digits back. -/
theorem assemble_digits (base n k : Nat) :
    assemble base ((List.range k).map fun i => n / base ^ (k - 1 - i) % base) =
      n % base ^ k := by
  induction k generalizing n with
  | zero => simp [assemble, Nat.mod_one]
  | succ k ih =>
    have hfront :
        (List.range k).map (fun i => n / base ^ (k + 1 - 1 - i) % base) =
        (List.range k).map fun i => n / base / base ^ (k - 1 - i) % base := by
      apply List.map_congr_left
      intro i hi
      rw [List.mem_range] at hi
      have hpow : k + 1 - 1 - i = k - 1 - i + 1 := by omega
      rw [hpow, Nat.pow_succ', Nat.div_div_eq_div_mul]
    rw [List.range_succ, List.map_append, hfront, List.map_singleton,
      assemble_concat, ih, Nat.pow_succ', Nat.mod_mul]
    simp [Nat.add_comm]

/-! ## Version 4 -/

theorem octet?_toDigits : ∀ n < 256, octet? (Nat.toDigits 10 n) = some n := by
  decide +kernel

theorem notMem_toDigits {base n : Nat} {c : Char} (hbase : 1 < base)
    (hle : base ≤ 16) (hc : Text.isHexDigit c = false) :
    c ∉ Nat.toDigits base n := by
  intro hmem
  have hdigit := Text.isHexDigit_of_mem_toDigits hbase hle hmem
  exact Text.ne_of_isHexDigit hdigit hc rfl

/-- The four numbers of an address of version 4. -/
def octetsOf (n : Nat) : List Nat :=
  [n / 2 ^ 24, n / 2 ^ 16 % 256, n / 2 ^ 8 % 256, n % 256]

theorem v4Text_eq (n : Nat) :
    v4Text n = Text.joinWith '.' ((octetsOf n).map (Nat.toDigits 10)) :=
  rfl

theorem lt_of_mem_octetsOf {n : Nat} (hn : n < 2 ^ 32) :
    ∀ d ∈ octetsOf n, d < 256 := by
  simp only [octetsOf, List.forall_mem_cons]
  refine ⟨?_, ?_, ?_, ?_, by simp⟩ <;> omega

theorem assemble_octetsOf (n : Nat) : assemble 256 (octetsOf n) = n := by
  simp only [assemble, octetsOf, List.foldl]
  omega

/-- An address of version 4 is read from its text. -/
theorem v4Value?_v4Text {n : Nat} (hn : n < 2 ^ 32) :
    v4Value? (v4Text n) = some n := by
  have hpieces : Text.splitAt '.' (v4Text n) =
      (octetsOf n).map (Nat.toDigits 10) := by
    apply Text.splitAt_joinWith (by simp)
    intro piece hpiece
    obtain ⟨d, -, rfl⟩ := List.mem_map.mp hpiece
    exact notMem_toDigits (by decide) (by decide) (by decide)
  have hvalues : (Text.splitAt '.' (v4Text n)).mapM octet? =
      some (octetsOf n) := by
    rw [hpieces]
    apply mapM_map_eq_some
    intro d hd
    exact octet?_toDigits d (lt_of_mem_octetsOf hn d hd)
  exact v4Value?_eq_some_iff.mpr
    ⟨_, _, _, _, hvalues, (assemble_octetsOf n).symm⟩

/-! ## The longest run of zeros -/

/-- A list is some members, a run of zeros and the other members.  No run of
zeros in it is longer, and none as long is nearer to the front. -/
structure IsLongestRun (gs high : List Nat) (k : Nat) (low : List Nat) :
    Prop where
  eq_append : gs = high ++ List.replicate k 0 ++ low
  le_length : ∀ high' k' low',
    gs = high' ++ List.replicate k' 0 ++ low' → k' ≤ k
  le_start : ∀ high' low',
    gs = high' ++ List.replicate k 0 ++ low' → high.length ≤ high'.length

theorem eq_replicate_append_dropWhile (gs : List Nat) :
    gs = List.replicate (gs.takeWhile (· == 0)).length 0 ++
      gs.dropWhile (· == 0) := by
  have hzeros : gs.takeWhile (· == 0) =
      List.replicate (gs.takeWhile (· == 0)).length 0 := by
    rw [List.eq_replicate_iff]
    refine ⟨rfl, ?_⟩
    intro g hg
    simpa using List.mem_takeWhile_imp hg
  rw [← hzeros, List.takeWhile_append_dropWhile]

theorem le_length_takeWhile {gs low : List Nat} {k : Nat}
    (h : gs = List.replicate k 0 ++ low) :
    k ≤ (gs.takeWhile (· == 0)).length := by
  rw [h, List.takeWhile_append_of_pos, List.length_append,
    List.length_replicate]
  · exact Nat.le_add_right _ _
  · intro g hg
    simp [List.eq_of_mem_replicate hg]

/-- A run at the front that is as long as all runs behind it is the longest
one. -/
theorem IsLongestRun.front {g : Nat} {gs high low : List Nat} {k : Nat}
    (h : IsLongestRun gs high k low)
    (hle : k ≤ ((g :: gs).takeWhile (· == 0)).length) :
    IsLongestRun (g :: gs) [] ((g :: gs).takeWhile (· == 0)).length
      ((g :: gs).dropWhile (· == 0)) where
  eq_append := eq_replicate_append_dropWhile (g :: gs)
  le_length := by
    intro high' k' low' heq
    by_cases hnil : high' = []
    · subst hnil
      exact le_length_takeWhile heq
    · obtain ⟨g', rest, rfl⟩ := List.exists_cons_of_ne_nil hnil
      have hgs : gs = rest ++ List.replicate k' 0 ++ low' :=
        (List.cons.inj heq).2
      exact (h.le_length _ _ _ hgs).trans hle
  le_start := by
    intro high' low' heq
    exact Nat.zero_le _

/-- A run that is longer than the one at the front stays the longest one. -/
theorem IsLongestRun.cons {g : Nat} {gs high low : List Nat} {k : Nat}
    (h : IsLongestRun gs high k low)
    (hlt : ((g :: gs).takeWhile (· == 0)).length < k) :
    IsLongestRun (g :: gs) (g :: high) k low where
  eq_append := congrArg (g :: ·) h.eq_append
  le_length := by
    intro high' k' low' heq
    by_cases hnil : high' = []
    · subst hnil
      exact (le_length_takeWhile heq).trans hlt.le
    · obtain ⟨g', rest, rfl⟩ := List.exists_cons_of_ne_nil hnil
      exact h.le_length _ _ _ (List.cons.inj heq).2
  le_start := by
    intro high' low' heq
    by_cases hnil : high' = []
    · subst hnil
      exact absurd (le_length_takeWhile heq) (Nat.not_le.mpr hlt)
    · obtain ⟨g', rest, rfl⟩ := List.exists_cons_of_ne_nil hnil
      exact Nat.succ_le_succ (h.le_start _ _ (List.cons.inj heq).2)

/-- The run that is looked for is the first of the longest ones. -/
theorem isLongestRun_longestZeros (i : Nat) (gs : List Nat) :
    ∃ high low, (longestZeros i gs).1 = i + high.length ∧
      IsLongestRun gs high (longestZeros i gs).2 low := by
  induction gs generalizing i with
  | nil =>
    refine ⟨[], [], rfl, rfl, ?_, fun _ _ _ => Nat.zero_le _⟩
    intro high' k' low' heq
    have hlength := congrArg List.length heq
    simp only [List.length_nil, List.length_append,
      List.length_replicate] at hlength
    omega
  | cons g gs ih =>
    obtain ⟨high, low, hstart, hrun⟩ := ih (i + 1)
    rw [longestZeros]
    by_cases hle : (longestZeros (i + 1) gs).2 ≤
        ((g :: gs).takeWhile (· == 0)).length
    · simp only [hle, if_true]
      exact ⟨[], _, rfl, hrun.front hle⟩
    · simp only [hle, if_false]
      refine ⟨g :: high, low, ?_, hrun.cons (Nat.not_le.mp hle)⟩
      rw [hstart, List.length_cons]
      omega

/-! ## Version 6 -/

theorem length_groupsOf (n : Nat) : (groupsOf n).length = 8 := by
  rw [groupsOf, List.length_map, List.length_range]

theorem lt_of_mem_groupsOf {n : Nat} : ∀ g ∈ groupsOf n, g < 65536 := by
  intro g hg
  obtain ⟨i, -, rfl⟩ := List.mem_map.mp hg
  exact Nat.mod_lt _ (by decide)

theorem assemble_groupsOf {n : Nat} (hn : n < 2 ^ 128) :
    assemble 65536 (groupsOf n) = n :=
  (assemble_digits 65536 n 8).trans (Nat.mod_eq_of_lt hn)

/-- The text of a version 6 address is that of its groups, the first of the
longest runs of zeros left out if it has more than one zero. -/
theorem v6Text_cases (n : Nat) :
    ∃ high k low, IsLongestRun (groupsOf n) high k low ∧
      v6Text n =
        if k < 2 then groupText (groupsOf n)
        else groupText high ++ ':' :: ':' :: groupText low := by
  obtain ⟨high, low, hstart, hrun⟩ := isLongestRun_longestZeros 0 (groupsOf n)
  refine ⟨high, _, low, hrun, ?_⟩
  rw [v6Text]
  generalize groupsOf n = gs at hstart hrun ⊢
  generalize longestZeros 0 gs = run at hstart hrun ⊢
  obtain ⟨start, k⟩ := run
  obtain rfl : start = high.length := by simpa using hstart
  have htake : gs.take high.length = high := by
    rw [hrun.eq_append, List.append_assoc, List.take_left]
  have hdrop : gs.drop (high.length + k) = low := by
    rw [hrun.eq_append]
    exact List.drop_left' (by simp)
  simp only [htake, hdrop]

theorem group?_toDigits {g : Nat} (hg : g < 65536) :
    group? (Nat.toDigits 16 g) = some g := by
  have hhex : (Nat.toDigits 16 g).all Text.isHexDigit = true := by
    rw [List.all_eq_true]
    intro c hc
    exact Text.isHexDigit_of_mem_toDigits (by decide) (by decide) hc
  have hpos : 0 < (Nat.toDigits 16 g).length :=
    List.length_pos_iff.mpr Nat.toDigits_ne_nil
  have hlength : (Nat.toDigits 16 g).length ≤ 4 :=
    (Nat.length_toDigits_le_iff (by decide) (by decide)).mpr hg
  rw [group?, if_pos ⟨hhex, hpos, hlength⟩,
    Text.ofDigits_toDigits (by decide) (by decide)]

/-- The pieces of a text of groups are the groups; without any group there is
one empty piece. -/
theorem splitAt_groupText (gs : List Nat) :
    Text.splitAt ':' (groupText gs) =
      if gs = [] then [[]] else gs.map (Nat.toDigits 16) := by
  by_cases hnil : gs = []
  · rw [if_pos hnil, hnil]
    rfl
  · rw [if_neg hnil]
    apply Text.splitAt_joinWith (by simpa using hnil)
    intro piece hpiece
    obtain ⟨g, -, rfl⟩ := List.mem_map.mp hpiece
    exact notMem_toDigits (by decide) (by decide) (by decide)

theorem side?_splitAt_groupText {gs : List Nat} (hgs : ∀ g ∈ gs, g < 65536) :
    side? (Text.splitAt ':' (groupText gs)) = some gs := by
  rw [splitAt_groupText, side?]
  by_cases hnil : gs = []
  · rw [if_pos hnil, if_pos rfl, hnil]
  · rw [if_neg hnil, if_neg]
    · exact mapM_map_eq_some fun g hg => group?_toDigits (hgs g hg)
    · intro heq
      obtain ⟨g, -, hg⟩ := List.map_eq_singleton_iff.mp heq
      exact Nat.toDigits_ne_nil hg

/-! ## Pieces and gaps -/

theorem mem_gaps_iff {pieces : List (List Char)} {i : Nat} :
    i ∈ gaps pieces ↔
      0 < i ∧ i + 1 < pieces.length ∧ pieces[i]? = some [] := by
  simp only [gaps, List.mem_filter, List.mem_range, Bool.and_eq_true,
    decide_eq_true_eq, beq_iff_eq]
  constructor
  · rintro ⟨-, ⟨hpos, hend⟩, hempty⟩
    exact ⟨hpos, hend, hempty⟩
  · rintro ⟨hpos, hend, hempty⟩
    exact ⟨by omega, ⟨hpos, hend⟩, hempty⟩

theorem gaps_eq_singleton {pieces : List (List Char)} {i : Nat}
    (h : ∀ j, j ∈ gaps pieces ↔ j = i) :
    gaps pieces = [i] := by
  have hnodup : (gaps pieces).Nodup := List.nodup_range.filter _
  have hperm : (gaps pieces).Perm [i] := by
    rw [List.perm_ext_iff_of_nodup hnodup (List.nodup_singleton i)]
    simpa using h
  exact List.perm_singleton.mp hperm

/-- No piece of a text of groups is empty unless there are no groups. -/
theorem eq_zero_of_getElem?_splitAt_groupText {gs : List Nat} {i : Nat}
    (h : (Text.splitAt ':' (groupText gs))[i]? = some []) :
    i = 0 ∧ (Text.splitAt ':' (groupText gs)).length = 1 := by
  rw [splitAt_groupText] at h ⊢
  by_cases hnil : gs = []
  · rw [if_pos hnil] at h ⊢
    obtain ⟨hi, -⟩ := List.getElem?_eq_some_iff.mp h
    exact ⟨by simpa using hi, rfl⟩
  · rw [if_neg hnil, List.getElem?_map, Option.map_eq_some_iff] at h
    obtain ⟨g, -, hg⟩ := h
    exact absurd hg Nat.toDigits_ne_nil

/-- Two colons in a row are the only gap between two texts of groups. -/
theorem gaps_elided (high low : List Nat) :
    gaps (Text.splitAt ':' (groupText high) ++
        [] :: Text.splitAt ':' (groupText low)) =
      [(Text.splitAt ':' (groupText high)).length] := by
  apply gaps_eq_singleton
  intro j
  have hhigh :=
    List.length_pos_iff.mpr (Text.splitAt_ne_nil ':' (groupText high))
  have hlow := List.length_pos_iff.mpr (Text.splitAt_ne_nil ':' (groupText low))
  rw [mem_gaps_iff, List.length_append, List.length_cons]
  constructor
  · rintro ⟨hpos, hend, hempty⟩
    by_contra hne
    by_cases hlt : j < (Text.splitAt ':' (groupText high)).length
    · rw [List.getElem?_append_left hlt] at hempty
      have hj := (eq_zero_of_getElem?_splitAt_groupText hempty).1
      omega
    · obtain ⟨i, rfl⟩ :
          ∃ i, j = (Text.splitAt ':' (groupText high)).length + (i + 1) :=
        ⟨j - (Text.splitAt ':' (groupText high)).length - 1, by omega⟩
      rw [List.getElem?_append_right (by omega), Nat.add_sub_cancel_left,
        List.getElem?_cons_succ] at hempty
      obtain ⟨hi, hlength⟩ := eq_zero_of_getElem?_splitAt_groupText hempty
      omega
  · rintro rfl
    refine ⟨hhigh, by omega, ?_⟩
    rw [List.getElem?_append_right (Nat.le_refl _), Nat.sub_self]
    rfl

/-- Eight groups are read from their text. -/
theorem groups?_full {gs : List Nat} (hlength : gs.length = 8)
    (hgs : ∀ g ∈ gs, g < 65536) :
    groups? (Text.splitAt ':' (groupText gs)) = some gs := by
  have hne : gs ≠ [] := by
    rintro rfl
    cases hlength
  have hgaps : gaps (Text.splitAt ':' (groupText gs)) = [] := by
    rw [List.eq_nil_iff_forall_not_mem]
    intro i hi
    obtain ⟨hpos, -, hempty⟩ := mem_gaps_iff.mp hi
    exact hpos.ne' (eq_zero_of_getElem?_splitAt_groupText hempty).1
  have hpieces : Text.splitAt ':' (groupText gs) =
      gs.map (Nat.toDigits 16) := by
    rw [splitAt_groupText, if_neg hne]
  rw [groups?, hgaps, hpieces]
  simp only [List.length_map, hlength, if_true]
  exact mapM_map_eq_some fun g hg => group?_toDigits (hgs g hg)

/-- Groups that are left out between two colons are read as zeros. -/
theorem groups?_elided {high low : List Nat} (hhigh : ∀ g ∈ high, g < 65536)
    (hlow : ∀ g ∈ low, g < 65536) (hshort : high.length + low.length < 8) :
    groups? (Text.splitAt ':' (groupText high ++ ':' :: ':' :: groupText low)) =
      some (high ++ List.replicate (8 - high.length - low.length) 0 ++
        low) := by
  have hpieces :
      Text.splitAt ':' (groupText high ++ ':' :: ':' :: groupText low) =
      Text.splitAt ':' (groupText high) ++
        [] :: Text.splitAt ':' (groupText low) := by
    rw [Text.splitAt_append_cons]
    rfl
  have hdrop : (Text.splitAt ':' (groupText high) ++
      [] :: Text.splitAt ':' (groupText low)).drop
        ((Text.splitAt ':' (groupText high)).length + 1) =
      Text.splitAt ':' (groupText low) := by
    rw [List.drop_append, List.drop_eq_nil_of_le (Nat.le_succ _),
      Nat.add_sub_cancel_left]
    rfl
  rw [hpieces, groups?, gaps_elided]
  simp only [List.take_left, hdrop, side?_splitAt_groupText hhigh,
    side?_splitAt_groupText hlow, if_pos hshort]

/-- The text of a version 6 address has hexadecimal digits and colons only. -/
theorem eq_colon_or_isHexDigit_of_mem_v6Text {n : Nat} {c : Char}
    (hc : c ∈ v6Text n) :
    c = ':' ∨ Text.isHexDigit c = true := by
  have hgroups : ∀ gs : List Nat, c ∈ groupText gs →
      c = ':' ∨ Text.isHexDigit c = true := by
    intro gs hc
    rcases Text.mem_joinWith hc with hc | ⟨piece, hpiece, hc⟩
    · exact Or.inl hc
    · obtain ⟨g, -, rfl⟩ := List.mem_map.mp hpiece
      exact Or.inr (Text.isHexDigit_of_mem_toDigits (by decide) (by decide) hc)
  obtain ⟨high, k, low, -, htext⟩ := v6Text_cases n
  rw [htext] at hc
  by_cases hk : k < 2
  · rw [if_pos hk] at hc
    exact hgroups _ hc
  · rw [if_neg hk, List.mem_append, List.mem_cons, List.mem_cons] at hc
    rcases hc with hc | hc | hc | hc
    · exact hgroups _ hc
    · exact Or.inl hc
    · exact Or.inl hc
    · exact hgroups _ hc

theorem notMem_v6Text {n : Nat} {c : Char} (hcolon : c ≠ ':')
    (hhex : Text.isHexDigit c = false) :
    c ∉ v6Text n := by
  intro hc
  rcases eq_colon_or_isHexDigit_of_mem_v6Text hc with hc | hc
  · exact hcolon hc
  · exact Text.ne_of_isHexDigit hc hhex rfl

/-- The groups of an address of version 6 are read from its text. -/
theorem groups?_v6Text (n : Nat) :
    groups? (Text.splitAt ':' (v6Text n)) = some (groupsOf n) := by
  obtain ⟨high, k, low, hrun, htext⟩ := v6Text_cases n
  have hall : ∀ g ∈ groupsOf n, g < 65536 := lt_of_mem_groupsOf
  have hlength := length_groupsOf n
  by_cases hk : k < 2
  · rw [htext, if_pos hk]
    exact groups?_full hlength hall
  · rw [htext, if_neg hk]
    have heq := hrun.eq_append
    have hsum : high.length + k + low.length = 8 := by
      rw [heq, List.length_append, List.length_append,
        List.length_replicate] at hlength
      exact hlength
    have hhigh : ∀ g ∈ high, g < 65536 := by
      intro g hg
      exact hall g (by simp [heq, hg])
    have hlow : ∀ g ∈ low, g < 65536 := by
      intro g hg
      exact hall g (by simp [heq, hg])
    have hzeros : 8 - high.length - low.length = k := by omega
    rw [groups?_elided hhigh hlow (by omega), hzeros, ← heq]

/-- Texts that are read as groups have two colons or more. -/
theorem three_le_length_of_groups? {pieces : List (List Char)} {gs : List Nat}
    (h : groups? pieces = some gs) :
    3 ≤ pieces.length := by
  unfold groups? at h
  split at h
  · split_ifs at h with hlength
    omega
  · next i hgap =>
    have hi : i ∈ gaps pieces := by
      rw [hgap]
      exact List.mem_singleton_self i
    obtain ⟨hpos, hend, -⟩ := mem_gaps_iff.mp hi
    omega
  · cases h

theorem expandTail_eq_self {pieces : List (List Char)}
    (h : ∀ piece ∈ pieces, '.' ∉ piece) :
    expandTail pieces = some pieces := by
  rw [expandTail]
  cases hlast : pieces.getLast? with
  | none => rfl
  | some last =>
    have hpoint : last.contains '.' = false := by
      simpa using h last (List.mem_of_getLast? hlast)
    simp only [hpoint]
    rfl

/-- An address of version 6 is read from its text. -/
theorem v6Value?_v6Text {n : Nat} (hn : n < 2 ^ 128) :
    v6Value? (v6Text n) = some n := by
  have hexpand : expandTail (Text.splitAt ':' (v6Text n)) =
      some (Text.splitAt ':' (v6Text n)) := by
    apply expandTail_eq_self
    intro piece hpiece hpoint
    exact notMem_v6Text (by decide) (by decide)
      (Text.mem_of_mem_splitAt hpiece hpoint)
  have hgroups := groups?_v6Text n
  have hlong : ¬ (Text.splitAt ':' (v6Text n)).length < 3 :=
    Nat.not_lt.mpr (three_le_length_of_groups? hgroups)
  rw [v6Value?, if_neg hlong, hexpand]
  simp only [hgroups, Option.map_some, assemble_groupsOf hn]

/-! ## Addresses -/

/-- Addresses that can be read: the number has the bits of its version, and only
version 6 has zones, which are not empty and have neither percent signs nor
slashes. -/
structure Address.IsReadable (a : Address) : Prop where
  value_lt : a.value < 2 ^ a.version.width
  zone : ∀ z, a.zone = some z →
    a.version = .v6 ∧ z ≠ [] ∧ '%' ∉ z ∧ '/' ∉ z

/-- The reader of addresses of one version. -/
def Version.address? : Version → List Char → Option Address
  | v4 => v4?
  | v6 => v6?

theorem splitZone?_eq_some {cs address : List Char} {zone : Option (List Char)}
    (h : splitZone? cs = some (address, zone)) :
    ∀ z, zone = some z → z ≠ [] ∧ '%' ∉ z ∧ ∀ c ∈ z, c ∈ cs := by
  intro z hz
  unfold splitZone? at h
  split at h
  · obtain ⟨-, rfl⟩ := Prod.mk.inj (Option.some.inj h)
    cases hz
  · next address' zone' hpieces =>
    split_ifs at h with hnil
    obtain ⟨-, rfl⟩ := Prod.mk.inj (Option.some.inj h)
    obtain rfl := Option.some.inj hz
    have hmem : zone' ∈ Text.splitAt '%' cs := by simp [hpieces]
    exact ⟨hnil, Text.notMem_of_mem_splitAt hmem,
      fun c hc => Text.mem_of_mem_splitAt hmem hc⟩
  · cases h

theorem Address.isReadable_of_ofText? {cs : List Char} {a : Address}
    (h : Address.ofText? cs = some a) :
    a.IsReadable := by
  refine ⟨Address.value_lt h, ?_⟩
  intro z hz
  obtain ⟨hslash, h | h⟩ := Address.ofText?_eq_some_iff.mp h
  · obtain ⟨n, -, rfl⟩ := v4?_eq_some_iff.mp h
    cases hz
  · obtain ⟨address, zone, n, hzone, -, rfl⟩ := v6?_eq_some_iff.mp h
    obtain ⟨hne, hpercent, hmem⟩ := splitZone?_eq_some hzone z hz
    exact ⟨rfl, hne, hpercent, fun hc => hslash (hmem _ hc)⟩

theorem Address.isReadable_of_lt {v : Version} {n : Nat}
    (hn : n < 2 ^ v.width) :
    Address.IsReadable ⟨v, n, none⟩ where
  value_lt := hn
  zone := by
    intro z hz
    cases hz

theorem v4?_text {n : Nat} (hn : n < 2 ^ 32) :
    v4? (Address.text ⟨.v4, n, none⟩) = some ⟨.v4, n, none⟩ :=
  v4?_eq_some_iff.mpr ⟨n, v4Value?_v4Text hn, rfl⟩

theorem splitZone?_text {n : Nat} {zone : Option (List Char)}
    (hzone : ∀ z, zone = some z → z ≠ [] ∧ '%' ∉ z) :
    splitZone? (Address.text ⟨.v6, n, zone⟩) = some (v6Text n, zone) := by
  have hpercent : '%' ∉ v6Text n := notMem_v6Text (by decide) (by decide)
  cases zone with
  | none =>
    have htext : Address.text ⟨.v6, n, none⟩ = v6Text n := List.append_nil _
    rw [htext, splitZone?, Text.splitAt_of_notMem hpercent]
  | some z =>
    obtain ⟨hne, hz⟩ := hzone z rfl
    have hpieces : Text.splitAt '%' (Address.text ⟨.v6, n, some z⟩) =
        [v6Text n, z] := by
      rw [← Text.splitAt_of_notMem hz]
      exact Text.splitAt_append_sep hpercent z
    rw [splitZone?, hpieces]
    simp only [hne, if_false]

/-- An address that can be read is read from its text, by the reader of its
version. -/
theorem Address.IsReadable.address?_text {a : Address} (h : a.IsReadable) :
    a.version.address? a.text = some a := by
  obtain ⟨version, n, zone⟩ := a
  cases version with
  | v4 =>
    cases zone with
    | none => exact v4?_text h.value_lt
    | some z => cases (h.zone z rfl).1
  | v6 =>
    have hvalue : n < 2 ^ 128 := h.value_lt
    have hzone : ∀ z, zone = some z → z ≠ [] ∧ '%' ∉ z := by
      intro z hz
      obtain ⟨-, hne, hpercent, -⟩ := h.zone z hz
      exact ⟨hne, hpercent⟩
    change v6? (Address.text ⟨.v6, n, zone⟩) = _
    rw [v6?_eq_some_iff]
    exact ⟨v6Text n, zone, n, splitZone?_text hzone,
      v6Value?_v6Text hvalue, rfl⟩

/-- The text of an address has no slash, neither in its number nor in its
zone. -/
theorem Address.IsReadable.slash_notMem_text {a : Address}
    (h : a.IsReadable) :
    '/' ∉ a.text := by
  obtain ⟨version, n, zone⟩ := a
  cases version with
  | v4 =>
    intro hslash
    have hn : v4Value? (v4Text n) = some n := v4Value?_v4Text h.value_lt
    rcases eq_point_or_isDigit_of_v4Value? hn hslash with hpoint | hdigit
    · cases hpoint
    · cases hdigit
  | v6 =>
    have hnumber : '/' ∉ v6Text n := notMem_v6Text (by decide) (by decide)
    cases zone with
    | none =>
      change '/' ∉ v6Text n ++ []
      simpa using hnumber
    | some z =>
      obtain ⟨-, -, -, hz⟩ := h.zone z rfl
      change '/' ∉ v6Text n ++ '%' :: z
      simp [hnumber, hz]

theorem Address.IsReadable.ofText?_text {a : Address} (h : a.IsReadable) :
    Address.ofText? a.text = some a := by
  rw [Address.ofText?_eq_some_iff]
  refine ⟨h.slash_notMem_text, ?_⟩
  have hread := h.address?_text
  cases hversion : a.version with
  | v4 =>
    rw [hversion] at hread
    exact Or.inl hread
  | v6 =>
    rw [hversion] at hread
    exact Or.inr hread

theorem Address.IsReadable.text_ne_nil {a : Address} (h : a.IsReadable) :
    a.text ≠ [] := by
  intro hnil
  have hread := h.ofText?_text
  rw [hnil] at hread
  cases hread

/-- The text of an address does not begin with a blank. -/
theorem Address.IsReadable.isBlank_head?_text {a : Address} (h : a.IsReadable) :
    ∀ c ∈ a.text.head?, Text.isBlank c = false := by
  obtain ⟨version, n, zone⟩ := a
  intro c hc
  cases version with
  | v4 =>
    have hn : v4Value? (v4Text n) = some n := v4Value?_v4Text h.value_lt
    have hmem : c ∈ v4Text n := List.mem_of_mem_head? hc
    rcases eq_point_or_isDigit_of_v4Value? hn hmem with rfl | hdigit
    · decide
    · exact Text.isBlank_of_isHexDigit (by simp [Text.isHexDigit, hdigit])
  | v6 =>
    have hn : v6Value? (v6Text n) = some n := v6Value?_v6Text h.value_lt
    have hne : v6Text n ≠ [] := by
      intro hnil
      rw [hnil] at hn
      cases hn
    have hmem : c ∈ v6Text n := by
      rw [Address.text, List.head?_append_of_ne_nil _ hne] at hc
      exact List.mem_of_mem_head? hc
    rcases eq_colon_or_isHexDigit_of_mem_v6Text hmem with rfl | hdigit
    · decide
    · exact Text.isBlank_of_isHexDigit hdigit

end AccessRules.Network
