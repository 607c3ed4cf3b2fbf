import AccessRules.Rule.Table
import Mathlib.Data.List.Nodup
import Mathlib.Tactic.ByContra

/-!
# The order and the content of lookup tables

A table is made from a list of registrations, and the same pattern may occur in
it more than once.  Its first and its last occurrence count in different ways: a
pattern stands where it came first, and it has the attributes that came last.

Both are kept when one more registration is put into a table.  So they hold of
the table of any list, and the search for the first pattern with a property can
be read off the registrations.
-/

namespace AccessRules

/-- The last registration of a pattern is the one with the given attributes. -/
def LastRegistered (registrations : List (Matcher × List Attribute))
    (m : Matcher) (as : List Attribute) : Prop :=
  ∃ earlier later, registrations = earlier ++ (m, as) :: later ∧
    m ∉ later.map Prod.fst

namespace LastRegistered

variable {registrations : List (Matcher × List Attribute)} {m : Matcher}
  {as bs : List Attribute}

theorem mem (h : LastRegistered registrations m as) :
    (m, as) ∈ registrations := by
  obtain ⟨earlier, later, rfl, -⟩ := h
  simp

theorem snoc (registrations : List (Matcher × List Attribute)) (m : Matcher)
    (as : List Attribute) :
    LastRegistered (registrations ++ [(m, as)]) m as :=
  ⟨registrations, [], rfl, by simp⟩

theorem snoc_of_ne {n : Matcher} (h : LastRegistered registrations m as)
    (hne : m ≠ n) :
    LastRegistered (registrations ++ [(n, bs)]) m as := by
  obtain ⟨earlier, later, rfl, hlater⟩ := h
  refine ⟨earlier, later ++ [(n, bs)], by simp, ?_⟩
  simpa [hne] using hlater

/-- A pattern that is registered once has the attributes of that
registration. -/
theorem eq_of_nodup (hnodup : (registrations.map Prod.fst).Nodup)
    (h : LastRegistered registrations m as) (hmem : (m, bs) ∈ registrations) :
    as = bs := by
  have hpair := List.inj_on_of_nodup_map hnodup h.mem hmem rfl
  exact congrArg Prod.snd hpair

end LastRegistered

/-! ## Lists of first occurrences -/

/-- A list holds the elements of another one, each of them once, in the order of
their first occurrences. -/
structure ListsFirsts {α : Type} [DecidableEq α] (firsts xs : List α) :
    Prop where
  nodup : firsts.Nodup
  mem_iff : ∀ a, a ∈ firsts ↔ a ∈ xs
  order : firsts.Pairwise fun a b => xs.idxOf a < xs.idxOf b

namespace ListsFirsts

variable {α : Type} [DecidableEq α] {firsts xs : List α} {a : α}

theorem nil : ListsFirsts ([] : List α) [] where
  nodup := List.nodup_nil
  mem_iff := fun _ => Iff.rfl
  order := List.Pairwise.nil

/-- First places do not move when one more element is read, since it stands
behind all others. -/
theorem order_concat (h : ListsFirsts firsts xs) (a : α) :
    firsts.Pairwise fun b c => (xs ++ [a]).idxOf b < (xs ++ [a]).idxOf c := by
  have hplace : ∀ b ∈ firsts, (xs ++ [a]).idxOf b = xs.idxOf b := by
    intro b hb
    exact List.idxOf_append_of_mem ((h.mem_iff b).mp hb)
  apply h.order.imp_of_mem
  intro b c hb hc hlt
  rwa [hplace b hb, hplace c hc]

theorem concat_of_mem (h : ListsFirsts firsts xs) (ha : a ∈ firsts) :
    ListsFirsts firsts (xs ++ [a]) where
  nodup := h.nodup
  mem_iff := by
    intro b
    rw [List.mem_append, List.mem_singleton, ← h.mem_iff b]
    constructor
    · exact Or.inl
    · rintro (hb | rfl)
      · exact hb
      · exact ha
  order := h.order_concat a

theorem concat_of_notMem (h : ListsFirsts firsts xs) (ha : a ∉ firsts) :
    ListsFirsts (firsts ++ [a]) (xs ++ [a]) where
  nodup := List.nodup_append.mpr
    ⟨h.nodup, List.nodup_singleton a, by
      intro b hb c hc heq
      rw [List.mem_singleton] at hc
      exact ha (hc ▸ heq ▸ hb)⟩
  mem_iff := by
    intro b
    rw [List.mem_append, List.mem_append, h.mem_iff b]
  order := by
    refine List.pairwise_append.mpr
      ⟨h.order_concat a, List.pairwise_singleton _ a, ?_⟩
    intro b hb c hc
    have hread : b ∈ xs := (h.mem_iff b).mp hb
    rw [List.mem_singleton.mp hc, List.idxOf_append_of_mem hread,
      List.idxOf_append_of_notMem (mt (h.mem_iff a).mpr ha)]
    have hlt := List.idxOf_lt_length_of_mem hread
    omega

end ListsFirsts

/-! ## Patterns of registrations -/

theorem forall_bne_fst_iff {registrations : List (Matcher × List Attribute)}
    {m : Matcher} :
    (∀ e ∈ registrations, (m != e.1) = true) ↔
      m ∉ registrations.map Prod.fst := by
  rw [← List.forall_mem_ne, List.forall_mem_map]
  simp only [bne_iff_ne, ne_eq]

namespace LookupTable

theorem get?_eq_none_iff {t : LookupTable} {m : Matcher} :
    t.get? m = none ↔ m ∉ t.keys := by
  rw [get?, List.lookup_eq_none_iff, forall_bne_fst_iff, keys]

/-! ## Putting one registration into a table -/

theorem keys_replaced_of_mem {m : Matcher} (as : List Attribute)
    {entries : List (Matcher × List Attribute)}
    (h : m ∈ entries.map Prod.fst) :
    (replaced m as entries).map Prod.fst = entries.map Prod.fst := by
  induction entries with
  | nil => simp at h
  | cons e entries ih =>
    by_cases heq : e.1 = m
    · simp [replaced, heq]
    · have htail : m ∈ entries.map Prod.fst := by
        simpa [Ne.symm heq] using h
      simp [replaced, heq, ih htail]

theorem replaced_of_notMem {m : Matcher} (as : List Attribute)
    {entries : List (Matcher × List Attribute)}
    (h : m ∉ entries.map Prod.fst) :
    replaced m as entries = entries ++ [(m, as)] := by
  induction entries with
  | nil => rfl
  | cons e entries ih =>
    rw [List.map_cons, List.mem_cons, not_or] at h
    simp [replaced, Ne.symm h.1, ih h.2]

/-- Entries under other patterns stay as they are. -/
theorem mem_replaced {m n : Matcher} {as bs : List Attribute}
    {entries : List (Matcher × List Attribute)}
    (hnodup : (entries.map Prod.fst).Nodup)
    (h : (n, bs) ∈ replaced m as entries) :
    (n, bs) = (m, as) ∨ n ≠ m ∧ (n, bs) ∈ entries := by
  induction entries with
  | nil => exact Or.inl (by simpa [replaced] using h)
  | cons e entries ih =>
    rw [List.map_cons, List.nodup_cons] at hnodup
    by_cases heq : e.1 = m
    · rw [replaced, if_pos heq, List.mem_cons] at h
      rcases h with h | h
      · exact Or.inl (by rw [h, heq])
      · have hkey : n ∈ entries.map Prod.fst := List.mem_map_of_mem h
        have hne : n ≠ m := by
          rintro rfl
          exact hnodup.1 (heq ▸ hkey)
        exact Or.inr ⟨hne, List.mem_cons_of_mem e h⟩
    · rw [replaced, if_neg heq, List.mem_cons] at h
      rcases h with h | h
      · refine Or.inr ⟨?_, List.mem_cons.mpr (Or.inl h)⟩
        rintro rfl
        exact heq (congrArg Prod.fst h).symm
      · rcases ih hnodup.2 h with hnew | ⟨hne, hold⟩
        · exact Or.inl hnew
        · exact Or.inr ⟨hne, List.mem_cons_of_mem e hold⟩

/-! ## What a table says about its registrations -/

/-- A table holds what a list of registrations says: every pattern once, in the
order of the first registrations, with the attributes of its last one. -/
structure Reflects (t : LookupTable)
    (registrations : List (Matcher × List Attribute)) : Prop where
  nodup : t.keys.Nodup
  mem_keys : ∀ m, m ∈ t.keys ↔ m ∈ registrations.map Prod.fst
  order : t.keys.Pairwise fun m n =>
    (registrations.map Prod.fst).idxOf m < (registrations.map Prod.fst).idxOf n
  content : ∀ m as, (m, as) ∈ t.entries → LastRegistered registrations m as

theorem reflects_empty : empty.Reflects [] where
  nodup := List.nodup_nil
  mem_keys := by simp [keys, empty]
  order := List.Pairwise.nil
  content := by simp [empty]

namespace Reflects

variable {t : LookupTable} {registrations : List (Matcher × List Attribute)}

/-- The patterns of a table are those of its registrations. -/
theorem lists_keys (h : t.Reflects registrations) :
    ListsFirsts t.keys (registrations.map Prod.fst) :=
  ⟨h.nodup, h.mem_keys, h.order⟩

theorem lists_keys_put (h : t.Reflects registrations) (m : Matcher)
    (as : List Attribute) :
    ListsFirsts (t.put m as).keys
      ((registrations ++ [(m, as)]).map Prod.fst) := by
  rw [List.map_append, List.map_singleton]
  by_cases hm : m ∈ t.keys
  · rw [LookupTable.put, keys, keys_replaced_of_mem as hm]
    exact h.lists_keys.concat_of_mem hm
  · rw [LookupTable.put, keys, replaced_of_notMem as hm,
      List.map_append, List.map_singleton]
    exact h.lists_keys.concat_of_notMem hm

theorem put_content (h : t.Reflects registrations) (m : Matcher)
    (as : List Attribute) (n : Matcher) (bs : List Attribute)
    (hmem : (n, bs) ∈ (t.put m as).entries) :
    LastRegistered (registrations ++ [(m, as)]) n bs := by
  rcases mem_replaced h.nodup hmem with hnew | ⟨hne, hold⟩
  · rw [(Prod.mk.inj hnew).1, (Prod.mk.inj hnew).2]
    exact LastRegistered.snoc registrations m as
  · exact (h.content n bs hold).snoc_of_ne hne

/-- One more registration. -/
theorem put (h : t.Reflects registrations) (m : Matcher)
    (as : List Attribute) :
    (t.put m as).Reflects (registrations ++ [(m, as)]) where
  nodup := (h.lists_keys_put m as).nodup
  mem_keys := (h.lists_keys_put m as).mem_iff
  order := (h.lists_keys_put m as).order
  content := h.put_content m as

/-- Any number of further registrations. -/
theorem putAll (h : t.Reflects registrations)
    (more : List (Matcher × List Attribute)) :
    (t.putAll more).value.Reflects (registrations ++ more) := by
  induction more generalizing t registrations with
  | nil => simpa [LookupTable.putAll, Logged.quiet] using h
  | cons e more ih =>
    have hrest := ih (h.put e.1 e.2)
    rwa [List.append_assoc, List.singleton_append] at hrest

end Reflects

theorem reflects_ofEntries (registrations : List (Matcher × List Attribute)) :
    (ofEntries registrations).value.Reflects registrations :=
  reflects_empty.putAll registrations

/-! ## Searching a table -/

/-- An element stands no further back than any of its occurrences. -/
theorem idxOf_append_cons_le (ms ns : List Matcher) (m : Matcher) :
    (ms ++ m :: ns).idxOf m ≤ ms.length := by
  by_cases hm : m ∈ ms
  · rw [List.idxOf_append_of_mem hm]
    exact Nat.le_of_lt (List.idxOf_lt_length_of_mem hm)
  · rw [List.idxOf_append_of_notMem hm, List.idxOf_cons_self]
    exact Nat.le_refl _

/-- What stands before one of the occurrences of an element stands in front of
that occurrence. -/
theorem mem_of_idxOf_lt {ms ns : List Matcher} {m n : Matcher}
    (h : (ms ++ m :: ns).idxOf n < (ms ++ m :: ns).idxOf m) :
    n ∈ ms := by
  by_contra hn
  rw [List.idxOf_append_of_notMem hn] at h
  have hle := idxOf_append_cons_le ms ns m
  omega

/-- The first entry with a property stands under the pattern that was the first
one registered with it. -/
theorem Reflects.find?_eq_some {t : LookupTable}
    {earlier later : List (Matcher × List Attribute)} {m : Matcher}
    {cs : List Attribute} {p : Matcher → Bool}
    (h : t.Reflects (earlier ++ (m, cs) :: later))
    (hearlier : ∀ e ∈ earlier, p e.1 = false) (hm : p m = true) :
    ∃ as, t.entries.find? (fun e => p e.1) = some (m, as) ∧
      LastRegistered (earlier ++ (m, cs) :: later) m as := by
  have hkey : m ∈ t.keys := (h.mem_keys m).mpr (by simp)
  obtain ⟨⟨n, as⟩, hentry, hnm⟩ := List.mem_map.mp hkey
  obtain rfl : n = m := hnm
  refine ⟨as, ?_, h.content n as hentry⟩
  obtain ⟨before, after, hsplit⟩ := List.append_of_mem hentry
  rw [List.find?_eq_some_iff_append]
  refine ⟨hm, before, after, hsplit, ?_⟩
  intro e he
  have hkeys : t.keys = before.map Prod.fst ++ n :: after.map Prod.fst := by
    rw [keys, hsplit]
    simp
  have horder := h.order
  rw [hkeys, List.pairwise_append, List.map_append] at horder
  -- an entry before that one was registered before it, and so lacks the
  -- property
  have hmem : e.1 ∈ earlier.map Prod.fst :=
    mem_of_idxOf_lt (horder.2.2 e.1 (List.mem_map_of_mem he) n (by simp))
  obtain ⟨d, hd, hde⟩ := List.mem_map.mp hmem
  rw [← hde, hearlier d hd]
  rfl

theorem Reflects.find?_eq_none_iff {t : LookupTable}
    {registrations : List (Matcher × List Attribute)} {p : Matcher → Bool}
    (h : t.Reflects registrations) :
    t.entries.find? (fun e => p e.1) = none ↔
      ∀ e ∈ registrations, p e.1 = false := by
  have hkeys : (∀ m ∈ t.keys, p m = false) ↔
      ∀ m ∈ registrations.map Prod.fst, p m = false := by
    simp only [h.mem_keys]
  rw [keys, List.forall_mem_map, List.forall_mem_map] at hkeys
  rw [← hkeys, List.find?_eq_none]
  simp only [Bool.not_eq_true]

end LookupTable

end AccessRules
