import AccessRules.Proofs.Expression.Whitelist

/-!
# Places in a tree

A place is the way down to a part of a tree: at each step, it tells which of the
parts directly below is taken.  Equal parts at different places are different
occurrences.

The walk through a tree goes to each of its places once: to shorter places
before longer ones, and among places of one length from left to right.
-/

namespace AccessRules.Expression

/-- The way down from a part to a part within it. -/
abbrev Place := List Nat

/-- The part at a place below a part. -/
def Node.at? : Node → Place → Option Node
  | n, [] => some n
  | n, i :: p => n.children[i]?.bind fun c => c.at? p

namespace Node

theorem at?_append (n : Node) (p q : Place) :
    n.at? (p ++ q) = (n.at? p).bind (·.at? q) := by
  induction p generalizing n with
  | nil => rfl
  | cons i p ih =>
    rw [List.cons_append, at?, at?, Option.bind_assoc]
    simp only [ih]

theorem at?_concat (n : Node) (p : Place) (i : Nat) :
    n.at? (p ++ [i]) = (n.at? p).bind (·.children[i]?) := by
  simp only [at?_append, at?, Option.bind_fun_some]

/-- What lies within a part are the parts at its places. -/
theorem within_iff_exists_at? {m n : Node} :
    m.Within n ↔ ∃ p, n.at? p = some m := by
  constructor
  · intro h
    induction h with
    | refl => exact ⟨[], rfl⟩
    | child hc _ ih =>
      obtain ⟨p, hp⟩ := ih
      obtain ⟨i, hi⟩ := List.mem_iff_getElem?.mp hc
      exact ⟨i :: p, by rw [at?, hi, Option.bind_some, hp]⟩
  · rintro ⟨p, hp⟩
    induction p generalizing n with
    | nil =>
      obtain rfl := Option.some.inj hp
      exact .refl
    | cons i p ih =>
      obtain ⟨c, hc, hcp⟩ := Option.bind_eq_some_iff.mp hp
      exact .child (List.mem_of_getElem? hc) (ih hcp)

/-- No part lies deeper than there are parts. -/
theorem length_lt_size {m n : Node} {p : Place} (h : n.at? p = some m) :
    p.length < n.size := by
  induction p generalizing n with
  | nil =>
    rw [n.size_eq]
    exact Nat.succ_pos _
  | cons i p ih =>
    obtain ⟨c, hc, hcp⟩ := Option.bind_eq_some_iff.mp h
    have hlt : p.length < c.size := ih hcp
    have hle : c.size ≤ (n.children.map size).sum :=
      List.single_le_sum (by simp) _
        (List.mem_map_of_mem (List.mem_of_getElem? hc))
    rw [n.size_eq, List.length_cons]
    omega

/-! ## The places of a row -/

/-- The places a number of steps below a part, from left to right. -/
def placesAt : Nat → Node → List Place
  | 0, _ => [[]]
  | d + 1, n =>
    n.children.zipIdx.flatMap fun (c, i) => (placesAt d c).map (i :: ·)

theorem mem_placesAt_iff {n : Node} {d : Nat} {p : Place} :
    p ∈ n.placesAt d ↔ p.length = d ∧ (n.at? p).isSome := by
  induction d generalizing n p with
  | zero =>
    rw [placesAt, List.mem_singleton, List.length_eq_zero_iff]
    constructor
    · rintro rfl
      exact ⟨rfl, rfl⟩
    · exact And.left
  | succ d ih =>
    rw [placesAt, List.mem_flatMap]
    constructor
    · rintro ⟨⟨c, i⟩, hc, hp⟩
      obtain ⟨q, hq, rfl⟩ := List.mem_map.mp hp
      obtain ⟨hlength, hsome⟩ := ih.mp hq
      rw [at?, List.mk_mem_zipIdx_iff_getElem?.mp hc]
      exact ⟨congrArg Nat.succ hlength, hsome⟩
    · rintro ⟨hlength, hsome⟩
      cases p with
      | nil => cases hlength
      | cons i q =>
        obtain ⟨m, hm⟩ := Option.isSome_iff_exists.mp hsome
        obtain ⟨c, hc, hcq⟩ := Option.bind_eq_some_iff.mp hm
        have hq : q ∈ c.placesAt d :=
          ih.mpr ⟨Nat.succ.inj hlength, by rw [hcq]; rfl⟩
        exact ⟨(c, i), List.mk_mem_zipIdx_iff_getElem?.mpr hc,
          List.mem_map_of_mem hq⟩

theorem pairwise_placesAt (n : Node) (d : Nat) :
    (n.placesAt d).Pairwise (List.Lex (· < ·)) := by
  induction d generalizing n with
  | zero => exact List.pairwise_singleton _ _
  | succ d ih =>
    rw [placesAt, List.pairwise_flatMap]
    constructor
    · rintro ⟨c, i⟩ -
      rw [List.pairwise_map]
      exact (ih c).imp .cons
    · -- the places below different parts already differ in their first steps
      have hindices : (n.children.zipIdx.map Prod.snd).Pairwise (· < ·) := by
        rw [List.zipIdx_map_snd]
        exact List.pairwise_lt_range' 1
      rw [List.pairwise_map] at hindices
      refine hindices.imp ?_
      rintro ⟨c, i⟩ ⟨e, j⟩ hij p hp q hq
      obtain ⟨p, -, rfl⟩ := List.mem_map.mp hp
      obtain ⟨q, -, rfl⟩ := List.mem_map.mp hq
      exact .rel hij

end Node

theorem rowBelow_eq_flatMap (row : List Node) (d : Nat) :
    rowBelow row d = row.flatMap fun n => rowBelow [n] d := by
  induction d generalizing row with
  | zero => simp [rowBelow]
  | succ d ih =>
    simp only [rowBelow, List.flatMap_singleton]
    rw [ih, List.flatMap_assoc]
    simp only [← ih]

/-- The places of a row lead to its parts, in the same order. -/
theorem Node.map_at?_placesAt (n : Node) (d : Nat) :
    (n.placesAt d).map n.at? = (rowBelow [n] d).map some := by
  induction d generalizing n with
  | zero => rfl
  | succ d ih =>
    have hbelow : ∀ e ∈ n.children.zipIdx,
        ((e.1.placesAt d).map (e.2 :: ·)).map n.at? =
          (rowBelow [e.1] d).map some := by
      rintro ⟨c, i⟩ hc
      have hi : n.children[i]? = some c := List.mk_mem_zipIdx_iff_getElem?.mp hc
      rw [← ih, List.map_map]
      apply List.map_congr_left
      intro p _
      rw [Function.comp_apply, at?, hi, Option.bind_some]
    calc
      (n.placesAt (d + 1)).map n.at? =
          n.children.zipIdx.flatMap fun e => (rowBelow [e.1] d).map some := by
        rw [placesAt, List.map_flatMap]
        exact List.flatMap_congr hbelow
      _ = (n.children.zipIdx.map Prod.fst).flatMap fun c =>
            (rowBelow [c] d).map some := by
        rw [List.flatMap_map]
      _ = (rowBelow [n] (d + 1)).map some := by
        rw [List.zipIdx_map_fst, ← List.map_flatMap, ← rowBelow_eq_flatMap]
        simp only [rowBelow, List.flatMap_singleton]

/-! ## The places of a tree -/

namespace Tree

/-- The places of a tree, row by row. -/
def places (t : Tree) : List Place :=
  (List.range t.size).flatMap fun d => (Node.tree t).placesAt d

theorem mem_places_iff {t : Tree} {p : Place} :
    p ∈ t.places ↔ ((Node.tree t).at? p).isSome := by
  simp only [places, List.mem_flatMap, Node.mem_placesAt_iff, List.mem_range]
  constructor
  · rintro ⟨d, -, -, hsome⟩
    exact hsome
  · intro hsome
    obtain ⟨m, hm⟩ := Option.isSome_iff_exists.mp hsome
    exact ⟨p.length, Node.length_lt_size hm, rfl, hsome⟩

/-- Shorter places stand before longer ones, and places of one length stand from
left to right. -/
theorem pairwise_places (t : Tree) :
    t.places.Pairwise (List.Shortlex (· < ·)) := by
  rw [places, List.pairwise_flatMap]
  constructor
  · intro d _
    refine (Node.pairwise_placesAt _ d).imp_of_mem ?_
    intro p q hp hq hpq
    have hlength : p.length = q.length :=
      (Node.mem_placesAt_iff.mp hp).1.trans (Node.mem_placesAt_iff.mp hq).1.symm
    exact .of_lex hlength hpq
  · refine List.pairwise_lt_range.imp ?_
    intro d e hde p hp q hq
    obtain ⟨rfl, -⟩ := Node.mem_placesAt_iff.mp hp
    obtain ⟨rfl, -⟩ := Node.mem_placesAt_iff.mp hq
    exact .of_length_lt hde

/-- The walk visits what stands at the places of the tree, in their order. -/
theorem map_at?_places (t : Tree) :
    t.places.map (Node.tree t).at? = t.walk.map some := by
  rw [places, walk_eq_rows, List.map_flatMap, List.map_flatMap]
  simp only [Node.map_at?_placesAt]
  rfl

/-- What a walk collects stands at the places of the tree. -/
theorem filterMap_walk {α : Type} (t : Tree) (item? : Node → Option α) :
    t.walk.filterMap item? =
      t.places.filterMap fun p => ((Node.tree t).at? p).bind item? := by
  calc
    t.walk.filterMap item? = (t.walk.map some).filterMap (·.bind item?) := by
      rw [List.filterMap_map]
      rfl
    _ = t.places.filterMap fun p => ((Node.tree t).at? p).bind item? := by
      rw [← map_at?_places, List.filterMap_map]
      rfl

end Tree

end AccessRules.Expression
