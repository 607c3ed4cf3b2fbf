import AccessRules.Proofs.Expression.Dependence
import AccessRules.Proofs.Expression.Rewriting
import AccessRules.Proofs.Expression.WellFormed

/-!
# Negation normal form

Negation is pushed down to the names, constants and calls, comparisons are
turned around by it, and each chain of comparisons becomes the `and` of the
comparisons of neighbours.  All this is done by the laws of rewriting.

No law leaves out a doubled negation, so all negations that arrive at a name, a
constant or a call stay in front of it.  In the plain normal form at most one of
them stays.  This makes no difference to an operand of `and`, `or` or `not`,
which is asked for its truth value anyway.  Where any value will do, as for
`(not not principal) == 'bob'`, a doubled negation does more than nothing: it
fails if there is no truth value behind it.
-/

namespace AccessRules.Expression

open Outcome
open AccessRules.Expression.Tree (junction)

/-- A comparison, or the one that holds where it does not. -/
def Comparator.turned (negated : Bool) (c : Comparator) : Comparator :=
  if negated then c.opposite?.getD c else c

namespace Tree

/-! ## Normal forms -/

/-- A tree behind `k` negations. -/
def negations (k : Nat) (t : Tree) : Tree :=
  negation^[k] t

/-- A comparison of two operands, or the comparisons of neighbours in a longer
chain, joined by `and` or by `or`. -/
def comparisons (isConj : Bool) (x : Tree) :
    List (Comparator × Tree) → Tree
  | [link] => comparison x [link]
  | links => junction isConj (neighbours x links)

mutual

/-- The normal form of a tree behind `k` negations.  How many of the negations
that arrive at an atom stay there is given by the first argument. -/
def normalBehind (stay : Nat → Nat) (k : Nat) : Tree → Tree
  | conj xs => junction (!k.bodd) (normalsBehind stay k xs)
  | disj xs => junction k.bodd (normalsBehind stay k xs)
  | negation x => normalBehind stay (k + 1) x
  | comparison x links =>
      comparisons (!k.bodd) (normalBehind stay 0 x)
        (normalLinks stay k.bodd links)
  | t => negations (stay k) t

/-- The normal forms of all operands. -/
def normalsBehind (stay : Nat → Nat) (k : Nat) : List Tree → List Tree
  | [] => []
  | x :: xs => normalBehind stay k x :: normalsBehind stay k xs

/-- The links of a chain, turned around if the chain is negated, with operands
in normal form. -/
def normalLinks (stay : Nat → Nat) (negated : Bool) :
    List (Comparator × Tree) → List (Comparator × Tree)
  | [] => []
  | (c, x) :: links =>
      (c.turned negated, normalBehind stay 0 x) ::
        normalLinks stay negated links

end

/-- The normal form of a tree in which all negations of atoms are kept. -/
def normalForm (t : Tree) : Tree :=
  normalBehind id 0 t

/-- The normal form of a tree in which an atom is negated at most once. -/
def plainForm (t : Tree) : Tree :=
  normalBehind (· % 2) 0 t

/-- Trees in normal form: negations stand in front of atoms only, as many as is
allowed, and comparisons have two operands. -/
inductive IsNormal (allowed : Set Nat) : Tree → Prop
  | atom {k : Nat} {t : Tree} (hk : k ∈ allowed) (hatom : t.isAtom) :
      IsNormal allowed (negations k t)
  | junction (isConj : Bool) {ts : List Tree}
      (hts : ∀ t ∈ ts, IsNormal allowed t) :
      IsNormal allowed (junction isConj ts)
  | comparison (c : Comparator) {x y : Tree} (hx : IsNormal allowed x)
      (hy : IsNormal allowed y) :
      IsNormal allowed (.comparison x [(c, y)])

/-- The operands of the comparison at a part, if there is one. -/
def comparandsAt : Node → List Tree
  | .tree (.comparison x links) => x :: links.map (·.2)
  | _ => []

/-- The operands of all comparisons within a tree. -/
def comparands (t : Tree) : List Tree :=
  t.walk.flatMap comparandsAt

/-- The plain form can take the place of a tree whose value is asked for: what
is left of it is no atom, or an atom whose value, if it has one, is a truth
value. -/
def KeepsKind (env : Environment) (t : Tree) : Prop :=
  t.isAtom = false → t.plainForm.isAtom = true →
    ∀ v, t.plainForm.eval env = .ok v → v.IsTruth

variable {env : Environment} {t u x : Tree} {ts : List Tree}
  {links : List (Comparator × Tree)} {stay : Nat → Nat} {k : Nat}

theorem negations_succ (k : Nat) (t : Tree) :
    negations (k + 1) t = negation (negations k t) :=
  Function.iterate_succ_apply' negation k t

theorem negation_comp_negations (k : Nat) :
    negation ∘ negations k = negations (k + 1) :=
  funext fun t => (negations_succ k t).symm

/-- The number of negations counts only by being even or odd. -/
theorem truthAsOperand_negations (env : Environment) (k : Nat) (t : Tree) :
    truthAsOperand env (negations k t) =
      (truthAsOperand env t).map (k.bodd ^^ ·) := by
  induction k with
  | zero =>
    change truthAsOperand env t = _
    cases truthAsOperand env t with
    | error f => rfl
    | ok b => simp [Except.map]
  | succ k ih =>
    rw [negations_succ, truthAsOperand_negation, ih, Nat.bodd_succ]
    cases truthAsOperand env t with
    | error f => rfl
    | ok b => simp [Except.map]

theorem normalsBehind_eq_map (stay : Nat → Nat) (k : Nat) (ts : List Tree) :
    normalsBehind stay k ts = ts.map (normalBehind stay k) := by
  induction ts with
  | nil => rfl
  | cons t ts ih => rw [normalsBehind, ih, List.map_cons]

theorem normalLinks_eq_map (stay : Nat → Nat) (negated : Bool)
    (links : List (Comparator × Tree)) :
    normalLinks stay negated links =
      (links.map fun l => (l.1, normalBehind stay 0 l.2)).map
        fun l => (l.1.turned negated, l.2) := by
  induction links with
  | nil => rfl
  | cons link links ih =>
    obtain ⟨c, x⟩ := link
    rw [normalLinks, ih, List.map_cons, List.map_cons]

/-- Operands behind negations stand beside their normal forms. -/
theorem forall₂_normalsBehind {R : Tree → Tree → Prop}
    (h : ∀ t ∈ ts, R (negations k t) (normalBehind stay k t)) :
    List.Forall₂ R (ts.map (negations k)) (normalsBehind stay k ts) := by
  rw [normalsBehind_eq_map, List.forall₂_map_left_iff,
    List.forall₂_map_right_iff, List.forall₂_same]
  exact h

/-- The links of a chain stand beside the same links with operands in normal
form. -/
theorem forall₂_normalOperands {R : Tree → Tree → Prop}
    (h : ∀ l ∈ links, R l.2 (normalBehind stay 0 l.2)) :
    List.Forall₂ (fun l l' => l'.1 = l.1 ∧ R l.2 l'.2) links
      (links.map fun l => (l.1, normalBehind stay 0 l.2)) := by
  rw [List.forall₂_map_right_iff, List.forall₂_same]
  exact fun l hl => ⟨rfl, h l hl⟩

theorem normalBehind_of_isAtom (stay : Nat → Nat) (k : Nat) (h : t.isAtom) :
    normalBehind stay k t = negations (stay k) t := by
  cases t with
  | conj | disj | negation | comparison => simp [isAtom] at h
  | _ => rw [normalBehind] <;> simp

/-! ## The laws lead to the normal form -/

theorem Rewrites.negations (h : Rewrites t u) (k : Nat) :
    Rewrites (negations k t) (negations k u) := by
  induction k with
  | zero => exact h
  | succ k ih =>
    rw [negations_succ, negations_succ]
    exact ih.negation

/-- Negations are pushed into the operands, and each of them lets `and` and `or`
change places. -/
theorem rewrites_negations_junction (k : Nat) (isConj : Bool)
    (ts : List Tree) :
    Rewrites (negations k (junction isConj ts))
      (junction (k.bodd ^^ isConj) (ts.map (negations k))) := by
  induction k with
  | zero =>
    rw [show negations 0 = id from rfl, List.map_id, Nat.bodd_zero,
      Bool.false_xor]
    exact .refl _
  | succ k ih =>
    have hpush := (Law.deMorgan (k.bodd ^^ isConj)
      (ts.map (negations k))).rewrites
    rw [List.map_map, negation_comp_negations, ← Bool.not_xor,
      ← Nat.bodd_succ] at hpush
    rw [negations_succ]
    exact ih.negation.trans hpush

theorem opposite?_turned {c : Comparator} (hc : c = .equal ∨ c = .unequal)
    (negated : Bool) :
    (c.turned negated).opposite? = some (c.turned !negated) := by
  rcases hc with rfl | rfl
  · cases negated <;> rfl
  · cases negated <;> rfl

theorem rewrites_negations_comparison {c : Comparator}
    (hc : c = .equal ∨ c = .unequal) (k : Nat) (x y : Tree) :
    Rewrites (negations k (comparison x [(c, y)]))
      (comparison x [(c.turned k.bodd, y)]) := by
  induction k with
  | zero => exact .refl _
  | succ k ih =>
    rw [negations_succ, Nat.bodd_succ]
    exact ih.negation.trans
      (Law.opposite (opposite?_turned hc k.bodd) x y).rewrites

theorem rewrites_negations_neighbours (k : Nat) (x : Tree)
    (hsigns : ∀ l ∈ links, l.1 = .equal ∨ l.1 = .unequal) :
    List.Forall₂ Rewrites ((neighbours x links).map (negations k))
      (neighbours x (links.map fun l => (l.1.turned k.bodd, l.2))) := by
  induction links generalizing x with
  | nil => exact .nil
  | cons link links ih =>
    obtain ⟨c, y⟩ := link
    obtain ⟨hc, hsigns⟩ := List.forall_mem_cons.mp hsigns
    exact .cons (rewrites_negations_comparison hc k x y) (ih y hsigns)

/-- A chain behind negations is taken apart, and all comparisons are turned
around if the number of the negations is odd. -/
theorem rewrites_comparisons (k : Nat) (x : Tree) (hne : links ≠ [])
    (hsigns : ∀ l ∈ links, l.1 = .equal ∨ l.1 = .unequal) :
    Rewrites (negations k (comparison x links))
      (comparisons (!k.bodd) x
        (links.map fun l => (l.1.turned k.bodd, l.2))) := by
  match links with
  | [(c, y)] =>
    exact rewrites_negations_comparison
      (hsigns (c, y) (List.mem_singleton_self _)) k x y
  | l :: l' :: links =>
    have hchain : Rewrites (comparison x (l :: l' :: links))
        (junction true (neighbours x (l :: l' :: links))) :=
      (Law.chain x (by simp)).rewrites
    have hpush := rewrites_negations_junction k true
      (neighbours x (l :: l' :: links))
    rw [Bool.xor_true] at hpush
    exact ((hchain.negations k).trans hpush).trans
      (.junction _ (rewrites_negations_neighbours k x hsigns))

theorem rewrites_normalsBehind (isConj : Bool)
    (hts : ∀ t ∈ ts, Rewrites (negations k t) (normalBehind id k t)) :
    Rewrites (negations k (junction isConj ts))
      (junction (k.bodd ^^ isConj) (normalsBehind id k ts)) :=
  (rewrites_negations_junction k isConj ts).trans
    (.junction _ (forall₂_normalsBehind hts))

theorem rewrites_normalLinks (hx : Rewrites x (normalBehind id 0 x))
    (hne : links ≠ [])
    (hsigns : ∀ l ∈ links, l.1 = .equal ∨ l.1 = .unequal)
    (hlinks : ∀ l ∈ links, Rewrites l.2 (normalBehind id 0 l.2)) :
    Rewrites (negations k (.comparison x links))
      (normalBehind id k (.comparison x links)) := by
  have hoperands : Rewrites (.comparison x links)
      (.comparison (normalBehind id 0 x)
        (links.map fun l => (l.1, normalBehind id 0 l.2))) :=
    hx.comparison (forall₂_normalOperands hlinks)
  rw [normalBehind, normalLinks_eq_map]
  refine (hoperands.negations k).trans (rewrites_comparisons k _ ?_ ?_)
  · exact mt List.map_eq_nil_iff.mp hne
  · rw [List.forall_mem_map]
    exact hsigns

/-- By the laws, a tree behind negations becomes its normal form with all
negations of atoms. -/
theorem Grammatical.rewrites_normalBehind (h : t.Grammatical)
    (hwell : t.WellFormed) (k : Nat) :
    Rewrites (negations k t) (normalBehind id k t) := by
  induction h generalizing k with
  | constant | name | call => exact .refl _
  | conj _ ih =>
    cases hwell with
    | conj _ hwell =>
      have hxs := rewrites_normalsBehind true fun x hx =>
        ih x hx (hwell x hx) k
      rwa [Bool.xor_true] at hxs
  | disj _ ih =>
    cases hwell with
    | disj _ hwell =>
      have hxs := rewrites_normalsBehind false fun x hx =>
        ih x hx (hwell x hx) k
      rwa [Bool.xor_false] at hxs
  | negation _ ih =>
    cases hwell with
    | negation hwell => exact ih hwell (k + 1)
  | comparison _ hsigns _ ihx ihlinks =>
    cases hwell with
    | comparison hx hne hlinks =>
      exact rewrites_normalLinks (ihx hx 0) hne hsigns fun l hl =>
        ihlinks l hl (hlinks l hl) 0

/-! ## Leaving out doubled negations -/

theorem forall_comparands_of_mem_children {P : Tree → Prop}
    (h : ∀ x ∈ t.comparands, P x) (hu : Node.tree u ∈ t.children) :
    ∀ x ∈ u.comparands, P x := by
  intro x hx
  obtain ⟨n, hn, hx⟩ := List.mem_flatMap.mp hx
  have hwithin : n.Within (.tree t) :=
    .trans (mem_walk_iff.mp hn) (.child hu .refl)
  exact h x (List.mem_flatMap.mpr ⟨n, mem_walk_iff.mpr hwithin, hx⟩)

theorem mem_comparands_comparison :
    ∀ y ∈ x :: links.map (·.2), y ∈ (comparison x links).comparands := by
  intro y hy
  rw [comparands, List.mem_flatMap]
  exact ⟨.tree (comparison x links), mem_walk_iff.mpr .refl, hy⟩

/-- With its kind kept, a tree has the same value or error as its plain form. -/
theorem KeepsKind.eval_plainForm (h : KeepsKind env t)
    (htruth : truthAsOperand env t.plainForm = truthAsOperand env t) :
    t.plainForm.eval env = t.eval env := by
  cases ht : t.isAtom with
  | true => rw [plainForm, normalBehind_of_isAtom _ _ ht]; rfl
  | false =>
    rw [eval_of_not_isAtom ht, ← htruth]
    cases hu : t.plainForm.isAtom with
    | false => exact eval_of_not_isAtom hu env
    | true =>
      cases hv : t.plainForm.eval env with
      | error f => rw [truthAsOperand, hv]; rfl
      | ok v =>
        obtain ⟨b, rfl⟩ := h ht hu v hv
        rw [truthAsOperand, hv]
        rfl

theorem Rewrites.truthAsOperand_eq (h : Rewrites t u) (env : Environment) :
    truthAsOperand env u = truthAsOperand env t := by
  rw [truthAsOperand, truthAsOperand, h.eval_eq env]

theorem truthAsOperand_negations_congr
    (h : truthAsOperand env u = truthAsOperand env t) (k : Nat) :
    truthAsOperand env (negations k u) =
      truthAsOperand env (negations k t) := by
  rw [truthAsOperand_negations, truthAsOperand_negations, h]

theorem truthAsOperand_negations_mod_two (env : Environment) (k : Nat)
    (t : Tree) :
    truthAsOperand env (negations (k % 2) t) =
      truthAsOperand env (negations k t) := by
  have hparity : (k % 2).bodd = k.bodd := by
    rw [Nat.mod_two_of_bodd]
    cases k.bodd <;> rfl
  rw [truthAsOperand_negations, truthAsOperand_negations, hparity]

theorem truthAsOperand_normalsBehind (isConj : Bool)
    (hts : ∀ t ∈ ts, truthAsOperand env (normalBehind stay k t) =
      truthAsOperand env (negations k t)) :
    truthAsOperand env (junction (k.bodd ^^ isConj) (normalsBehind stay k ts)) =
      truthAsOperand env (negations k (junction isConj ts)) := by
  have hoperands : List.Forall₂ (Mirrors env false) (ts.map (negations k))
      (normalsBehind stay k ts) :=
    forall₂_normalsBehind fun t ht => mirrors_false_iff.mpr (hts t ht)
  have hjunction := Mirrors.junction hoperands (k.bodd ^^ isConj)
  rw [mirrors_false_iff, Bool.false_xor] at hjunction
  rw [hjunction, (rewrites_negations_junction k isConj ts).truthAsOperand_eq]

theorem truthAsOperand_normalLinks (hne : links ≠ [])
    (hsigns : ∀ l ∈ links, l.1 = .equal ∨ l.1 = .unequal)
    (hx : (normalBehind stay 0 x).eval env = x.eval env)
    (hlinks : ∀ l ∈ links,
      (normalBehind stay 0 l.2).eval env = l.2.eval env) :
    truthAsOperand env (normalBehind stay k (.comparison x links)) =
      truthAsOperand env (negations k (.comparison x links)) := by
  have hsame : List.Forall₂
      (fun l l' => l'.1 = l.1 ∧ l'.2.eval env = l.2.eval env) links
      (links.map fun l => (l.1, normalBehind stay 0 l.2)) :=
    forall₂_normalOperands (R := fun x y => y.eval env = x.eval env) hlinks
  have hoperands : truthAsOperand env (.comparison (normalBehind stay 0 x)
      (links.map fun l => (l.1, normalBehind stay 0 l.2))) =
      truthAsOperand env (.comparison x links) := by
    rw [truthAsOperand_comparison, truthAsOperand_comparison, hx]
    simp only [evalLinks_congr hsame]
  have hne' : links.map (fun l => (l.1, normalBehind stay 0 l.2)) ≠ [] :=
    mt List.map_eq_nil_iff.mp hne
  have hrewrites := rewrites_comparisons k (normalBehind stay 0 x) hne'
    (List.forall_mem_map.mpr hsigns)
  rw [normalBehind, normalLinks_eq_map, hrewrites.truthAsOperand_eq,
    truthAsOperand_negations_congr hoperands]

/-- Where only its truth value is asked for, the doubled negations in a tree can
be left out, if its comparisons still get the same values. -/
theorem Grammatical.truthAsOperand_normalBehind (h : t.Grammatical)
    (hwell : t.WellFormed) (hkind : ∀ x ∈ t.comparands, x.KeepsKind env)
    (k : Nat) :
    truthAsOperand env (normalBehind (· % 2) k t) =
      truthAsOperand env (negations k t) := by
  induction h generalizing k with
  | constant | name | call => exact truthAsOperand_negations_mod_two env k _
  | conj _ ih =>
    cases hwell with
    | conj _ hwell =>
      have hxs := truthAsOperand_normalsBehind true fun x hx =>
        ih x hx (hwell x hx) (forall_comparands_of_mem_children hkind
          (List.mem_map_of_mem hx)) k
      rwa [Bool.xor_true] at hxs
  | disj _ ih =>
    cases hwell with
    | disj _ hwell =>
      have hxs := truthAsOperand_normalsBehind false fun x hx =>
        ih x hx (hwell x hx) (forall_comparands_of_mem_children hkind
          (List.mem_map_of_mem hx)) k
      rwa [Bool.xor_false] at hxs
  | negation _ ih =>
    cases hwell with
    | negation hwell =>
      exact ih hwell (forall_comparands_of_mem_children hkind
        (List.mem_singleton_self _)) (k + 1)
  | comparison _ hsigns _ ihx ihlinks =>
    cases hwell with
    | comparison hx hne hlinks =>
      refine truthAsOperand_normalLinks hne hsigns ?_ fun l hl => ?_
      · refine (hkind _ (mem_comparands_comparison _
          List.mem_cons_self)).eval_plainForm ?_
        exact ihx hx (forall_comparands_of_mem_children hkind
          List.mem_cons_self) 0
      · refine (hkind _ (mem_comparands_comparison _ (List.mem_cons_of_mem _
          (List.mem_map_of_mem hl)))).eval_plainForm ?_
        exact ihlinks l hl (hlinks l hl) (forall_comparands_of_mem_children
          hkind (link_mem_children hl)) 0

/-! ## The shape of the normal form -/

theorem isNormal_neighbours {allowed : Set Nat} (hx : IsNormal allowed x)
    (hlinks : ∀ l ∈ links, IsNormal allowed l.2) :
    ∀ t ∈ neighbours x links, IsNormal allowed t := by
  induction links generalizing x with
  | nil => exact List.forall_mem_nil _
  | cons link links ih =>
    obtain ⟨c, y⟩ := link
    obtain ⟨hy, hlinks⟩ := List.forall_mem_cons.mp hlinks
    rw [neighbours, List.forall_mem_cons]
    exact ⟨.comparison c hx hy, ih hy hlinks⟩

theorem isNormal_comparisons {allowed : Set Nat} (isConj : Bool)
    (hx : IsNormal allowed x) (hlinks : ∀ l ∈ links, IsNormal allowed l.2) :
    IsNormal allowed (comparisons isConj x links) := by
  match links with
  | [(c, y)] =>
    exact .comparison c hx (hlinks (c, y) (List.mem_singleton_self _))
  | [] | _ :: _ :: _ =>
    exact .junction isConj (isNormal_neighbours hx hlinks)

theorem isNormal_normalsBehind {allowed : Set Nat} (isConj : Bool)
    (hts : ∀ t ∈ ts, IsNormal allowed (normalBehind stay k t)) :
    IsNormal allowed (junction isConj (normalsBehind stay k ts)) := by
  rw [normalsBehind_eq_map]
  exact .junction isConj (List.forall_mem_map.mpr hts)

theorem Grammatical.isNormal_normalBehind {allowed : Set Nat}
    (hstay : ∀ k, stay k ∈ allowed) (h : t.Grammatical) (k : Nat) :
    IsNormal allowed (normalBehind stay k t) := by
  induction h generalizing k with
  | constant | name | call => exact .atom (hstay k) rfl
  | conj _ ih | disj _ ih =>
    exact isNormal_normalsBehind _ fun x hx => ih x hx k
  | negation _ ih => exact ih (k + 1)
  | comparison _ _ _ ihx ihlinks =>
    rw [normalBehind, normalLinks_eq_map]
    refine isNormal_comparisons _ (ihx 0) ?_
    rw [List.forall_mem_map, List.forall_mem_map]
    exact fun l hl => ihlinks l hl 0

/-! ## Rewriting keeps the outcome -/

theorem evaluate_congr (h : u.eval env = t.eval env) (text : String) :
    u.evaluate env text = t.evaluate env text := by
  rw [evaluate, evaluate, h]

/-- An accepted tree stays accepted wherever and however often the laws are
applied, and evaluates to the same truth value or the same error as before.

A tree that is read from a text is well formed, see `wellFormed_of_compile`, and
the laws lead from it to its normal form, in which all comparisons have two
operands and negations stand in front of atoms only.  Doubled negations can be
left out there, too, where the operands of comparisons, and the tree itself,
keep the kind of their values. -/
theorem evaluate_eq_of_rewrites (h : t.Grammatical) :
    (∀ u, Rewrites t u → u.Grammatical ∧
      ∀ env text, u.evaluate env text = t.evaluate env text) ∧
    (t.WellFormed →
      Rewrites t t.normalForm ∧ t.normalForm.Grammatical ∧
      t.normalForm.IsNormal Set.univ ∧
      (∀ env text, t.normalForm.evaluate env text = t.evaluate env text) ∧
      t.plainForm.IsNormal {k | k < 2} ∧
      ∀ env, (∀ x ∈ t :: t.comparands, x.KeepsKind env) →
        ∀ text, t.plainForm.evaluate env text = t.evaluate env text) := by
  have hlaws (u : Tree) (hu : Rewrites t u) : u.Grammatical ∧
      ∀ env text, u.evaluate env text = t.evaluate env text :=
    ⟨hu.grammatical_iff.mp h, fun env text =>
      evaluate_congr (hu.eval_eq env) text⟩
  refine ⟨hlaws, fun hwell => ?_⟩
  have hnormal : Rewrites t t.normalForm := h.rewrites_normalBehind hwell 0
  obtain ⟨hgrammatical, heval⟩ := hlaws _ hnormal
  refine ⟨hnormal, hgrammatical,
    h.isNormal_normalBehind (fun _ => Set.mem_univ _) 0, heval,
    h.isNormal_normalBehind (fun k => Nat.mod_lt k Nat.two_pos) 0, ?_⟩
  intro env hkind text
  obtain ⟨hroot, hcomparands⟩ := List.forall_mem_cons.mp hkind
  have htruth : truthAsOperand env t.plainForm = truthAsOperand env t :=
    h.truthAsOperand_normalBehind hwell hcomparands 0
  exact evaluate_congr (hroot.eval_plainForm htruth) text

/-- A negated conjunction of a doubled negation and a chain of comparisons. -/
theorem evaluate_eq_of_rewrites_chain :
    let s := "not (not not f(1) and x == y != 2)"
    let call := Tree.call (.name "f") [.constant (.integer 1)] false
    let chain := comparison (.name "x")
      [(.equal, .name "y"), (.unequal, .constant (.integer 2))]
    let t := negation (conj [negation (negation call), chain])
    let turned := disj [comparison (.name "x") [(.unequal, .name "y")],
      comparison (.name "y") [(.equal, .constant (.integer 2))]]
    let normal := disj [negation (negation (negation call)), turned]
    let plain := disj [negation call, turned]
    compile (some s) = .ok t ∧ t.Grammatical ∧ t.WellFormed ∧
      Rewrites t normal ∧ t.normalForm = normal ∧ t.plainForm = plain ∧
      ∀ env text, normal.evaluate env text = t.evaluate env text ∧
        plain.evaluate env text = t.evaluate env text := by
  intro s call chain t turned normal plain
  have hcompile : compile (some s) = .ok t := by decide +kernel
  have hgrammatical : t.Grammatical :=
    (accepted_of_compile hcompile).grammatical
  have hwell : t.WellFormed := wellFormed_of_compile hcompile
  have hnormal : t.normalForm = normal := by decide +kernel
  have hplain : t.plainForm = plain := by decide +kernel
  have hkind (env : Environment) :
      ∀ x ∈ t :: t.comparands, x.KeepsKind env := by
    have hcomparands : t.comparands =
        [.name "x", .name "y", .constant (.integer 2)] := by decide +kernel
    rw [hcomparands]
    simp only [List.forall_mem_cons, List.not_mem_nil, false_implies,
      forall_const, and_true]
    refine ⟨fun _ hatom => ?_, ?_, ?_, ?_⟩
    · rw [hplain] at hatom
      cases hatom
    all_goals
      intro hatom
      cases hatom
  obtain ⟨-, hforms⟩ := evaluate_eq_of_rewrites hgrammatical
  obtain ⟨hrewrites, -, -, heval, -, hundoubled⟩ := hforms hwell
  rw [hnormal] at hrewrites heval
  rw [hplain] at hundoubled
  exact ⟨hcompile, hgrammatical, hwell, hrewrites, hnormal, hplain,
    fun env text => ⟨heval env text, hundoubled env (hkind env) text⟩⟩

/-- Without its doubled negation, the left operand of this comparison is a text,
and no longer fails. -/
theorem evaluate_plainForm_ne :
    let s := "(not not principal) == 'bob'"
    let t := comparison (negation (negation (.name "principal")))
      [(.equal, .constant (.text "bob"))]
    let u := comparison (.name "principal") [(.equal, .constant (.text "bob"))]
    let env : Environment := ⟨fun _ => none, fun x =>
      if x = "principal" then some (.text "bob") else none⟩
    compile (some s) = .ok t ∧ t.plainForm = u ∧
      t.evaluate env s = .error (.operandNotTruth (.text "bob")) ∧
      u.evaluate env s = .ok true := by
  decide +kernel

end Tree

end AccessRules.Expression
