import AccessRules.Proofs.Expression.Operand
import AccessRules.Proofs.Expression.Whitelist

/-!
# Rewriting of expressions

Some laws of two-valued logic hold for expressions as they are evaluated here,
where operands are looked at from the left, and only as far as they are needed,
and where an operand may fail or may be no truth value.  They may be applied in
both directions and anywhere in a tree, and neither the value of the tree nor
its error changes.

That a doubled negation can be left out is not among them: it also asks whether
the tree behind it has a truth value.
-/

namespace AccessRules.Expression

open Outcome
open AccessRules.Expression.Tree (junction)

/-- The comparison that holds where another one does not.  Only comparisons for
equality have one. -/
def Comparator.opposite? : Comparator → Option Comparator
  | equal => some unequal
  | unequal => some equal
  | _ => none

namespace Tree

/-- The comparisons of neighbouring operands of a chain. -/
def neighbours (x : Tree) : List (Comparator × Tree) → List Tree
  | [] => []
  | (c, y) :: links => .comparison x [(c, y)] :: neighbours y links

/-- The laws of rewriting: operands of the same operator are joined to the
operands around them, negation is pushed inwards, it turns a comparison around,
and a chain of comparisons is taken apart. -/
inductive Law : Tree → Tree → Prop
  | flatten (isConj : Bool) (xs ys zs : List Tree) :
      Law (junction isConj (xs ++ junction isConj ys :: zs))
        (junction isConj (xs ++ (ys ++ zs)))
  | deMorgan (isConj : Bool) (xs : List Tree) :
      Law (.negation (junction isConj xs))
        (junction (!isConj) (xs.map .negation))
  | opposite {c d : Comparator} (h : c.opposite? = some d) (x y : Tree) :
      Law (.negation (.comparison x [(c, y)])) (.comparison x [(d, y)])
  | chain (x : Tree) {links : List (Comparator × Tree)}
      (h : 2 ≤ links.length) :
      Law (.comparison x links) (.conj (neighbours x links))

/-- A law is applied to one part of a tree.  The arguments of calls are
literals, and no law applies to them. -/
inductive Step : Tree → Tree → Prop
  | law {t u : Tree} (h : Law t u) : Step t u
  | operand (isConj : Bool) (before after : List Tree) {t u : Tree}
      (h : Step t u) :
      Step (junction isConj (before ++ t :: after))
        (junction isConj (before ++ u :: after))
  | negation {t u : Tree} (h : Step t u) :
      Step (.negation t) (.negation u)
  | first {t u : Tree} (h : Step t u) (links : List (Comparator × Tree)) :
      Step (.comparison t links) (.comparison u links)
  | linked (x : Tree) (before : List (Comparator × Tree)) (c : Comparator)
      {t u : Tree} (h : Step t u) (after : List (Comparator × Tree)) :
      Step (.comparison x (before ++ (c, t) :: after))
        (.comparison x (before ++ (c, u) :: after))

/-- Trees that can be rewritten into each other, by any number of steps in
either direction. -/
def Rewrites : Tree → Tree → Prop :=
  Relation.EqvGen Step

end Tree

/-! ## Laws keep the outcome -/

section

variable {env : Environment} {t u : Tree} {ts us : List Tree}
  {negated isConj : Bool}

/-- As an operand, a tree has the truth value of another one, or the opposite of
it. -/
def Tree.Mirrors (env : Environment) (negated : Bool) (t u : Tree) : Prop :=
  truthAsOperand env u = (truthAsOperand env t).map (negated ^^ ·)

theorem Tree.mirrors_false_iff :
    Mirrors env false t u ↔ truthAsOperand env u = truthAsOperand env t := by
  rw [Mirrors]
  cases truthAsOperand env t with
  | ok b => simp [Except.map]
  | error f => simp [Except.map]

theorem Tree.mirrors_negation (env : Environment) (t : Tree) :
    Mirrors env true t (.negation t) := by
  rw [Mirrors, truthAsOperand_negation]
  simp only [Bool.true_xor]

theorem Tree.Mirrors.eval_negation (h : Mirrors env true t u) :
    (negation t).eval env = (truthAsOperand env u).map .truth := by
  rw [AccessRules.eval_negation, h]
  simp only [Bool.true_xor]

/-- If all operands have opposite truth values, `and` and `or` change places. -/
theorem Tree.Mirrors.junction
    (h : List.Forall₂ (Mirrors env negated) ts us) (isConj : Bool) :
    Mirrors env negated (Tree.junction isConj ts)
      (Tree.junction (negated ^^ isConj) us) := by
  induction h with
  | nil => simp [Mirrors, Except.map]
  | @cons t u ts us htu _ ih =>
    rw [Mirrors] at htu ih
    rw [Mirrors, truthAsOperand_junction_cons,
      truthAsOperand_junction_cons, htu]
    cases truthAsOperand env t with
    | error f => rfl
    | ok b =>
      simp only [Except.map, bind, Except.bind, Bool.bne_right_inj]
      by_cases hb : b = isConj
      · simp only [hb, if_true]
        exact ih
      · simp only [hb, if_false]

/-- A chain of comparisons holds if all comparisons of neighbours do.  Each
operand in the middle is evaluated twice then, and has the same value both
times. -/
theorem truthAsOperand_neighbours {v : Literal} (hv : t.eval env = .ok v)
    (links : List (Comparator × Tree)) :
    truthAsOperand env (.conj (Tree.neighbours t links)) =
      Tree.evalLinks env v links := by
  induction links generalizing t v with
  | nil => rfl
  | cons link links ih =>
    obtain ⟨c, y⟩ := link
    rw [Tree.neighbours, ← junction_true, truthAsOperand_junction_cons,
      truthAsOperand_comparison, hv, Tree.evalLinks]
    cases hy : y.eval env with
    | error f => simp [bind, Except.bind, Tree.evalLinks, hy]
    | ok w =>
      simp only [bind, Except.bind, Tree.evalLinks, hy]
      cases c.holds v w with
      | error f => rfl
      | ok b =>
        cases b with
        | true => exact ih hy
        | false => rfl

theorem truthAsOperand_chain {links : List (Comparator × Tree)}
    (hlinks : links ≠ []) (t : Tree) (env : Environment) :
    truthAsOperand env (.conj (Tree.neighbours t links)) =
      truthAsOperand env (.comparison t links) := by
  cases hv : t.eval env with
  | ok v =>
    rw [truthAsOperand_neighbours hv, truthAsOperand_comparison, hv]
    rfl
  | error f =>
    cases links with
    | nil => exact absurd rfl hlinks
    | cons link links =>
      obtain ⟨c, y⟩ := link
      rw [Tree.neighbours, ← junction_true, truthAsOperand_junction_cons,
        truthAsOperand_comparison, truthAsOperand_comparison, hv]
      rfl

theorem Comparator.holds_opposite {c d : Comparator}
    (h : c.opposite? = some d) (v w : Literal) :
    d.holds v w = (c.holds v w).map (!·) := by
  cases c with
  | equal | unequal =>
    cases h
    simp [holds, Except.map]
  | _ => cases h

theorem Tree.mirrors_opposite {c d : Comparator} (h : c.opposite? = some d)
    (x y : Tree) (env : Environment) :
    Mirrors env true (.comparison x [(c, y)]) (.comparison x [(d, y)]) := by
  rw [Mirrors, truthAsOperand_comparison, truthAsOperand_comparison]
  cases x.eval env with
  | error f => rfl
  | ok v =>
    simp only [bind, Except.bind, evalLinks]
    cases y.eval env with
    | error f => rfl
    | ok w =>
      simp only [Comparator.holds_opposite h]
      cases c.holds v w with
      | error f => rfl
      | ok b => cases b <;> rfl

theorem Tree.Law.eval_eq (h : Law t u) (env : Environment) :
    u.eval env = t.eval env := by
  cases h with
  | flatten isConj xs ys zs =>
    rw [eval_junction, eval_junction, truthAsOperand_junction_append,
      truthAsOperand_junction_append isConj ys, truthAsOperand_junction_append,
      truthAsOperand_junction_cons]
  | deMorgan isConj xs =>
    have hmirrors : List.Forall₂ (Mirrors env true) xs (xs.map .negation) := by
      rw [List.forall₂_map_right_iff, List.forall₂_same]
      exact fun x _ => mirrors_negation env x
    rw [eval_junction, (Mirrors.junction hmirrors isConj).eval_negation,
      Bool.true_xor]
  | opposite hcd x y =>
    rw [eval_comparison, ← truthAsOperand_comparison,
      (mirrors_opposite hcd x y env).eval_negation]
  | @chain x links hlength =>
    have hlinks : links ≠ [] := List.ne_nil_of_length_pos (by omega)
    rw [← junction_true, eval_junction, junction_true,
      truthAsOperand_chain hlinks, eval_comparison, truthAsOperand_comparison]

/-- Chains with the same comparisons of operands with the same outcomes have the
same outcome. -/
theorem Tree.evalLinks_congr {links links' : List (Comparator × Tree)}
    (h : List.Forall₂
      (fun l l' => l'.1 = l.1 ∧ l'.2.eval env = l.2.eval env) links links')
    (v : Literal) :
    evalLinks env v links' = evalLinks env v links := by
  induction h generalizing v with
  | nil => rfl
  | @cons l l' links links' hl _ ih =>
    obtain ⟨c, x⟩ := l
    obtain ⟨c', x'⟩ := l'
    obtain ⟨rfl, hx⟩ : c' = c ∧ x'.eval env = x.eval env := hl
    rw [evalLinks, evalLinks, hx]
    simp only [ih]

theorem Tree.Step.eval_eq (h : Step t u) (env : Environment) :
    u.eval env = t.eval env := by
  induction h with
  | law h => exact h.eval_eq env
  | operand isConj before after _ ih =>
    rw [eval_junction, eval_junction, truthAsOperand_junction_append,
      truthAsOperand_junction_append, truthAsOperand_junction_cons,
      truthAsOperand_junction_cons]
    simp only [truthAsOperand, ih]
  | negation _ ih =>
    rw [eval_negation, eval_negation, truthAsOperand, truthAsOperand, ih]
  | first _ links ih => rw [eval_comparison, eval_comparison, ih]
  | @linked x before c t u _ after ih =>
    have hsame (links : List (Comparator × Tree)) : List.Forall₂
        (fun l l' => l'.1 = l.1 ∧ l'.2.eval env = l.2.eval env) links links :=
      List.forall₂_same.mpr fun _ _ => ⟨rfl, rfl⟩
    have hlinks : List.Forall₂
        (fun l l' => l'.1 = l.1 ∧ l'.2.eval env = l.2.eval env)
        (before ++ (c, t) :: after) (before ++ (c, u) :: after) :=
      List.rel_append (hsame before) (.cons ⟨rfl, ih⟩ (hsame after))
    rw [eval_comparison, eval_comparison]
    simp only [evalLinks_congr hlinks]

end

/-! ## Laws keep the grammar -/

namespace Tree

variable {t u : Tree} {ts : List Tree}

theorem grammatical_junction_iff {isConj : Bool} :
    (junction isConj ts).Grammatical ↔ ∀ t ∈ ts, t.Grammatical := by
  cases isConj with
  | true =>
    refine ⟨fun h => ?_, .conj⟩
    cases h with
    | conj hts => exact hts
  | false =>
    refine ⟨fun h => ?_, .disj⟩
    cases h with
    | disj hts => exact hts

theorem grammatical_negation_iff :
    (negation t).Grammatical ↔ t.Grammatical := by
  refine ⟨fun h => ?_, .negation⟩
  cases h with
  | negation ht => exact ht

theorem grammatical_comparison_iff {links : List (Comparator × Tree)} :
    (comparison t links).Grammatical ↔ t.Grammatical ∧
      ∀ l ∈ links, (l.1 = .equal ∨ l.1 = .unequal) ∧ l.2.Grammatical := by
  constructor
  · intro h
    cases h with
    | comparison ht hsigns hlinks =>
      exact ⟨ht, fun l hl => ⟨hsigns l hl, hlinks l hl⟩⟩
  · rintro ⟨ht, hlinks⟩
    exact .comparison ht (fun l hl => (hlinks l hl).1)
      fun l hl => (hlinks l hl).2

theorem forall_grammatical_neighbours_iff {links : List (Comparator × Tree)}
    (hlinks : links ≠ []) :
    (∀ u ∈ neighbours t links, u.Grammatical) ↔
      (comparison t links).Grammatical := by
  induction links generalizing t with
  | nil => exact absurd rfl hlinks
  | cons link links ih =>
    obtain ⟨c, y⟩ := link
    rw [neighbours, List.forall_mem_cons, grammatical_comparison_iff,
      grammatical_comparison_iff, List.forall_mem_singleton,
      List.forall_mem_cons]
    cases links with
    | nil => simp [neighbours]
    | cons link links =>
      rw [ih (List.cons_ne_nil _ _), grammatical_comparison_iff]
      tauto

theorem Law.grammatical_iff (h : Law t u) :
    t.Grammatical ↔ u.Grammatical := by
  cases h with
  | flatten isConj xs ys zs =>
    simp only [grammatical_junction_iff, List.forall_mem_append,
      List.forall_mem_cons]
  | deMorgan isConj xs =>
    simp only [grammatical_negation_iff, grammatical_junction_iff,
      List.forall_mem_map]
  | @opposite c d hcd x y =>
    rw [grammatical_negation_iff, grammatical_comparison_iff,
      grammatical_comparison_iff]
    cases c with
    | equal | unequal =>
      cases hcd
      simp
    | _ => cases hcd
  | @chain x links hlength =>
    have hlinks : links ≠ [] := List.ne_nil_of_length_pos (by omega)
    rw [← junction_true, grammatical_junction_iff,
      forall_grammatical_neighbours_iff hlinks]

theorem Step.grammatical_iff (h : Step t u) :
    t.Grammatical ↔ u.Grammatical := by
  induction h with
  | law h => exact h.grammatical_iff
  | operand isConj before after _ ih =>
    simp only [grammatical_junction_iff, List.forall_mem_append,
      List.forall_mem_cons, ih]
  | negation _ ih => simp only [grammatical_negation_iff, ih]
  | first _ links ih => simp only [grammatical_comparison_iff, ih]
  | linked x before c _ after ih =>
    simp only [grammatical_comparison_iff, List.forall_mem_append,
      List.forall_mem_cons, ih]

/-! ## Any number of steps -/

theorem Rewrites.eval_eq (h : Rewrites t u) (env : Environment) :
    u.eval env = t.eval env := by
  induction h with
  | rel t u h => exact h.eval_eq env
  | refl t => rfl
  | symm t u _ ih => exact ih.symm
  | trans t u v _ _ ih ih' => exact ih'.trans ih

theorem Rewrites.grammatical_iff (h : Rewrites t u) :
    t.Grammatical ↔ u.Grammatical := by
  induction h with
  | rel t u h => exact h.grammatical_iff
  | refl t => exact Iff.rfl
  | symm t u _ ih => exact ih.symm
  | trans t u v _ _ ih ih' => exact ih.trans ih'

/-! ## Rewriting parts of a tree -/

theorem Rewrites.refl (t : Tree) : Rewrites t t :=
  Relation.EqvGen.refl t

theorem Rewrites.trans {v : Tree} (htu : Rewrites t u) (huv : Rewrites u v) :
    Rewrites t v :=
  Relation.EqvGen.trans t u v htu huv

theorem Law.rewrites (h : Law t u) : Rewrites t u :=
  Relation.EqvGen.rel t u (.law h)

/-- A tree around another one is rewritten as often as the other one. -/
theorem Rewrites.lift {f : Tree → Tree}
    (hf : ∀ t u, Step t u → Step (f t) (f u)) (h : Rewrites t u) :
    Rewrites (f t) (f u) := by
  induction h with
  | rel t u h => exact .rel _ _ (hf t u h)
  | refl t => exact .refl _
  | symm t u _ ih => exact .symm _ _ ih
  | trans t u v _ _ ih ih' => exact ih.trans ih'

theorem Rewrites.negation (h : Rewrites t u) :
    Rewrites (.negation t) (.negation u) :=
  h.lift fun _ _ => Step.negation

theorem Rewrites.junction {us : List Tree} (isConj : Bool)
    (h : List.Forall₂ Rewrites ts us) :
    Rewrites (junction isConj ts) (junction isConj us) := by
  -- the operands in front have been rewritten already
  suffices hbefore : ∀ before, Rewrites (Tree.junction isConj (before ++ ts))
      (Tree.junction isConj (before ++ us)) from hbefore []
  induction h with
  | nil => exact fun _ => .refl _
  | @cons t u ts us htu _ ih =>
    intro before
    have hfirst : Rewrites (Tree.junction isConj (before ++ t :: ts))
        (Tree.junction isConj (before ++ u :: ts)) :=
      htu.lift fun _ _ => Step.operand isConj before ts
    have hothers := ih (before ++ [u])
    rw [List.append_assoc, List.append_assoc] at hothers
    exact hfirst.trans hothers

theorem Rewrites.comparison (h : Rewrites t u)
    {links links' : List (Comparator × Tree)}
    (hlinks : List.Forall₂
      (fun l l' => l'.1 = l.1 ∧ Rewrites l.2 l'.2) links links') :
    Rewrites (.comparison t links) (.comparison u links') := by
  have hfirst : Rewrites (.comparison t links) (.comparison u links) :=
    h.lift fun _ _ ht => .first ht links
  suffices hbefore : ∀ before, Rewrites (.comparison u (before ++ links))
      (.comparison u (before ++ links')) from hfirst.trans (hbefore [])
  clear hfirst
  induction hlinks with
  | nil => exact fun _ => .refl _
  | @cons l l' links links' hl _ ih =>
    obtain ⟨c, x⟩ := l
    obtain ⟨c', x'⟩ := l'
    obtain ⟨rfl, hx⟩ : c' = c ∧ Rewrites x x' := hl
    intro before
    have hlink : Rewrites (.comparison u (before ++ (c', x) :: links))
        (.comparison u (before ++ (c', x') :: links)) :=
      hx.lift fun _ _ hx => .linked u before c' hx links
    have hothers := ih (before ++ [(c', x')])
    rw [List.append_assoc, List.append_assoc] at hothers
    exact hlink.trans hothers

end Tree

end AccessRules.Expression
