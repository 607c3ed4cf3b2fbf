import AccessRules.Proofs.Expression.Operand
import AccessRules.Proofs.Expression.Whitelist

/-!
# What an evaluation asks for

The evaluation of a tree asks its parts for values, and the operands of `and`,
`or` and `not` for truth values.  It comes to an operand or a link only if those
before it let it go on.  The evaluation succeeds exactly if all atoms that it
comes to give what they are asked for.
-/

namespace AccessRules.Expression.Tree

open Outcome

/-- The operands that are asked for their truth values, up to the first that
does not have a given one. -/
inductive AsksOperand (env : Environment) (isConj : Bool) :
    List Tree → Tree → Prop
  | head (t : Tree) (ts : List Tree) : AsksOperand env isConj (t :: ts) t
  | tail {t u : Tree} {ts : List Tree}
      (ht : t.eval env = .ok (.truth isConj))
      (h : AsksOperand env isConj ts u) :
      AsksOperand env isConj (t :: ts) u

/-- The operands of a chain that are asked for their values, the first operand
apart. -/
inductive AsksLinked (env : Environment) :
    Literal → List (Comparator × Tree) → Tree → Prop
  | head (v : Literal) (c : Comparator) (t : Tree)
      (links : List (Comparator × Tree)) :
      AsksLinked env v ((c, t) :: links) t
  | tail {v w : Literal} {c : Comparator} {t u : Tree}
      {links : List (Comparator × Tree)} (ht : t.eval env = .ok w)
      (hholds : c.holds v w = .ok true) (h : AsksLinked env w links u) :
      AsksLinked env v ((c, t) :: links) u

/-- A part directly below a tree that the evaluation asks for a value, or for a
truth value. -/
inductive Asks (env : Environment) : Tree → Bool → Tree → Prop
  | conj {ts : List Tree} {u : Tree} (h : AsksOperand env true ts u) :
      Asks env (.conj ts) true u
  | disj {ts : List Tree} {u : Tree} (h : AsksOperand env false ts u) :
      Asks env (.disj ts) true u
  | negation (t : Tree) : Asks env (.negation t) true t
  | first (t : Tree) (links : List (Comparator × Tree)) :
      Asks env (.comparison t links) false t
  | linked {t u : Tree} {links : List (Comparator × Tree)} {v : Literal}
      (ht : t.eval env = .ok v) (h : AsksLinked env v links u) :
      Asks env (.comparison t links) false u

/-- A part at any depth that the evaluation of a tree asks for a value, or for a
truth value. -/
inductive Demands (env : Environment) : Bool → Tree → Bool → Tree → Prop
  | refl (truth : Bool) (t : Tree) : Demands env truth t truth t
  | step {truth asked last : Bool} {t u v : Tree} (h : Asks env t asked u)
      (hv : Demands env asked u last v) :
      Demands env truth t last v

/-- A tree has a value, and a truth value if it is asked for one. -/
def Gives (env : Environment) (truth : Bool) (t : Tree) : Prop :=
  ∃ v, t.eval env = .ok v ∧ (truth = true → v.IsTruth)

variable {env : Environment} {truth asked last isConj : Bool} {t u : Tree}
  {ts : List Tree} {links : List (Comparator × Tree)}

theorem gives_true_iff :
    Gives env true t ↔ ∃ b, truthAsOperand env t = .ok b := by
  simp only [Gives, truthAsOperand_eq_ok_iff, forall_const, Literal.IsTruth]
  constructor
  · rintro ⟨v, hv, b, rfl⟩
    exact ⟨b, hv⟩
  · rintro ⟨b, hb⟩
    exact ⟨.truth b, hb, b, rfl⟩

theorem gives_false_iff : Gives env false t ↔ ∃ v, t.eval env = .ok v := by
  simp [Gives]

theorem gives_iff_of_not_isAtom (h : t.isAtom = false) :
    Gives env truth t ↔ ∃ b, truthAsOperand env t = .ok b := by
  rw [← gives_true_iff, Gives, Gives]
  simp only [eval_of_not_isAtom h, map_eq_ok_iff]
  constructor
  · rintro ⟨v, ⟨b, hb, rfl⟩, -⟩
    exact ⟨.truth b, ⟨b, hb, rfl⟩, fun _ => ⟨b, rfl⟩⟩
  · rintro ⟨v, hv, htruth⟩
    exact ⟨v, hv, fun _ => htruth trivial⟩

/-! ## Operands and links -/

theorem forall_asksOperand_cons_iff {p : Tree → Prop} :
    (∀ u, AsksOperand env isConj (t :: ts) u → p u) ↔
      p t ∧ (truthAsOperand env t = .ok isConj →
        ∀ u, AsksOperand env isConj ts u → p u) := by
  constructor
  · intro h
    refine ⟨h t (.head t ts), ?_⟩
    intro ht u hu
    exact h u (.tail (truthAsOperand_eq_ok_iff.mp ht) hu)
  · rintro ⟨ht, hts⟩ u hu
    cases hu with
    | head => exact ht
    | tail hvalue hu => exact hts (truthAsOperand_eq_ok_iff.mpr hvalue) u hu

theorem exists_truthAsOperand_junction_iff :
    (∃ b, truthAsOperand env (junction isConj ts) = .ok b) ↔
      ∀ u, AsksOperand env isConj ts u → Gives env true u := by
  induction ts with
  | nil =>
    refine iff_of_true ⟨isConj, truthAsOperand_junction_nil env isConj⟩ ?_
    intro u hu
    cases hu
  | cons t ts ih =>
    rw [forall_asksOperand_cons_iff, ← ih, gives_true_iff,
      truthAsOperand_junction_cons]
    cases truthAsOperand env t with
    | error f => simp [bind, Except.bind]
    | ok b =>
      by_cases hb : b = isConj
      · simp [bind, Except.bind, hb]
      · simp [bind, Except.bind, hb]

theorem forall_asksLinked_cons_iff {p : Tree → Prop} {v : Literal}
    {c : Comparator} :
    (∀ u, AsksLinked env v ((c, t) :: links) u → p u) ↔
      p t ∧ ∀ w, t.eval env = .ok w → c.holds v w = .ok true →
        ∀ u, AsksLinked env w links u → p u := by
  constructor
  · intro h
    refine ⟨h t (.head v c t links), ?_⟩
    intro w hw hholds u hu
    exact h u (.tail hw hholds hu)
  · rintro ⟨ht, hlinks⟩ u hu
    cases hu with
    | head => exact ht
    | tail hw hholds hu => exact hlinks _ hw hholds u hu

theorem exists_evalLinks_iff
    (hsigns : ∀ l ∈ links, l.1 = .equal ∨ l.1 = .unequal) (v : Literal) :
    (∃ b, evalLinks env v links = .ok b) ↔
      ∀ u, AsksLinked env v links u → Gives env false u := by
  induction links generalizing v with
  | nil =>
    refine iff_of_true ⟨true, rfl⟩ ?_
    intro u hu
    cases hu
  | cons link links ih =>
    obtain ⟨c, t⟩ := link
    rw [List.forall_mem_cons] at hsigns
    obtain ⟨hc, hsigns⟩ := hsigns
    rw [forall_asksLinked_cons_iff, gives_false_iff, evalLinks]
    cases ht : t.eval env with
    | error f => simp [bind, Except.bind]
    | ok w =>
      obtain ⟨b, hb⟩ : ∃ b, c.holds v w = .ok b := by
        rcases hc with rfl | rfl
        · exact ⟨_, rfl⟩
        · exact ⟨_, rfl⟩
      cases b with
      | false => simp [bind, Except.bind, hb]
      | true => simp [bind, Except.bind, hb, ih hsigns]

/-! ## Parts directly below a tree -/

theorem AsksOperand.mem (h : AsksOperand env isConj ts u) : u ∈ ts := by
  induction h with
  | head t ts => exact List.mem_cons_self
  | tail _ _ ih => exact List.mem_cons_of_mem _ ih

theorem AsksLinked.mem {v : Literal} (h : AsksLinked env v links u) :
    ∃ c, (c, u) ∈ links := by
  induction h with
  | head v c t links => exact ⟨c, List.mem_cons_self⟩
  | tail _ _ _ ih =>
    obtain ⟨c, hc⟩ := ih
    exact ⟨c, List.mem_cons_of_mem _ hc⟩

theorem Asks.mem_children (h : Asks env t asked u) :
    Node.tree u ∈ t.children := by
  cases h with
  | conj h | disj h => exact List.mem_map_of_mem h.mem
  | negation => exact List.mem_singleton_self _
  | first => exact List.mem_cons_self
  | linked _ h =>
    obtain ⟨c, hc⟩ := h.mem
    exact link_mem_children hc

theorem Asks.not_isAtom (h : Asks env t asked u) : t.isAtom = false := by
  cases h with
  | conj | disj | negation | first | linked => rfl

theorem Asks.grammatical (h : Asks env t asked u) (ht : t.Grammatical) :
    u.Grammatical := by
  have hnode : (Node.tree t).Grammatical := ht
  exact hnode.child h.mem_children

theorem forall_asks_junction_iff {p : Bool → Tree → Prop} :
    (∀ asked u, Asks env (junction isConj ts) asked u → p asked u) ↔
      ∀ u, AsksOperand env isConj ts u → p true u := by
  constructor
  · intro h u hu
    cases isConj with
    | true => exact h true u (.conj hu)
    | false => exact h true u (.disj hu)
  · intro h asked u hu
    cases isConj with
    | true =>
      cases hu with
      | conj hu => exact h u hu
    | false =>
      cases hu with
      | disj hu => exact h u hu

theorem forall_asks_negation_iff {p : Bool → Tree → Prop} :
    (∀ asked u, Asks env (.negation t) asked u → p asked u) ↔ p true t := by
  refine ⟨fun h => h true t (.negation t), ?_⟩
  intro h asked u hu
  cases hu with
  | negation => exact h

theorem forall_asks_comparison_iff {p : Bool → Tree → Prop} :
    (∀ asked u, Asks env (.comparison t links) asked u → p asked u) ↔
      p false t ∧ ∀ v, t.eval env = .ok v →
        ∀ u, AsksLinked env v links u → p false u := by
  constructor
  · intro h
    exact ⟨h false t (.first t links),
      fun v hv u hu => h false u (.linked hv hu)⟩
  · rintro ⟨ht, hlinks⟩ asked u hu
    cases hu with
    | first => exact ht
    | linked hv hu => exact hlinks _ hv u hu

/-- An operation has a value exactly if each part that it asks gives what it is
asked for. -/
theorem gives_iff_forall_asks (ht : t.Grammatical) (hatom : t.isAtom = false) :
    Gives env truth t ↔ ∀ asked u, Asks env t asked u → Gives env asked u := by
  rw [gives_iff_of_not_isAtom hatom]
  cases ht with
  | constant | name | call => cases hatom
  | conj _ =>
    rw [← junction_true, exists_truthAsOperand_junction_iff,
      forall_asks_junction_iff]
  | disj _ =>
    rw [← junction_false, exists_truthAsOperand_junction_iff,
      forall_asks_junction_iff]
  | negation _ =>
    rw [forall_asks_negation_iff, gives_true_iff, truthAsOperand_negation]
    simp only [map_eq_ok_iff]
    constructor
    · rintro ⟨-, b, hb, -⟩
      exact ⟨b, hb⟩
    · rintro ⟨b, hb⟩
      exact ⟨!b, b, hb, rfl⟩
  | comparison _ hsigns _ =>
    rw [forall_asks_comparison_iff, gives_false_iff, truthAsOperand_comparison]
    simp only [bind_eq_ok_iff, ← exists_evalLinks_iff hsigns]
    constructor
    · rintro ⟨b, v, hv, hb⟩
      refine ⟨⟨v, hv⟩, ?_⟩
      intro w hw
      obtain rfl := Except.ok.inj (hv.symm.trans hw)
      exact ⟨b, hb⟩
    · rintro ⟨⟨v, hv⟩, hlinks⟩
      obtain ⟨b, hb⟩ := hlinks v hv
      exact ⟨b, v, hv, hb⟩

/-! ## Parts at any depth -/

theorem Demands.contains (h : Demands env truth t last u) : t.Contains u := by
  induction h with
  | refl truth t => exact .refl t
  | step h _ ih => exact (contains_of_mem_children h.mem_children).trans ih

theorem Demands.gives (h : Demands env truth t last u) (ht : t.Grammatical)
    (hgives : Gives env truth t) :
    Gives env last u := by
  induction h with
  | refl => exact hgives
  | step h _ ih =>
    have hasked := (gives_iff_forall_asks ht h.not_isAtom).mp hgives
    exact ih (h.grammatical ht) (hasked _ _ h)

/-- The evaluation of a tree succeeds exactly if all atoms that it comes to give
what they are asked for. -/
theorem gives_iff_forall_demands (ht : t.Grammatical) :
    Gives env truth t ↔ ∀ last u, Demands env truth t last u →
      u.isAtom → Gives env last u := by
  refine ⟨fun hgives last u hu _ => hu.gives ht hgives, ?_⟩
  induction t using induction_children generalizing truth with
  | step t ih =>
  intro h
  cases hatom : t.isAtom with
  | true => exact h truth t (.refl truth t) hatom
  | false =>
    rw [gives_iff_forall_asks ht hatom]
    intro asked u hu
    refine ih u hu.mem_children (hu.grammatical ht) ?_
    intro last v hv
    exact h last v (.step hu hv)

end AccessRules.Expression.Tree
