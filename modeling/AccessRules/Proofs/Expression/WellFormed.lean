import AccessRules.Expression.Compile
import AccessRules.Proofs.Expression.Parts

/-!
# Trees that come from texts

A tree can hold an `and` or an `or` with fewer than two operands, and a chain
of comparisons without a link.  No text is read as such a tree: the readers of
the grammar keep a single operand as it is.

What holds of every answer of a reader is put together from what holds of the
answers of the readers that it calls.
-/

namespace AccessRules.Expression

/-- A tree whose `and` and `or` have at least two operands each, and whose
chains of comparisons have at least one link each. -/
inductive Tree.WellFormed : Tree → Prop
  | constant (v : Literal) : WellFormed (.constant v)
  | name (x : String) : WellFormed (.name x)
  | signed (s : Sign) : WellFormed (.signed s)
  | unsupported (c : Construct) : WellFormed (.unsupported c)
  | conj {xs : List Tree} (hlength : 2 ≤ xs.length)
      (hxs : ∀ x ∈ xs, WellFormed x) : WellFormed (.conj xs)
  | disj {xs : List Tree} (hlength : 2 ≤ xs.length)
      (hxs : ∀ x ∈ xs, WellFormed x) : WellFormed (.disj xs)
  | negation {x : Tree} (hx : WellFormed x) : WellFormed (.negation x)
  | comparison {x : Tree} {links : List (Comparator × Tree)}
      (hx : WellFormed x) (hne : links ≠ [])
      (hlinks : ∀ l ∈ links, WellFormed l.2) :
      WellFormed (.comparison x links)
  | call {f : Tree} {args : List Tree} (hf : WellFormed f)
      (hargs : ∀ x ∈ args, WellFormed x) (k : Bool) :
      WellFormed (.call f args k)

/-! ## Answers of readers -/

namespace Reader

variable {α β : Type} {P : α → Prop} {Q : β → Prop}

/-- What is read has a property, if anything is. -/
def Answers (P : α → Prop) (x : Option (α × List Token)) : Prop :=
  ∀ a rest, x = some (a, rest) → P a

/-- Whatever a reader answers has a property. -/
def Gives (P : α → Prop) (r : Reader α) : Prop :=
  ∀ ts, Answers P (r ts)

theorem Answers.none : Answers P none := by
  rintro a rest ⟨⟩

theorem Answers.some {a : α} (h : P a) (rest : List Token) :
    Answers P (some (a, rest)) := by
  rintro _ _ ⟨⟩
  exact h

theorem Answers.map {x : Option (α × List Token)} (hx : Answers P x)
    {g : α × List Token → β × List Token}
    (hg : ∀ a rest, P a → Q (g (a, rest)).1) :
    Answers Q (x.map g) := by
  intro b rest hb
  obtain ⟨⟨a, us⟩, ha, hb⟩ := Option.map_eq_some_iff.mp hb
  have hq : Q (g (a, us)).1 := hg a us (hx a us ha)
  rwa [hb] at hq

theorem Gives.pure {a : α} (h : P a) : Gives P (Pure.pure a) :=
  Answers.some h

theorem Gives.failure : Gives P failure :=
  fun _ => .none

theorem Gives.bind {r : Reader α} {f : α → Reader β} (hr : Gives P r)
    (hf : ∀ a, P a → Gives Q (f a)) :
    Gives Q (r >>= f) := by
  intro ts b rest hb
  obtain ⟨⟨a, us⟩, ha, hb⟩ := Option.bind_eq_some_iff.mp hb
  exact hf a (hr ts a us ha) us b rest hb

/-- What is read first does not matter. -/
theorem Gives.behind {r : Reader α} {f : α → Reader β}
    (hf : ∀ a, Gives Q (f a)) :
    Gives Q (r >>= f) :=
  Gives.bind (P := fun _ => True) (fun _ _ _ _ => trivial) fun a _ => hf a

theorem Gives.ite {b : Prop} [Decidable b] {r r' : Reader α}
    (hr : Gives P r) (hr' : Gives P r') :
    Gives P (if b then r else r') := by
  split
  · exact hr
  · exact hr'

theorem Gives.repeatedAtMost {item : Reader (Option α)}
    (hitem : Gives (fun a? => ∀ a ∈ a?, P a) item) (limit : Nat) :
    Gives (fun as => ∀ a ∈ as, P a) (repeatedAtMost item limit) := by
  induction limit with
  | zero => exact .pure (List.forall_mem_nil _)
  | succ limit ih =>
    refine hitem.bind ?_
    intro a? ha?
    cases a? with
    | none => exact .pure (List.forall_mem_nil _)
    | some a =>
      refine ih.bind ?_
      intro as has
      exact .pure (List.forall_mem_cons.mpr ⟨ha? a rfl, has⟩)

theorem Gives.repeated {item : Reader (Option α)}
    (hitem : Gives (fun a? => ∀ a ∈ a?, P a) item) :
    Gives (fun as => ∀ a ∈ as, P a) (repeated item) :=
  fun ts => hitem.repeatedAtMost ts.length ts

theorem Gives.separated {item : Reader α} (hitem : Gives P item) (t : Token) :
    Gives (fun x => P x.1 ∧ ∀ a ∈ x.2, P a) (separated t item) := by
  have hafter : Gives (fun a? => ∀ a ∈ a?, P a) (after t item) := by
    refine .behind fun b => .ite (hitem.bind fun a ha => .pure ?_) (.pure ?_)
    · rintro _ ⟨⟩
      exact ha
    · rintro _ ⟨⟩
  exact hitem.bind fun a ha =>
    hafter.repeated.bind fun as has => .pure ⟨ha, has⟩

end Reader

/-! ## Readers of the grammar -/

namespace Grammar

open Reader
open AccessRules.Expression.Tree (WellFormed)

variable {expr arithmetic : Reader Tree} {clauses : Reader Unit}

theorem namedItem_gives (hexpr : Gives WellFormed expr) :
    Gives (fun x => x.1.WellFormed) (namedItem expr) := by
  intro ts
  rw [namedItem.eq_def]
  split
  · exact (hexpr _).map fun _ _ _ => .unsupported _
  · exact (hexpr _).map fun _ _ ht => ht

theorem starredItem_gives (hexpr : Gives WellFormed expr) :
    Gives (fun x => x.1.WellFormed) (starredItem expr arithmetic) :=
  .behind fun _ =>
    .ite (.behind fun _ => .pure (.unsupported _)) (namedItem_gives hexpr)

theorem quotedLiterals_gives : Gives WellFormed quotedLiterals := by
  intro ts t rest ht
  obtain ⟨u, hu, ht⟩ := Option.map_eq_some_iff.mp ht
  obtain ⟨rfl, -⟩ := Prod.mk.inj ht
  rw [joinLiterals] at hu
  split at hu
  · obtain rfl := Option.some.inj hu
    exact .constant _
  · obtain rfl := Option.some.inj hu
    split
    · exact .unsupported _
    · exact .constant _
  · cases hu

theorem argument_gives (hexpr : Gives WellFormed expr)
    (phase : ArgumentPhase) :
    Gives (fun x => ∀ t ∈ x.1, WellFormed t) (argument expr phase) := by
  intro ts
  rw [argument.eq_def]
  split
  · exact (hexpr _).map fun _ _ _ => by simp
  · exact (hexpr _).map fun _ _ _ => by simp
  · split
    · exact .none
    · exact (hexpr _).map fun _ _ _ => by simp [WellFormed.unsupported]
  · split
    · exact (namedItem_gives hexpr _).map fun _ _ ht => by simpa using ht
    · exact .none

theorem argumentsFrom_gives (hexpr : Gives WellFormed expr) (fuel : Nat)
    (isFirst : Bool) (phase : ArgumentPhase) :
    Gives (fun x => ∀ t ∈ x.1, WellFormed t)
      (argumentsFrom expr clauses fuel isFirst phase) := by
  induction fuel generalizing isFirst phase with
  | zero => exact .failure
  | succ fuel ih =>
    rw [argumentsFrom]
    refine .behind fun _ => .ite (.pure (by simp)) ?_
    refine .behind fun starts => (argument_gives hexpr phase).bind ?_
    rintro ⟨arg, phase⟩ harg
    refine .behind fun _ => .ite ?_ ?_
    · exact .behind fun _ => .behind fun _ =>
        .pure (List.forall_mem_singleton.mpr (.unsupported _))
    -- what has been read is put in front of what follows
    refine .behind fun _ => .ite ?_ ?_
    · refine (ih false phase).bind fun more hmore => ?_
      cases arg with
      | some t => exact .pure (List.forall_mem_cons.mpr ⟨harg t rfl, hmore⟩)
      | none => exact .pure hmore
    · refine .behind fun _ => ?_
      cases arg with
      | some t => exact .pure (List.forall_mem_singleton.mpr (harg t rfl))
      | none => exact .pure (List.forall_mem_nil _)

theorem trailersFrom_gives (hexpr : Gives WellFormed expr) {t : Tree}
    (ht : t.WellFormed) (fuel : Nat) (last : Trailer) :
    Gives (fun x => x.1.WellFormed)
      (trailersFrom expr clauses fuel t last) := by
  induction fuel generalizing t last with
  | zero => exact .pure ht
  | succ fuel ih =>
    rw [trailersFrom]
    refine .behind fun _ => .ite ?_ (.behind fun _ => .ite ?_ ?_)
    · have hargs : Gives (fun x => ∀ u ∈ x.1, WellFormed u) fun ts =>
          argumentsFrom expr clauses (ts.length + 1) true .positional ts :=
        fun ts => argumentsFrom_gives hexpr _ true .positional ts
      exact hargs.bind fun x hx => ih (.call ht hx x.2) .call
    · exact .behind fun _ => ih (.unsupported _) .place
    · refine .behind fun _ => .ite ?_ (.pure ht)
      exact .behind fun _ => ih (.unsupported _) .place

/-- The closing bracket of a construct that is kept by its kind alone. -/
theorem closed_gives (close : Token) (c : Construct) :
    Gives WellFormed (do
      expect close
      pure (.unsupported c)) :=
  .behind fun _ => .pure (.unsupported c)

theorem yielded_gives : Gives WellFormed (yielded expr arithmetic) := by
  refine .behind fun _ => .ite (.behind fun _ => closed_gives _ _) ?_
  refine .behind fun _ => .ite ?_ (closed_gives _ _)
  exact .behind fun _ => .behind fun _ => closed_gives _ _

theorem roundRest_gives (hexpr : Gives WellFormed expr) :
    Gives WellFormed (roundRest expr arithmetic clauses) := by
  refine .behind fun _ => .ite (.pure (.unsupported _)) ?_
  refine .behind fun _ => .ite yielded_gives ?_
  refine (starredItem_gives hexpr).bind ?_
  rintro ⟨first, form⟩ hfirst
  refine .behind fun next => ?_
  split
  · exact .behind fun _ => closed_gives _ _
  · exact .behind fun _ => .ite .failure (.pure hfirst)
  · exact .ite .failure (.behind fun _ => closed_gives _ _)

theorem squareRest_gives :
    Gives WellFormed (squareRest expr arithmetic clauses) := by
  refine .behind fun _ => .ite (.pure (.unsupported _)) ?_
  refine .behind fun _ => .behind fun _ => .ite ?_ ?_
  · exact .ite .failure (.behind fun _ => closed_gives _ _)
  · exact .behind fun _ => closed_gives _ _

theorem dictRest_gives : Gives WellFormed (dictRest expr arithmetic) :=
  .behind fun _ => closed_gives _ _

theorem curlyRest_gives :
    Gives WellFormed (curlyRest expr arithmetic clauses) := by
  refine .behind fun _ => .ite (.pure (.unsupported _)) ?_
  refine .behind fun _ => .ite (.behind fun _ => dictRest_gives) ?_
  refine .behind fun item => .behind fun next => ?_
  split
  · refine .behind fun _ => .behind fun _ => .behind fun _ => ?_
    exact .ite (.behind fun _ => closed_gives _ _) dictRest_gives
  · refine .behind fun _ => .ite ?_ (.behind fun _ => closed_gives _ _)
    exact .ite .failure (.behind fun _ => closed_gives _ _)

theorem atom_gives (hexpr : Gives WellFormed expr) :
    Gives WellFormed (atom expr arithmetic clauses) := by
  intro ts
  rw [atom.eq_def]
  split
  · exact .some (.name _) _
  · exact .some (.constant _) _
  · exact .some (.constant _) _
  · exact .some (.constant _) _
  · exact .some (.constant _) _
  · exact .some (.constant _) _
  · exact roundRest_gives hexpr _
  · exact squareRest_gives _
  · exact curlyRest_gives _
  · exact quotedLiterals_gives _
  · exact quotedLiterals_gives _
  · exact quotedLiterals_gives _
  · exact .none

theorem primary_gives (hexpr : Gives WellFormed expr) :
    Gives (fun x => x.1.WellFormed) (primary expr arithmetic clauses) :=
  (atom_gives hexpr).bind fun _ ht ts =>
    trailersFrom_gives hexpr ht ts.length .absent ts

theorem signedOperand_gives (hexpr : Gives WellFormed expr) :
    Gives (fun x => x.2.WellFormed)
      (signedOperand expr arithmetic clauses) := by
  intro ts
  rw [signedOperand]
  dsimp only
  split
  · exact (primary_gives hexpr _).map fun _ _ _ => .unsupported _
  · exact (primary_gives hexpr _).map fun _ _ ht => ht

theorem wellFormed_arithmeticTree {t : Tree} (ht : t.WellFormed)
    (sign : Option Sign) (powers : List Bool) :
    (arithmeticTree sign t powers).WellFormed := by
  rw [arithmeticTree.eq_def]
  split
  · exact ht
  · split
    · exact .signed _
    · exact .unsupported _
  · exact .unsupported _

theorem arithmeticWith_gives (hexpr : Gives WellFormed expr) :
    Gives WellFormed (arithmeticWith expr arithmetic clauses) :=
  (signedOperand_gives hexpr).bind fun x hx =>
    .behind fun powers => .pure (wellFormed_arithmeticTree hx x.1 powers)

theorem comparison_gives (harithmetic : Gives WellFormed arithmetic) :
    Gives WellFormed (comparison arithmetic) := by
  have hlink : Gives (fun l? => ∀ l ∈ l?, l.2.WellFormed)
      (link arithmetic) := by
    intro ts
    rw [link]
    split
    · exact (harithmetic _).map fun _ _ ht => by simpa using ht
    · exact .some (by simp) _
  refine harithmetic.bind fun first hfirst => ?_
  refine hlink.repeated.bind fun links hlinks => .pure ?_
  cases links with
  | nil => exact hfirst
  | cons link links =>
    exact .comparison hfirst (List.cons_ne_nil link links) hlinks

theorem inversion_gives (harithmetic : Gives WellFormed arithmetic) :
    Gives WellFormed (inversion arithmetic) := by
  intro ts
  induction ts using inversion.induct with
  | case1 rest ih => exact ih.map fun _ _ ht => .negation ht
  | case2 ts hneg =>
    rw [inversion]
    · exact comparison_gives harithmetic ts
    · exact hneg

/-- Two or more operands are joined, and a single one is kept as it is. -/
theorem joined_gives {item : Reader Tree} (hitem : Gives WellFormed item)
    (t : Token) {join : List Tree → Tree}
    (hjoin : ∀ xs : List Tree, 2 ≤ xs.length → (∀ x ∈ xs, x.WellFormed) →
      (join xs).WellFormed) :
    Gives WellFormed (do
      let (first, more) ← separated t item
      pure (if more.isEmpty then first else join (first :: more))) := by
  refine (hitem.separated t).bind ?_
  rintro ⟨first, more⟩ ⟨hfirst, hmore⟩
  refine .pure ?_
  cases more with
  | nil => exact hfirst
  | cons second more =>
    exact hjoin _ (by simp) (List.forall_mem_cons.mpr ⟨hfirst, hmore⟩)

theorem disjunction_gives (harithmetic : Gives WellFormed arithmetic) :
    Gives WellFormed (disjunction arithmetic) := by
  have hconjunction : Gives WellFormed (conjunction arithmetic) :=
    joined_gives (inversion_gives harithmetic) _ fun _ hlength => .conj hlength
  exact joined_gives hconjunction _ fun _ hlength => .disj hlength

theorem conditional_gives (harithmetic : Gives WellFormed arithmetic) :
    Gives WellFormed (conditional expr arithmetic) := by
  refine .behind fun _ => .ite ?_ ?_
  · exact .behind fun _ => .behind fun _ => .pure (.unsupported _)
  · refine (disjunction_gives harithmetic).bind fun t ht => ?_
    refine .behind fun _ => .ite ?_ (.pure ht)
    exact .behind fun _ => .behind fun _ => .behind fun _ =>
      .pure (.unsupported _)

theorem level_gives (depth : Nat) :
    Gives WellFormed (level depth).expr := by
  induction depth with
  | zero => exact .failure
  | succ depth ih => exact conditional_gives (arithmeticWith_gives ih)

theorem whole_gives (hexpr : Gives WellFormed expr) :
    Gives WellFormed (whole expr) := by
  refine hexpr.bind fun first hfirst => ?_
  refine .behind fun _ => .behind fun _ => .behind fun _ =>
    .behind fun next => ?_
  split
  · refine .pure ?_
    split
    · exact .unsupported _
    · exact hfirst
  · exact .failure

end Grammar

/-! ## Compiled trees -/

theorem wellFormed_of_readNested {depth : Nat} {cs : List Char} {t : Tree}
    (h : readNested depth cs = some t) :
    t.WellFormed := by
  cases depth with
  | zero => cases h
  | succ depth =>
    obtain ⟨ts, -, h⟩ := Option.bind_eq_some_iff.mp h
    obtain ⟨u, hu, h⟩ := Option.bind_eq_some_iff.mp h
    obtain ⟨⟨u, rest⟩, hread, rfl⟩ := Option.map_eq_some_iff.mp hu
    have hwell : u.WellFormed :=
      Grammar.whole_gives (Grammar.level_gives _) ts u rest hread
    split at h
    · obtain rfl := Option.some.inj h
      exact hwell
    · cases h

theorem wellFormed_of_compile {text : Option String} {t : Tree}
    (h : compile text = .ok t) :
    t.WellFormed := by
  obtain ⟨_, -, hread, -⟩ := exists_of_compile h
  exact wellFormed_of_readNested hread

end AccessRules.Expression
