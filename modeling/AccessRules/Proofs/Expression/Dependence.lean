import AccessRules.Proofs.Expression.Whitelist

/-!
# What an evaluation depends on

The evaluation of a tree looks at an environment only to call the functions that
the tree calls, and for the values of the names that occur in it otherwise.  So
environments that agree on those give the tree outcomes that agree.

This holds for any notion of errors that are taken for the same.  For equality
it says that an evaluation sees only the names that its tree refers to.
-/

namespace AccessRules.Expression

open Outcome

/-! ## The names that a tree refers to -/

/-- A part within another one is that part, or lies directly below a part within
it. -/
theorem Node.Within.eq_or_mem_children {m n : Node} (h : m.Within n) :
    m = n ∨ ∃ p : Node, p.Within n ∧ m ∈ p.children := by
  induction h with
  | refl => exact Or.inl rfl
  | @child n c hc h ih =>
    right
    rcases ih with rfl | ⟨p, hp, hm⟩
    · exact ⟨n, .refl, hc⟩
    · exact ⟨p, .child hc hp, hm⟩

theorem Node.Grammatical.of_callee_mem_children {n : Node} {f : String}
    (h : n.Grammatical) (hf : Node.callee (.name f) ∈ n.children) :
    ∃ args : List Literal,
      n = .tree (.call (.name f) (args.map .constant) false) := by
  cases n with
  | tree t =>
    cases h with
    | call g args =>
      simp only [children, Tree.children, List.mem_cons, callee.injEq,
        Tree.name.injEq, List.mem_map, reduceCtorEq, and_false, exists_false,
        or_false] at hf
      exact ⟨args, by rw [hf]⟩
    | _ => simp [children, Tree.children] at hf
  | callee t =>
    obtain ⟨g, rfl⟩ := h
    cases hf
  | sign _ | comparator _ => cases hf

/-- A call within a tree of the grammar has a bare name and literal arguments,
and is not called itself. -/
theorem Node.Grammatical.of_toTree?_eq_call {n : Node} {g : Tree}
    {xs : List Tree} {k : Bool} (h : n.Grammatical)
    (htree : n.toTree? = some (.call g xs k)) :
    n = .tree (.call g xs k) ∧ k = false ∧
      ∃ (f : String) (args : List Literal),
        g = .name f ∧ xs = args.map .constant := by
  cases n with
  | tree u =>
    obtain rfl := Option.some.inj htree
    cases h with
    | call f args => exact ⟨rfl, rfl, f, args, rfl, rfl⟩
  | callee u =>
    obtain rfl := Option.some.inj htree
    obtain ⟨f, hf⟩ := h
    cases hf
  | sign _ | comparator _ => cases htree

theorem Tree.mem_functionNames_iff_within {t : Tree} {f : String} :
    f ∈ t.functionNames ↔ Node.Within (.callee (.name f)) (.tree t) := by
  rw [functionNames, Text.mem_sortTexts, List.mem_filterMap]
  constructor
  · rintro ⟨n, hn, hname⟩
    obtain rfl : n = .callee (.name f) := by
      unfold functionAt? at hname
      split at hname
      · rw [Option.some.inj hname]
      · cases hname
    exact mem_walk_iff.mp hn
  · intro h
    exact ⟨.callee (.name f), mem_walk_iff.mpr h, rfl⟩

/-- The names that are collected as functions are those that are called. -/
theorem Tree.Accepted.mem_functionNames_iff {t : Tree} (h : t.Accepted)
    {f : String} :
    f ∈ t.functionNames ↔ ∃ args, t.HasCall f args := by
  constructor
  · intro hf
    have hwithin : Node.Within (.callee (.name f)) (.tree t) :=
      mem_functionNames_iff_within.mp hf
    rcases hwithin.eq_or_mem_children with heq | ⟨p, hp, hchild⟩
    · cases heq
    · have hgrammatical : p.Grammatical := hp.grammatical h.grammatical
      obtain ⟨args, rfl⟩ := hgrammatical.of_callee_mem_children hchild
      exact ⟨args, false, hp⟩
  · rintro ⟨args, hcall⟩
    exact hcall.mem_functionNames

/-- The names that are collected as variables are those that occur without being
called. -/
theorem Tree.mem_variableNames_iff {t : Tree} {x : String} :
    x ∈ t.variableNames ↔ t.Contains (.name x) := by
  constructor
  · intro hx
    rw [variableNames, Text.mem_sortTexts, List.mem_filterMap] at hx
    obtain ⟨n, hn, hname⟩ := hx
    obtain rfl : n = .tree (.name x) := by
      unfold variableAt? at hname
      split at hname
      · rw [Option.some.inj hname]
      · cases hname
    exact mem_walk_iff.mp hn
  · exact mem_variableNames

/-- A text that is an expression with a call of a function. -/
def Calls (text : Option String) (f : String) : Prop :=
  ∃ t, compile text = .ok t ∧ f ∈ t.functionNames

theorem Tree.mem_functionNames_of_mem_callArguments {t : Tree} {f : String}
    {args : List Literal} (h : args ∈ t.callArguments f) :
    f ∈ t.functionNames := by
  rw [mem_callArguments_iff, calls, List.mem_filterMap] at h
  obtain ⟨n, hn, hcallAt⟩ := h
  obtain ⟨xs, k, htree, -⟩ := callAt?_eq_some_iff.mp hcallAt
  have hcallee : Node.callee (.name f) ∈ n.children := by
    rw [Node.children_of_toTree? htree]
    exact List.mem_cons_self
  rw [mem_functionNames_iff_within]
  exact Node.Within.trans (.child hcallee .refl) (mem_walk_iff.mp hn)

theorem Tree.callArguments_eq_nil {t : Tree} {f : String}
    (h : f ∉ t.functionNames) :
    t.callArguments f = [] := by
  rw [List.eq_nil_iff_forall_not_mem]
  intro args hargs
  exact h (mem_functionNames_of_mem_callArguments hargs)

/-! ## Calls in two environments -/

/-- The outcome of a call of a function by its name. -/
def Environment.call (env : Environment) (f : String) (args : List Literal) :
    Except Fault Literal := do
  let g ← env.function f
  Function.call f g args

theorem Environment.call_eq {env : Environment} {f : String} {g : Function}
    (hg : env.functions f = some g) (args : List Literal) :
    env.call f args = Function.call f g args := by
  rw [Environment.call, Environment.function, hg]
  rfl

theorem Environment.call_eq_of_functions_eq {env env' : Environment}
    {f : String} (h : env.functions f = env'.functions f)
    (args : List Literal) :
    env.call f args = env'.call f args := by
  rw [Environment.call, Environment.function, h]
  rfl

namespace Tree

variable {env env' : Environment} {alike : Fault → Fault → Prop}

/-! ## Lists of trees -/

/-- An operand that agrees, before a rest that agrees. -/
theorem agree_operand {α : Type} {x : Tree} {rest rest' : Bool → Except Fault α}
    (halike : ∀ f, alike f f) (hx : Agree alike (x.eval env) (x.eval env'))
    (hrest : ∀ b, Agree alike (rest b) (rest' b)) :
    Agree alike
      (do
        let v ← x.eval env
        let b ← truthOf v
        rest b)
      (do
        let v ← x.eval env'
        let b ← truthOf v
        rest' b) :=
  hx.bind fun v => (Agree.refl halike (truthOf v)).bind hrest

theorem evalAll_agree (halike : ∀ f, alike f f) {xs : List Tree}
    (hxs : ∀ x ∈ xs, Agree alike (x.eval env) (x.eval env')) :
    Agree alike (evalAll env xs) (evalAll env' xs) := by
  induction xs with
  | nil => exact .ok true
  | cons x xs ih =>
    rw [List.forall_mem_cons] at hxs
    refine agree_operand halike hxs.1 fun b => ?_
    cases b with
    | true => exact ih hxs.2
    | false => exact .ok false

theorem evalAny_agree (halike : ∀ f, alike f f) {xs : List Tree}
    (hxs : ∀ x ∈ xs, Agree alike (x.eval env) (x.eval env')) :
    Agree alike (evalAny env xs) (evalAny env' xs) := by
  induction xs with
  | nil => exact .ok false
  | cons x xs ih =>
    rw [List.forall_mem_cons] at hxs
    refine agree_operand halike hxs.1 fun b => ?_
    cases b with
    | true => exact .ok true
    | false => exact ih hxs.2

theorem evalLinks_agree (halike : ∀ f, alike f f)
    {links : List (Comparator × Tree)} (left : Literal)
    (hlinks : ∀ l ∈ links, Agree alike (l.2.eval env) (l.2.eval env')) :
    Agree alike (evalLinks env left links) (evalLinks env' left links) := by
  induction links generalizing left with
  | nil => exact .ok true
  | cons link links ih =>
    obtain ⟨c, x⟩ := link
    rw [List.forall_mem_cons] at hlinks
    refine hlinks.1.bind fun right =>
      (Agree.refl halike (c.holds left right)).bind fun b => ?_
    cases b with
    | true => exact ih right hlinks.2
    | false => exact .ok false

/-! ## Trees -/

/-- A call with literal arguments is the call of its function. -/
theorem eval_call (env : Environment) (f : String) (args : List Literal)
    (k : Bool) :
    (Tree.call (.name f) (args.map .constant) k).eval env =
      env.call f args := by
  rw [eval, evalList_constants]
  rfl

/-- Where the calls and the names of a tree agree, its evaluation agrees. -/
theorem eval_agree (halike : ∀ f, alike f f) {t : Tree}
    (haccepted : t.Accepted)
    (hcalls : ∀ f args, t.HasCall f args →
      Agree alike (env.call f args) (env'.call f args))
    (hnames : ∀ x, t.Contains (.name x) → env.values x = env'.values x) :
    Agree alike (t.eval env) (t.eval env') := by
  induction t using induction_children with
  | step t ih =>
  -- what a part refers to is referred to by the whole, so each part agrees
  have ih' : ∀ u, Node.tree u ∈ t.children →
      Agree alike (u.eval env) (u.eval env') := by
    intro u hu
    have htu := contains_of_mem_children hu
    exact ih u hu (haccepted.of_contains htu)
      (fun f args hf => hcalls f args (hf.of_contains htu))
      fun x hx => hnames x (htu.trans hx)
  cases t with
  | constant v => exact .ok v
  | name x =>
    rw [eval, eval, Environment.variable, Environment.variable,
      hnames x (.refl _)]
    exact .refl halike _
  | conj xs =>
    exact (evalAll_agree halike fun x hx =>
      ih' x (List.mem_map_of_mem hx)).map _
  | disj xs =>
    exact (evalAny_agree halike fun x hx =>
      ih' x (List.mem_map_of_mem hx)).map _
  | negation x =>
    exact agree_operand halike (ih' x (List.mem_singleton_self _))
      fun b => .ok (Literal.truth !b)
  | comparison x links =>
    have hlinks : ∀ l ∈ links, Agree alike (l.2.eval env) (l.2.eval env') :=
      fun l hl => ih' l.2 (link_mem_children hl)
    exact (ih' x List.mem_cons_self).bind fun v =>
      (evalLinks_agree halike v hlinks).bind fun b => .ok (Literal.truth b)
  | call callee xs k =>
    obtain ⟨f, args, rfl, rfl⟩ := haccepted.call
    rw [eval_call, eval_call]
    exact hcalls f args ⟨k, .refl _⟩
  | signed s => exact .refl halike _
  | unsupported c => exact .refl halike _

theorem evaluate_agree (halike : ∀ f, alike f f) {t : Tree}
    (haccepted : t.Accepted)
    (hcalls : ∀ f args, t.HasCall f args →
      Agree alike (env.call f args) (env'.call f args))
    (hnames : ∀ x, t.Contains (.name x) → env.values x = env'.values x)
    (text : String) :
    Agree alike (t.evaluate env text) (t.evaluate env' text) := by
  refine (eval_agree halike haccepted hcalls hnames).bind fun v => ?_
  exact .refl halike _

/-- Environments that give the same functions and values to the names of a tree
give the tree the same outcome. -/
theorem evaluate_eq_of_names {t : Tree} (haccepted : t.Accepted)
    (hfunctions : ∀ f ∈ t.functionNames, env.functions f = env'.functions f)
    (hvalues : ∀ x ∈ t.variableNames, env.values x = env'.values x)
    (text : String) :
    t.evaluate env text = t.evaluate env' text := by
  refine agree_eq_iff.mp (evaluate_agree (fun _ => rfl) haccepted ?_ ?_ text)
  · intro f args hf
    exact agree_eq_iff.mpr
      (Environment.call_eq_of_functions_eq
        (hfunctions f hf.mem_functionNames) args)
  · intro x hx
    exact hvalues x (mem_variableNames hx)

end Tree

end AccessRules.Expression
