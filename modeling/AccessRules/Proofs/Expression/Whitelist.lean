import AccessRules.Proofs.Expression.Origin

/-!
# The language of access expressions

The trees that an access expression may have are generated by a grammar.  The
rules for single parts of a tree define the same language: a tree obeys them
everywhere exactly if the grammar generates it.

The walk through a tree goes row by row, and each row from left to right.  So
what is reported about any other tree is the first part against the rules in
this order.  A tree of the grammar has no part that cannot be evaluated.
-/

namespace AccessRules.Expression

/-- The trees that an access expression may have. -/
inductive Tree.Grammatical : Tree → Prop
  | constant (v : Literal) : Grammatical (.constant v)
  | name (x : String) : Grammatical (.name x)
  | conj {xs : List Tree} (hxs : ∀ x ∈ xs, Grammatical x) :
      Grammatical (.conj xs)
  | disj {xs : List Tree} (hxs : ∀ x ∈ xs, Grammatical x) :
      Grammatical (.disj xs)
  | negation {x : Tree} (hx : Grammatical x) : Grammatical (.negation x)
  | comparison {x : Tree} {links : List (Comparator × Tree)}
      (hx : Grammatical x)
      (hsigns : ∀ l ∈ links, l.1 = .equal ∨ l.1 = .unequal)
      (hlinks : ∀ l ∈ links, Grammatical l.2) :
      Grammatical (.comparison x links)
  | call (f : String) (args : List Literal) :
      Grammatical (.call (.name f) (args.map .constant) false)

/-! ## Trees that obey the rules -/

/-- What the grammar asks of a part of a tree. -/
def Node.Grammatical : Node → Prop
  | .tree t => t.Grammatical
  | .callee t => ∃ f, t = .name f
  | .sign _ => False
  | .comparator c => c = .equal ∨ c = .unequal

theorem Node.Grammatical.offence? {n : Node} (h : n.Grammatical) :
    n.offence? = none := by
  cases n with
  | tree t =>
    cases h with
    | call f args =>
      simp [Node.offence?, Tree.offence?, Tree.isName, Tree.literal?]
    | _ => rfl
  | callee t =>
    obtain ⟨f, rfl⟩ := h
    rfl
  | sign s => cases h
  | comparator c =>
    rcases h with rfl | rfl
    · rfl
    · rfl

theorem Node.Grammatical.child {n c : Node} (h : n.Grammatical)
    (hc : c ∈ n.children) :
    c.Grammatical := by
  cases n with
  | tree t =>
    cases h with
    | constant v | name x => cases hc
    | conj hxs | disj hxs =>
      obtain ⟨x, hx, rfl⟩ := List.mem_map.mp hc
      exact hxs x hx
    | negation hx =>
      obtain rfl := List.mem_singleton.mp hc
      exact hx
    | comparison hx hsigns hlinks =>
      simp only [children, Tree.children, List.cons_append, List.mem_cons,
        List.mem_append, List.mem_map] at hc
      rcases hc with rfl | ⟨l, hl, rfl⟩ | ⟨l, hl, rfl⟩
      · exact hx
      · exact hsigns l hl
      · exact hlinks l hl
    | call f args =>
      simp only [children, Tree.children, List.mem_cons, List.mem_map] at hc
      rcases hc with rfl | ⟨x, ⟨v, -, rfl⟩, rfl⟩
      · exact ⟨f, rfl⟩
      · exact .constant v
  | callee t =>
    obtain ⟨f, rfl⟩ := h
    cases hc
  | sign s => cases h
  | comparator c => cases hc

theorem Node.Within.grammatical {m n : Node} (hmn : m.Within n)
    (hn : n.Grammatical) :
    m.Grammatical := by
  induction hmn with
  | refl => exact hn
  | child hc _ ih => exact ih (hn.child hc)

/-- Nothing within a tree of the grammar is against the rules. -/
theorem Tree.Grammatical.accepted {t : Tree} (h : t.Grammatical) :
    t.Accepted := by
  intro n hn
  have hgrammatical : n.Grammatical := hn.grammatical h
  exact hgrammatical.offence?

theorem Tree.Accepted.not_hasKeywords {callee : Tree} {xs : List Tree}
    {k : Bool} (h : (Tree.call callee xs k).Accepted) :
    k = false := by
  have hoffence := h.offence?
  cases k with
  | false => rfl
  | true => simp [Tree.offence?] at hoffence

/-- A tree without any part against the rules is generated by the grammar. -/
theorem Tree.Accepted.grammatical {t : Tree} (h : t.Accepted) :
    t.Grammatical := by
  induction t using induction_children with
  | step t ih =>
  have ih' : ∀ u, Node.tree u ∈ t.children → u.Grammatical := by
    intro u hu
    exact ih u hu (h.of_contains (contains_of_mem_children hu))
  cases t with
  | constant v => exact .constant v
  | name x => exact .name x
  | conj xs => exact .conj fun x hx => ih' x (List.mem_map_of_mem hx)
  | disj xs => exact .disj fun x hx => ih' x (List.mem_map_of_mem hx)
  | negation x => exact .negation (ih' x (List.mem_singleton_self _))
  | comparison x links =>
    refine .comparison (ih' x List.mem_cons_self) ?_ ?_
    · intro l hl
      have hsign := h.offence?_comparator l hl
      cases hl1 : l.1 with
      | equal => exact Or.inl rfl
      | unequal => exact Or.inr rfl
      | _ => simp [hl1, Node.offence?] at hsign
    · intro l hl
      exact ih' l.2 (link_mem_children hl)
  | call callee xs k =>
    obtain ⟨f, args, rfl, rfl⟩ := h.call
    obtain rfl := h.not_hasKeywords
    exact .call f args
  | signed s =>
    cases h (.sign s) (.child (List.mem_singleton_self _) .refl)
  | unsupported c => cases h.offence?

/-! ## Rows -/

/-- The row that lies a number of steps below a row, from left to right. -/
def rowBelow (row : List Node) : Nat → List Node
  | 0 => row
  | d + 1 => rowBelow (row.flatMap Node.children) d

/-- The parts of a tree at a depth, from left to right. -/
def Tree.row (t : Tree) (d : Nat) : List Node :=
  rowBelow [.tree t] d

/-- A walk visits the parts at the front of its queue before all parts below
them. -/
theorem walkFrom_append (fuel : Nat) (row queue : List Node) :
    walkFrom (row.length + fuel) (row ++ queue) =
      row ++ walkFrom fuel (queue ++ row.flatMap Node.children) := by
  induction row generalizing queue with
  | nil => simp
  | cons n row ih =>
    rw [List.length_cons, Nat.add_right_comm, List.cons_append, walkFrom,
      List.append_assoc, ih]
    simp

theorem sum_size_eq (row : List Node) :
    (row.map Node.size).sum =
      row.length + ((row.flatMap Node.children).map Node.size).sum := by
  induction row with
  | nil => rfl
  | cons n row ih =>
    have hsize := n.size_eq
    simp only [List.map_cons, List.sum_cons, List.flatMap_cons,
      List.map_append, List.sum_append, List.length_cons]
    omega

theorem walkFrom_eq_rows {depth fuel : Nat} {row : List Node}
    (hfuel : (row.map Node.size).sum = fuel) (hdepth : fuel ≤ depth) :
    walkFrom fuel row = (List.range depth).flatMap (rowBelow row) := by
  induction depth generalizing fuel row with
  | zero =>
    obtain rfl : fuel = 0 := Nat.eq_zero_of_le_zero hdepth
    rfl
  | succ depth ih =>
    have hsum := sum_size_eq row
    have hrest : walkFrom ((row.flatMap Node.children).map Node.size).sum
        (row.flatMap Node.children) =
        (List.range depth).flatMap (rowBelow (row.flatMap Node.children)) := by
      apply ih rfl
      cases row with
      | nil => exact Nat.zero_le _
      | cons n row =>
        rw [List.length_cons] at hsum
        omega
    have hwalk := walkFrom_append
      ((row.flatMap Node.children).map Node.size).sum row []
    rw [← hsum, hfuel, List.append_nil, List.nil_append, hrest] at hwalk
    rw [hwalk, List.range_succ_eq_map, List.flatMap_cons, List.flatMap_map]
    rfl

/-- The walk visits one row after the other. -/
theorem Tree.walk_eq_rows (t : Tree) :
    t.walk = (List.range t.size).flatMap t.row :=
  walkFrom_eq_rows (by simp [Node.size]) (Nat.le_refl _)

/-! ## Reports -/

/-- What is reported about a tree that is against the rules itself.  At a call,
what is called and its keywords come before the arguments. -/
inductive Tree.Offends (text : String) : Tree → Fault → Prop
  | construct (c : Construct) :
      Offends text (.unsupported c) (.unsupportedConstruct c.name text)
  | computedCall {callee : Tree} {xs : List Tree} {k : Bool}
      (h : (∀ f, callee ≠ .name f) ∨ k = true) :
      Offends text (.call callee xs k) (.computedCall text)
  | computedArgument {f : String} {xs : List Tree} {x : Tree}
      (hx : x ∈ xs) (h : ∀ v, x ≠ .constant v) :
      Offends text (.call (.name f) xs false) (.computedArgument text)

/-- What is reported about a part that is against the rules itself. -/
inductive Node.Offends (text : String) : Node → Fault → Prop
  | tree {t : Tree} {f : Fault} (h : t.Offends text f) :
      Offends text (.tree t) f
  | callee {t : Tree} {f : Fault} (h : t.Offends text f) :
      Offends text (.callee t) f
  | sign (s : Sign) :
      Offends text (.sign s)
        (.unsupportedConstruct (Construct.sign s).name text)
  | comparator {c : Comparator} (hequal : c ≠ .equal)
      (hunequal : c ≠ .unequal) :
      Offends text (.comparator c)
        (.unsupportedConstruct (Construct.comparator c).name text)

/-- The first part against the rules: no part in a row above it is one, and none
further left in its own row. -/
def Tree.OffendsFirst (t : Tree) (text : String) (n : Node) (f : Fault) :
    Prop :=
  n.Offends text f ∧ ∃ (depth : Nat) (left right : List Node),
    t.row depth = left ++ n :: right ∧
      (∀ m ∈ left, ∀ g, ¬ m.Offends text g) ∧
      ∀ d < depth, ∀ m ∈ t.row d, ∀ g, ¬ m.Offends text g

theorem Tree.isName_eq_true_iff {t : Tree} :
    t.isName = true ↔ ∃ f, t = .name f := by
  cases t with
  | name f => simp [isName]
  | _ => simp [isName]

theorem Tree.literal?_eq_none_iff {t : Tree} :
    t.literal? = none ↔ ∀ v, t ≠ .constant v := by
  cases t with
  | constant v => simp [literal?]
  | _ => simp [literal?]

theorem Tree.offends_iff {t : Tree} {text : String} {f : Fault} :
    t.Offends text f ↔ ∃ o, t.offence? = some o ∧ o.fault text = f := by
  constructor
  · intro h
    cases h with
    | construct c => exact ⟨.construct c, rfl, rfl⟩
    | @computedCall callee xs k h =>
      have hcall : (!callee.isName || k) = true := by
        rcases h with h | rfl
        · have hname : callee.isName = false := by
            rw [← Bool.not_eq_true, isName_eq_true_iff]
            rintro ⟨f, hf⟩
            exact h f hf
          rw [hname]
          rfl
        · exact Bool.or_true _
      exact ⟨.computedCall, by rw [offence?, if_pos hcall], rfl⟩
    | @computedArgument name xs x hx h =>
      have hargs : xs.all (·.literal?.isSome) = false := by
        rw [List.all_eq_false]
        exact ⟨x, hx, by rw [literal?_eq_none_iff.mpr h]; simp⟩
      exact ⟨.computedArgument, by simp [offence?, isName, hargs], rfl⟩
  · rintro ⟨o, ho, rfl⟩
    cases t with
    | unsupported c =>
      obtain rfl := Option.some.inj ho
      exact .construct c
    | call callee xs k =>
      rw [offence?] at ho
      split at ho
      case isTrue hcall =>
        obtain rfl := Option.some.inj ho
        refine .computedCall ?_
        rcases Bool.or_eq_true _ _ ▸ hcall with hname | hk
        · left
          rintro f rfl
          cases hname
        · exact Or.inr hk
      case isFalse hcall =>
        simp only [Bool.or_eq_true, Bool.not_eq_true', not_or,
          Bool.not_eq_false, Bool.not_eq_true] at hcall
        obtain ⟨⟨name, rfl⟩, rfl⟩ :=
          And.imp_left isName_eq_true_iff.mp hcall
        split at ho
        case isTrue => cases ho
        case isFalse hargs =>
          obtain rfl := Option.some.inj ho
          rw [Bool.not_eq_true, List.all_eq_false] at hargs
          obtain ⟨x, hx, hliteral⟩ := hargs
          refine .computedArgument hx (literal?_eq_none_iff.mp ?_)
          simpa using hliteral
    | _ => cases ho

theorem Node.offends_iff {n : Node} {text : String} {f : Fault} :
    n.Offends text f ↔ ∃ o, n.offence? = some o ∧ o.fault text = f := by
  constructor
  · intro h
    cases h with
    | tree h | callee h => exact Tree.offends_iff.mp h
    | sign s => exact ⟨.construct (.sign s), rfl, rfl⟩
    | @comparator c hequal hunequal =>
      cases c with
      | equal => exact absurd rfl hequal
      | unequal => exact absurd rfl hunequal
      | _ => exact ⟨_, rfl, rfl⟩
  · rintro ⟨o, ho, rfl⟩
    cases n with
    | tree t => exact .tree (Tree.offends_iff.mpr ⟨o, ho, rfl⟩)
    | callee t => exact .callee (Tree.offends_iff.mpr ⟨o, ho, rfl⟩)
    | sign s =>
      obtain rfl := Option.some.inj ho
      exact .sign s
    | comparator c =>
      cases c with
      | equal | unequal => cases ho
      | _ =>
        obtain rfl := Option.some.inj ho
        exact .comparator (by decide) (by decide)

theorem Node.not_offends_of_offence?_eq_none {n : Node} {text : String}
    (h : n.offence? = none) (f : Fault) :
    ¬ n.Offends text f := by
  intro hf
  obtain ⟨o, ho, -⟩ := offends_iff.mp hf
  rw [h] at ho
  cases ho

/-- In a sequence of rows, the first part with a property lies in the first row
with such a part. -/
theorem exists_first_row {α β : Type} {row : Nat → List α} {f : α → Option β}
    {b : β} {n : Nat} (h : ((List.range n).flatMap row).findSome? f = some b) :
    ∃ d, (row d).findSome? f = some b ∧
      ∀ e < d, (row e).findSome? f = none := by
  induction n with
  | zero => cases h
  | succ n ih =>
    rw [List.range_succ, List.flatMap_append, List.findSome?_append,
      List.flatMap_singleton] at h
    cases hbefore : ((List.range n).flatMap row).findSome? f with
    | some c =>
      rw [hbefore, Option.some_or] at h
      exact ih (hbefore.trans h)
    | none =>
      rw [hbefore, Option.none_or] at h
      refine ⟨n, h, ?_⟩
      intro e he
      rw [List.findSome?_eq_none_iff] at hbefore ⊢
      intro a ha
      exact hbefore a (List.mem_flatMap.mpr ⟨e, List.mem_range.mpr he, ha⟩)

/-- The walk finds the first part against the rules. -/
theorem Tree.exists_offendsFirst {t : Tree} {o : Offence}
    (h : t.firstOffence? = some o) (text : String) :
    ∃ n, t.OffendsFirst text n (o.fault text) := by
  rw [firstOffence?, walk_eq_rows] at h
  obtain ⟨depth, hrow, habove⟩ := exists_first_row h
  obtain ⟨left, n, right, hsplit, ho, hleft⟩ :=
    List.findSome?_eq_some_iff.mp hrow
  refine ⟨n, Node.offends_iff.mpr ⟨o, ho, rfl⟩, depth, left, right,
    hsplit, ?_, ?_⟩
  · intro m hm
    exact Node.not_offends_of_offence?_eq_none (hleft m hm)
  · intro d hd m hm
    exact Node.not_offends_of_offence?_eq_none
      (List.findSome?_eq_none_iff.mp (habove d hd) m hm)

/-! ## Parts that cannot be evaluated -/

/-- The failure of a call is an error of evaluation, also where a function
reports something else. -/
theorem CallFailure.isEvaluation_toFault (e : CallFailure) (function : String) :
    (e.toFault function).isEvaluation = true := by
  cases e with
  | badArguments message => rfl
  | other error message => rfl
  | fault f =>
    rw [toFault]
    split
    case isTrue h => exact h
    case isFalse => rfl

theorem Origin.isEvaluation {env : Environment} {t : Tree} {f : Fault}
    (h : Origin env t f) :
    f.isEvaluation = true := by
  cases h with
  | operand | name | function => rfl
  | call => exact CallFailure.isEvaluation_toFault _ _

/-- A tree of the grammar is evaluated without meeting a part that has no value
of its own kind. -/
theorem Tree.Grammatical.eval_ne_unsupportedNode {t : Tree} (h : t.Grammatical)
    (env : Environment) (construct : String) :
    t.eval env ≠ .error (.unsupportedNode construct) := by
  intro he
  have hevaluation := (origin_of_eval_error h.accepted he).isEvaluation
  cases hevaluation

/-! ## Compilation -/

/-- A text that is an expression, whether or not it is allowed.  No expression
contains the null character. -/
def Parses (s : String) (t : Tree) : Prop :=
  '\x00' ∉ Text.strip s.toList ∧ read? (Text.strip s.toList) = some t

theorem within_of_mem_rowBelow {row : List Node} {depth : Nat} {m : Node}
    (hm : m ∈ rowBelow row depth) :
    ∃ n ∈ row, m.Within n := by
  induction depth generalizing row with
  | zero => exact ⟨m, hm, .refl⟩
  | succ depth ih =>
    obtain ⟨c, hc, hmc⟩ := ih hm
    obtain ⟨n, hn, hcn⟩ := List.mem_flatMap.mp hc
    exact ⟨n, hn, .child hcn hmc⟩

/-- The walk visits the parts within a tree, and nothing else. -/
theorem Tree.mem_walk_iff {t : Tree} {n : Node} :
    n ∈ t.walk ↔ n.Within (.tree t) := by
  constructor
  · intro hn
    rw [walk_eq_rows, List.mem_flatMap] at hn
    obtain ⟨depth, -, hn⟩ := hn
    obtain ⟨m, hm, hnm⟩ := within_of_mem_rowBelow hn
    obtain rfl := List.mem_singleton.mp hm
    exact hnm
  · exact mem_walk_of_within

/-- The rules find no offence exactly in the trees of the grammar. -/
theorem Tree.firstOffence?_eq_none_iff {t : Tree} :
    t.firstOffence? = none ↔ t.Grammatical := by
  constructor
  · intro h
    exact (accepted_of_firstOffence?_eq_none h).grammatical
  · intro h
    rw [firstOffence?, List.findSome?_eq_none_iff]
    intro n hn
    exact h.accepted n (mem_walk_iff.mp hn)

/-- The tree of a text that is an expression is compiled, unless a part of it is
against the rules. -/
theorem Parses.compile_eq {s : String} {t : Tree} (h : Parses s t) :
    compile (some s) =
      match t.firstOffence? with
      | some o => .error (o.fault s)
      | none => .ok t := by
  obtain ⟨hnull, hread⟩ := h
  have hblank : Text.strip s.toList ≠ [] := by
    intro hblank
    have hempty : read? [] = none := by decide
    rw [hblank, hempty] at hread
    cases hread
  cases hoffence : t.firstOffence? with
  | none => simp [compile, hblank, hnull, hread, hoffence]
  | some o => simp [compile, hblank, hnull, hread, hoffence]

/-- The texts that compile are those whose trees the grammar generates.  Their
trees have no part that cannot be evaluated; and what is reported about any
other text is the first part against the rules.

A text with an escape by name is read as no tree at all, and escapes of
surrogates all give the replacement character; see `Escape.read`. -/
theorem compile_eq_ok_iff_grammatical {s : String} {t : Tree}
    (h : Parses s t) :
    (compile (some s) = .ok t ↔ t.Grammatical) ∧
      (t.Grammatical → ∀ env construct,
        t.eval env ≠ .error (.unsupportedNode construct)) ∧
      (¬ t.Grammatical → ∃ n f,
        t.OffendsFirst s n f ∧ compile (some s) = .error f) := by
  rw [h.compile_eq, ← Tree.firstOffence?_eq_none_iff]
  refine ⟨?_, ?_, ?_⟩
  · cases t.firstOffence? with
    | none => simp
    | some o => simp
  · intro hnone env construct
    have hgrammatical := Tree.firstOffence?_eq_none_iff.mp hnone
    exact hgrammatical.eval_ne_unsupportedNode env construct
  · intro hsome
    obtain ⟨o, ho⟩ := Option.ne_none_iff_exists'.mp hsome
    obtain ⟨n, hn⟩ := Tree.exists_offendsFirst ho s
    exact ⟨n, o.fault s, hn, by rw [ho]⟩

/-- The comparison is reported, and not the call with a computed argument, which
stands before it but lies deeper. -/
theorem compile_eq_ok_iff_grammatical_deeper :
    let s := "not not f(-1) or x < 2"
    let call := Tree.call (.name "f") [.signed .minus] false
    let t := Tree.disj [.negation (.negation call),
      .comparison (.name "x") [(.less, .constant (.integer 2))]]
    Parses s t ∧ ¬ t.Grammatical ∧
      compile (some s) = .error (.unsupportedConstruct "Lt" s) ∧
      ∃ n f, t.OffendsFirst s n f ∧ compile (some s) = .error f := by
  intro s call t
  have hparses : Parses s t := ⟨by decide +kernel, by decide +kernel⟩
  have hnot : ¬ t.Grammatical := by
    rw [← Tree.firstOffence?_eq_none_iff]
    decide +kernel
  exact ⟨hparses, hnot, by decide +kernel,
    (compile_eq_ok_iff_grammatical hparses).2.2 hnot⟩

end AccessRules.Expression
