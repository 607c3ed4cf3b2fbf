import AccessRules.Expression.Compile
import Mathlib

/-!
# The parts of a tree

A part lies within another one if it is that part or lies within one of the
parts directly below it.  The walk through a tree visits every part that lies
within the tree: the parts still to be visited never have more parts than the
walk has steps left.

So a tree that is compiled has no part against the rules, however deep it lies,
and all names and calls within a tree are among those that the walk collects.
-/

namespace AccessRules.Expression

/-! ## Parts within parts -/

/-- A part of a part, at any depth. -/
inductive Node.Within (m : Node) : Node → Prop
  | refl : Within m m
  | child {n c : Node} (hc : c ∈ n.children) (h : Within m c) : Within m n

theorem Node.Within.trans {l m n : Node} (hlm : l.Within m)
    (hmn : m.Within n) :
    l.Within n := by
  induction hmn with
  | refl => exact hlm
  | child hc _ ih => exact .child hc ih

/-- A tree within a tree, at any depth. -/
def Tree.Contains (t u : Tree) : Prop :=
  Node.Within (.tree u) (.tree t)

theorem Tree.Contains.refl (t : Tree) : t.Contains t := Node.Within.refl

theorem Tree.Contains.trans {t u v : Tree} (htu : t.Contains u)
    (huv : u.Contains v) :
    t.Contains v :=
  Node.Within.trans huv htu

/-- A tree directly below a tree. -/
theorem Tree.contains_of_mem_children {t u : Tree}
    (h : Node.tree u ∈ t.children) :
    t.Contains u :=
  .child h .refl

theorem Tree.link_mem_children {x : Tree} {links : List (Comparator × Tree)}
    {l : Comparator × Tree} (hl : l ∈ links) :
    Node.tree l.2 ∈ (Tree.comparison x links).children := by
  rw [children, List.mem_append]
  exact Or.inr (List.mem_map_of_mem (f := fun l => Node.tree l.2) hl)

/-! ## The number of parts -/

/-- The number of parts of a part. -/
def Node.size : Node → Nat
  | .tree t | .callee t => t.size
  | .sign _ | .comparator _ => 1

theorem Tree.sizeList_eq_sum (xs : List Tree) :
    sizeList xs = (xs.map size).sum := by
  induction xs with
  | nil => rfl
  | cons x xs ih => rw [sizeList, ih, List.map_cons, List.sum_cons]

theorem Tree.sizeLinks_eq_sum (links : List (Comparator × Tree)) :
    sizeLinks links = links.length + (links.map fun l => l.2.size).sum := by
  induction links with
  | nil => rfl
  | cons l links ih =>
    rw [sizeLinks, ih, List.length_cons, List.map_cons, List.sum_cons]
    omega

/-- A tree is one part more than what lies below it. -/
theorem Tree.size_eq (t : Tree) :
    t.size = (t.children.map Node.size).sum + 1 := by
  cases t with
  | constant _ | name _ | unsupported _ => rfl
  | signed _ => rfl
  | negation x => simp [size, children, Node.size]
  | conj xs | disj xs =>
    simp [size, children, sizeList_eq_sum, Node.size, Function.comp_def]
  | comparison x links =>
    simp [size, children, sizeLinks_eq_sum, Node.size, Function.comp_def]
  | call f xs k =>
    simp [size, children, sizeList_eq_sum, Node.size, Function.comp_def]

theorem Node.size_eq (n : Node) :
    n.size = (n.children.map Node.size).sum + 1 := by
  cases n with
  | tree t | callee t => exact t.size_eq
  | sign _ | comparator _ => rfl

/-- A statement about trees follows for each tree from the trees directly below
it. -/
theorem Tree.induction_children {motive : Tree → Prop}
    (step : ∀ t, (∀ u, Node.tree u ∈ t.children → motive u) → motive t)
    (t : Tree) :
    motive t := by
  induction hsize : t.size using Nat.strong_induction_on generalizing t with
  | _ n ih =>
    apply step
    intro u hu
    have hle : u.size ≤ (t.children.map Node.size).sum :=
      List.single_le_sum (by simp) _ (List.mem_map_of_mem (f := Node.size) hu)
    have hlt := t.size_eq
    exact ih u.size (by omega) u rfl

/-! ## The walk -/

/-- A walk with enough steps visits all that lies within the parts of its
queue. -/
theorem mem_walkFrom {fuel : Nat} {queue : List Node} {m n : Node}
    (hfuel : (queue.map Node.size).sum ≤ fuel) (hn : n ∈ queue)
    (hm : m.Within n) :
    m ∈ walkFrom fuel queue := by
  induction fuel generalizing queue n with
  | zero =>
    have hsize := n.size_eq
    have hle : n.size ≤ (queue.map Node.size).sum :=
      List.single_le_sum (by simp) _ (List.mem_map_of_mem hn)
    omega
  | succ fuel ih =>
    cases queue with
    | nil => simp at hn
    | cons first queue =>
      -- the first part makes room for all parts below it, and one step is used
      -- up for itself
      have hrest : ((queue ++ first.children).map Node.size).sum ≤ fuel := by
        have hsize := first.size_eq
        rw [List.map_cons, List.sum_cons] at hfuel
        rw [List.map_append, List.sum_append]
        omega
      rw [walkFrom, List.mem_cons]
      rcases List.mem_cons.mp hn with rfl | hn
      · cases hm with
        | refl => exact Or.inl rfl
        | child hc h => exact Or.inr (ih hrest (List.mem_append_right _ hc) h)
      · exact Or.inr (ih hrest (List.mem_append_left _ hn) hm)

theorem Tree.mem_walk_of_within {t : Tree} {n : Node}
    (h : n.Within (.tree t)) :
    n ∈ t.walk :=
  mem_walkFrom (by simp [Node.size]) (List.mem_singleton_self _) h

/-! ## Accepted trees -/

/-- A tree without any part against the rules. -/
def Tree.Accepted (t : Tree) : Prop :=
  ∀ n : Node, n.Within (.tree t) → n.offence? = none

theorem Tree.Accepted.of_contains {t u : Tree} (h : t.Accepted)
    (hu : t.Contains u) :
    u.Accepted :=
  fun _ hn => h _ (hn.trans hu)

theorem Tree.accepted_of_firstOffence?_eq_none {t : Tree}
    (h : t.firstOffence? = none) :
    t.Accepted :=
  fun _ hn => List.findSome?_eq_none_iff.mp h _ (mem_walk_of_within hn)

/-- A compiled tree was read from the text without the blanks around it, and has
no offence. -/
theorem exists_of_compile {text : Option String} {t : Tree}
    (h : compile text = .ok t) :
    ∃ s, text = some s ∧ read? (Text.strip s.toList) = some t ∧
      t.firstOffence? = none := by
  cases text with
  | none => simp [compile] at h
  | some s =>
    have hblank : Text.strip s.toList ≠ [] := by
      intro hblank
      simp [compile, hblank] at h
    have hnull : '\x00' ∉ Text.strip s.toList := by
      intro hnull
      simp [compile, hblank, hnull] at h
    cases hread : read? (Text.strip s.toList) with
    | none => simp [compile, hblank, hnull, hread] at h
    | some u =>
      cases hoffence : u.firstOffence? with
      | some o => simp [compile, hblank, hnull, hread, hoffence] at h
      | none =>
        have hut : u = t := by
          simpa [compile, hblank, hnull, hread, hoffence] using h
        subst hut
        exact ⟨s, rfl, hread, hoffence⟩

theorem accepted_of_compile {text : Option String} {t : Tree}
    (h : compile text = .ok t) :
    t.Accepted := by
  obtain ⟨_, -, -, hoffence⟩ := exists_of_compile h
  exact Tree.accepted_of_firstOffence?_eq_none hoffence

theorem Tree.Accepted.offence? {t : Tree} (h : t.Accepted) :
    t.offence? = none :=
  h (.tree t) .refl

theorem Tree.exists_eq_constant {x : Tree}
    (h : x.literal?.isSome) :
    ∃ v, x = .constant v := by
  cases x with
  | constant v => exact ⟨v, rfl⟩
  | _ => simp [literal?] at h

theorem Tree.exists_eq_map_constant {xs : List Tree}
    (h : xs.all (·.literal?.isSome)) :
    ∃ args : List Literal, xs = args.map .constant := by
  induction xs with
  | nil => exact ⟨[], rfl⟩
  | cons x xs ih =>
    rw [List.all_cons, Bool.and_eq_true] at h
    obtain ⟨v, rfl⟩ := exists_eq_constant h.1
    obtain ⟨args, rfl⟩ := ih h.2
    exact ⟨v :: args, rfl⟩

/-- An accepted call names its function and has literal arguments. -/
theorem Tree.Accepted.call {callee : Tree} {xs : List Tree} {k : Bool}
    (h : (Tree.call callee xs k).Accepted) :
    ∃ (f : String) (args : List Literal),
      callee = .name f ∧ xs = args.map .constant := by
  have hoffence := h.offence?
  have hcallee : callee.isName = true := by
    by_contra hcallee
    rw [Bool.not_eq_true] at hcallee
    simp [Tree.offence?, hcallee] at hoffence
  have hxs : xs.all (·.literal?.isSome) = true := by
    by_contra hxs
    simp only [Tree.offence?, hxs] at hoffence
    split at hoffence
    · cases hoffence
    · cases hoffence
  obtain ⟨args, rfl⟩ := exists_eq_map_constant hxs
  cases callee with
  | name f => exact ⟨f, args, rfl, rfl⟩
  | _ => simp [isName] at hcallee

/-! ## Names and calls -/

/-- The tree that a part is, whether or not it is called. -/
def Node.toTree? : Node → Option Tree
  | .tree t | .callee t => some t
  | .sign _ | .comparator _ => none

theorem Node.children_of_toTree? {n : Node} {t : Tree}
    (h : n.toTree? = some t) :
    n.children = t.children := by
  cases n with
  | tree u | callee u =>
    obtain rfl := Option.some.inj h
    rfl
  | sign _ | comparator _ => cases h

/-- A call with literal arguments within a tree. -/
def Tree.HasCall (t : Tree) (function : String) (args : List Literal) : Prop :=
  ∃ k, t.Contains (.call (.name function) (args.map .constant) k)

namespace Tree

theorem filterMap_literal?_constants (args : List Literal) :
    (args.map Tree.constant).filterMap literal? = args := by
  induction args with
  | nil => rfl
  | cons v args ih =>
    rw [List.map_cons, List.filterMap_cons, ih]
    rfl

theorem mem_variableNames {t : Tree} {x : String}
    (h : t.Contains (.name x)) :
    x ∈ t.variableNames := by
  rw [variableNames, Text.mem_sortTexts, List.mem_filterMap]
  exact ⟨.tree (.name x), mem_walk_of_within h, rfl⟩

theorem HasCall.mem_functionNames {t : Tree} {f : String}
    {args : List Literal} (h : t.HasCall f args) :
    f ∈ t.functionNames := by
  obtain ⟨k, h⟩ := h
  have hcallee : Node.Within (.callee (.name f)) (.tree t) :=
    Node.Within.trans (.child List.mem_cons_self .refl) h
  rw [functionNames, Text.mem_sortTexts, List.mem_filterMap]
  exact ⟨.callee (.name f), mem_walk_of_within hcallee, rfl⟩

theorem callAt?_eq_some_iff {n : Node} {f : String} {args : List Literal} :
    callAt? n = some (f, args) ↔
      ∃ xs k, n.toTree? = some (.call (.name f) xs k) ∧
        xs.filterMap literal? = args := by
  constructor
  · intro h
    unfold callAt? at h
    split at h
    case h_3 => cases h
    case h_1 xs k | h_2 xs k =>
      cases h
      exact ⟨xs, k, rfl, rfl⟩
  · rintro ⟨xs, k, htree, rfl⟩
    cases n with
    | tree u | callee u =>
      obtain rfl := Option.some.inj htree
      rfl
    | sign _ | comparator _ => cases htree

theorem arguments_eq_some_iff {e : String × List Literal} {f : String}
    {args : List Literal} :
    (if e.1 = f then some e.2 else none) = some args ↔ e = (f, args) := by
  rw [Option.ite_none_right_eq_some, Option.some_inj, Prod.ext_iff]

theorem mem_callArguments_iff {t : Tree} {f : String} {args : List Literal} :
    args ∈ t.callArguments f ↔ (f, args) ∈ t.calls := by
  simp only [callArguments, List.mem_filterMap, arguments_eq_some_iff,
    exists_eq_right]

theorem HasCall.mem_calls {t : Tree} {f : String} {args : List Literal}
    (h : t.HasCall f args) :
    (f, args) ∈ t.calls := by
  obtain ⟨k, h⟩ := h
  rw [calls, List.mem_filterMap]
  refine ⟨.tree (.call (.name f) (args.map .constant) k),
    mem_walk_of_within h, callAt?_eq_some_iff.mpr ⟨_, k, rfl, ?_⟩⟩
  exact filterMap_literal?_constants args

theorem HasCall.mem_callArguments {t : Tree} {f : String}
    {args : List Literal} (h : t.HasCall f args) :
    args ∈ t.callArguments f :=
  mem_callArguments_iff.mpr h.mem_calls

end Tree

end AccessRules.Expression
