import AccessRules.Proofs.Expression.Dependence
import AccessRules.Proofs.Expression.Place

/-!
# What a walk collects

A walk is a loop over a queue: each round visits the first part and puts the
parts directly below it to the end.  The queue becomes smaller with each round,
counted with all that lies within its parts.  What was collected so far,
together with what a recursion would still collect from the parts in the queue,
stays the same up to its order.

So the walk collects the calls of a tree that a recursion on the tree collects,
those nearer to the root first.  Whether a name is a function or a variable
depends on its place alone: it is called at the first place below a call.
-/

namespace AccessRules.Expression

open Relation

/-! ## The loop -/

/-- One round of the loop, on the parts that are visited and the queue. -/
inductive Round : List Node × List Node → List Node × List Node → Prop
  | visit (visited : List Node) (n : Node) (queue : List Node) :
      Round (visited, n :: queue) (visited ++ [n], queue ++ n.children)

namespace Round

variable {s s' : List Node × List Node}

theorem size_lt (h : Round s s') :
    (s'.2.map Node.size).sum < (s.2.map Node.size).sum := by
  cases h with
  | visit visited n queue =>
    have hsize := n.size_eq
    rw [List.map_append, List.sum_append, List.map_cons, List.sum_cons]
    omega

/-- No run of the loop goes on for ever. -/
theorem wellFounded :
    WellFounded fun s' s : List Node × List Node => Round s s' :=
  Subrelation.wf size_lt
    (measure fun s : List Node × List Node => (s.2.map Node.size).sum).wf

theorem rightUnique : Relator.RightUnique Round := by
  rintro s a b ⟨visited, n, queue⟩ ⟨⟩
  rfl

/-- A round moves a part from the queue to what is visited, and what lies below
it stays to be visited. -/
theorem perm {α : Type} {item? : Node → Option α} {items : Node → List α}
    (hitems : ∀ n, items n = (item? n).toList ++ n.children.flatMap items)
    (h : Round s s') :
    (s.1.filterMap item? ++ s.2.flatMap items).Perm
      (s'.1.filterMap item? ++ s'.2.flatMap items) := by
  cases h with
  | visit visited n queue =>
    have hvisited : (visited ++ [n]).filterMap item? =
        visited.filterMap item? ++ (item? n).toList := by
      rw [List.filterMap_append]
      cases hn : item? n <;> simp [hn]
    rw [hvisited, List.flatMap_cons, hitems n, List.flatMap_append,
      List.append_assoc, List.append_assoc]
    exact (List.perm_append_comm.append_left _).append_left _

end Round

/-- All rounds of a loop together. -/
theorem perm_of_rounds {α : Type} {item? : Node → Option α}
    {items : Node → List α}
    (hitems : ∀ n, items n = (item? n).toList ++ n.children.flatMap items)
    {s s' : List Node × List Node} (h : ReflTransGen Round s s') :
    (s.1.filterMap item? ++ s.2.flatMap items).Perm
      (s'.1.filterMap item? ++ s'.2.flatMap items) := by
  induction h with
  | refl => exact List.Perm.refl _
  | tail _ hround ih => exact ih.trans (hround.perm hitems)

/-- With enough steps, a walk visits what the loop visits until its queue is
empty. -/
theorem rounds_walkFrom {fuel : Nat} {visited queue : List Node}
    (hfuel : (queue.map Node.size).sum ≤ fuel) :
    ReflTransGen Round (visited, queue)
      (visited ++ walkFrom fuel queue, []) := by
  induction fuel generalizing visited queue with
  | zero =>
    cases queue with
    | nil => rw [walkFrom, List.append_nil]
    | cons n queue =>
      have hsize := n.size_eq
      rw [List.map_cons, List.sum_cons] at hfuel
      omega
  | succ fuel ih =>
    cases queue with
    | nil => rw [walkFrom, List.append_nil]
    | cons n queue =>
      have hround := Round.visit visited n queue
      have hlt := hround.size_lt
      rw [walkFrom, List.append_cons]
      exact .head hround (ih (Nat.le_of_lt_succ (hlt.trans_le hfuel)))

namespace Tree

/-- The loop that begins with a tree ends when it has visited the parts of its
walk. -/
theorem rounds_iff {t : Tree} {visited : List Node} :
    ReflTransGen Round ([], [.tree t]) (visited, []) ↔ visited = t.walk := by
  have hwalk : ReflTransGen Round ([], [.tree t]) (t.walk, []) :=
    rounds_walkFrom (by simp [Node.size])
  constructor
  · intro h
    -- neither of two states with an empty queue goes on to the other one
    rcases h.total_of_right_unique Round.rightUnique hwalk with h | h
    · rcases h.cases_head with h | ⟨_, ⟨⟩, _⟩
      exact congrArg Prod.fst h
    · rcases h.cases_head with h | ⟨_, ⟨⟩, _⟩
      exact (congrArg Prod.fst h).symm
  · rintro rfl
    exact hwalk

theorem perm_filterMap_walk {α : Type} {item? : Node → Option α}
    {items : Node → List α}
    (hitems : ∀ n, items n = (item? n).toList ++ n.children.flatMap items)
    (t : Tree) :
    (t.walk.filterMap item?).Perm (items (.tree t)) := by
  have hperm := perm_of_rounds hitems (rounds_iff (t := t).mpr rfl)
  simpa using hperm.symm

/-! ## Calls by recursion -/

mutual

/-- The calls of names within a tree with their literal arguments, collected by
recursion on the tree. -/
def collectCalls : Tree → List (String × List Literal)
  | .constant _ | .name _ | .signed _ | .unsupported _ => []
  | .conj xs | .disj xs => collectCallsList xs
  | .negation x => collectCalls x
  | .comparison x links => collectCalls x ++ collectCallsLinks links
  | .call (.name f) xs _ => (f, xs.filterMap literal?) :: collectCallsList xs
  | .call g xs _ => collectCalls g ++ collectCallsList xs

/-- The calls within a list of trees. -/
def collectCallsList : List Tree → List (String × List Literal)
  | [] => []
  | x :: xs => collectCalls x ++ collectCallsList xs

/-- The calls within the links of a comparison chain. -/
def collectCallsLinks : List (Comparator × Tree) → List (String × List Literal)
  | [] => []
  | (_, x) :: links => collectCalls x ++ collectCallsLinks links

end

theorem collectCallsList_eq_flatMap (xs : List Tree) :
    collectCallsList xs = xs.flatMap collectCalls := by
  induction xs with
  | nil => rfl
  | cons x xs ih => rw [collectCallsList, ih, List.flatMap_cons]

theorem collectCallsLinks_eq_flatMap (links : List (Comparator × Tree)) :
    collectCallsLinks links = links.flatMap fun l => l.2.collectCalls := by
  induction links with
  | nil => rfl
  | cons l links ih => rw [collectCallsLinks, ih, List.flatMap_cons]

end Tree

/-- The calls within a part. -/
def Node.collectCalls : Node → List (String × List Literal)
  | .tree t | .callee t => t.collectCalls
  | .sign _ | .comparator _ => []

namespace Tree

theorem collectCalls_eq (t : Tree) :
    t.collectCalls =
      (callAt? (.tree t)).toList ++ t.children.flatMap Node.collectCalls := by
  cases t with
  | constant _ | name _ | signed _ | unsupported _ => rfl
  | conj xs | disj xs =>
    simp [collectCalls, callAt?, children, collectCallsList_eq_flatMap,
      List.flatMap_map, Node.collectCalls]
  | negation x =>
    simp [collectCalls, callAt?, children, Node.collectCalls]
  | comparison x links =>
    simp [collectCalls, callAt?, children, collectCallsLinks_eq_flatMap,
      List.flatMap_map, Node.collectCalls]
  | call g xs k =>
    cases g <;> simp [collectCalls, callAt?, children,
      collectCallsList_eq_flatMap, List.flatMap_map, Node.collectCalls]

theorem callAt?_callee (t : Tree) :
    callAt? (.callee t) = callAt? (.tree t) := by
  cases t with
  | call g xs k => cases g <;> rfl
  | _ => rfl

end Tree

theorem Node.collectCalls_eq (n : Node) :
    n.collectCalls =
      (Tree.callAt? n).toList ++ n.children.flatMap collectCalls := by
  cases n with
  | tree t => exact t.collectCalls_eq
  | callee t =>
    rw [Tree.callAt?_callee]
    exact t.collectCalls_eq
  | sign _ | comparator _ => rfl

/-- The walk collects the calls that the recursion collects. -/
theorem Tree.perm_calls (t : Tree) : t.calls.Perm t.collectCalls :=
  perm_filterMap_walk Node.collectCalls_eq t

/-! ## Calls and names at places -/

namespace Tree

/-- The tree at a place in a tree. -/
def at? (t : Tree) (p : Place) : Option Tree :=
  ((Node.tree t).at? p).bind Node.toTree?

/-- What is called stands at the first place below its call. -/
def IsCallee (t : Tree) (p : Place) : Prop :=
  ∃ (q : Place) (g : Tree) (xs : List Tree) (k : Bool),
    t.at? q = some (.call g xs k) ∧ p = q ++ [0]

/-- A call of a function with literal arguments stands at a place. -/
def HasCallAt (t : Tree) (function : String) (p : Place)
    (args : List Literal) : Prop :=
  t.at? p = some (.call (.name function) (args.map .constant) false)

/-- A list holds the arguments of all calls of a function in a tree, once for
each place of such a call: shorter places come before longer ones, and places of
one length from left to right. -/
def ListsCalls (t : Tree) (function : String)
    (argumentLists : List (List Literal)) : Prop :=
  ∃ places : List Place,
    (∀ p, p ∈ places ↔ ∃ args, t.HasCallAt function p args) ∧
    places.Pairwise (List.Shortlex (· < ·)) ∧
    List.Forall₂ (t.HasCallAt function) places argumentLists

end Tree

/-- What is called stands first below a call, and nowhere else. -/
theorem Tree.getElem?_children_eq_callee_iff {u g : Tree} {i : Nat} :
    u.children[i]? = some (.callee g) ↔
      i = 0 ∧ ∃ xs k, u = .call g xs k := by
  constructor
  · intro h
    have hmem : Node.callee g ∈ u.children := List.mem_of_getElem? h
    cases u with
    | call f xs k =>
      cases i with
      | zero =>
        cases h
        exact ⟨rfl, xs, k, rfl⟩
      | succ i =>
        have harguments : Node.callee g ∈ xs.map .tree := List.mem_of_getElem? h
        simp at harguments
    | _ => simp [children] at hmem
  · rintro ⟨rfl, xs, k, rfl⟩
    rfl

theorem Node.getElem?_children_eq_callee_iff {n : Node} {i : Nat} {g : Tree} :
    n.children[i]? = some (.callee g) ↔
      i = 0 ∧ ∃ xs k, n.toTree? = some (.call g xs k) := by
  cases n with
  | tree u | callee u =>
    simp only [children, toTree?, Option.some.injEq]
    exact Tree.getElem?_children_eq_callee_iff
  | sign _ | comparator _ => simp [children, toTree?]

namespace Tree

variable {t : Tree}

theorem isCallee_iff {p : Place} :
    t.IsCallee p ↔ ∃ g, (Node.tree t).at? p = some (.callee g) := by
  constructor
  · rintro ⟨q, g, xs, k, hq, rfl⟩
    obtain ⟨n, hn, htree⟩ := Option.bind_eq_some_iff.mp hq
    refine ⟨g, ?_⟩
    rw [Node.at?_concat, hn, Option.bind_some]
    exact Node.getElem?_children_eq_callee_iff.mpr ⟨rfl, xs, k, htree⟩
  · rintro ⟨g, hg⟩
    rcases p.eq_nil_or_concat' with rfl | ⟨q, i, rfl⟩
    · cases hg
    · rw [Node.at?_concat, Option.bind_eq_some_iff] at hg
      obtain ⟨n, hn, hchild⟩ := hg
      obtain ⟨rfl, xs, k, htree⟩ :=
        Node.getElem?_children_eq_callee_iff.mp hchild
      exact ⟨q, g, xs, k, by rw [at?, hn, Option.bind_some, htree], rfl⟩

/-- A tree is called exactly where the walk visits it as something that is
called. -/
theorem at?_called_iff {p : Place} {u : Tree} :
    t.at? p = some u ∧ t.IsCallee p ↔
      (Node.tree t).at? p = some (.callee u) := by
  rw [isCallee_iff, at?]
  cases hp : (Node.tree t).at? p with
  | none => simp
  | some n => cases n <;> simp [Node.toTree?]

theorem at?_not_called_iff {p : Place} {u : Tree} :
    t.at? p = some u ∧ ¬ t.IsCallee p ↔
      (Node.tree t).at? p = some (.tree u) := by
  rw [isCallee_iff, at?]
  cases hp : (Node.tree t).at? p with
  | none => simp
  | some n => cases n <;> simp [Node.toTree?]

theorem mem_functionNames_iff_exists_place {f : String} :
    f ∈ t.functionNames ↔ ∃ p, t.at? p = some (.name f) ∧ t.IsCallee p := by
  simp only [at?_called_iff, mem_functionNames_iff_within,
    Node.within_iff_exists_at?]

theorem mem_variableNames_iff_exists_place {x : String} :
    x ∈ t.variableNames ↔ ∃ p, t.at? p = some (.name x) ∧ ¬ t.IsCallee p := by
  simp only [at?_not_called_iff, mem_variableNames_iff, Contains,
    Node.within_iff_exists_at?]

/-! ## Calls of one function -/

/-- The literal arguments at a part that is a call of a function. -/
def argumentsAt? (function : String) (n : Node) : Option (List Literal) :=
  (callAt? n).bind fun e => if e.1 = function then some e.2 else none

theorem callArguments_eq (t : Tree) (f : String) :
    t.callArguments f = t.walk.filterMap (argumentsAt? f) := by
  rw [callArguments, calls, List.filterMap_filterMap]
  rfl

theorem argumentsAt?_eq_some_iff {n : Node} {f : String} {args : List Literal} :
    argumentsAt? f n = some args ↔ callAt? n = some (f, args) := by
  simp only [argumentsAt?, Option.bind_eq_some_iff, arguments_eq_some_iff,
    exists_eq_right]

/-- Every call in a tree of the grammar is a call of a name with literal
arguments. -/
theorem Grammatical.exists_hasCallAt (h : t.Grammatical) {p : Place}
    {g : Tree} {xs : List Tree} {k : Bool}
    (hp : t.at? p = some (.call g xs k)) :
    ∃ (f : String) (args : List Literal),
      g = .name f ∧ xs = args.map .constant ∧ k = false := by
  obtain ⟨n, hn, htree⟩ := Option.bind_eq_some_iff.mp hp
  have hwithin : n.Within (.tree t) := Node.within_iff_exists_at?.mpr ⟨p, hn⟩
  obtain ⟨-, hk, f, args, hg, hxs⟩ :=
    (hwithin.grammatical h).of_toTree?_eq_call htree
  exact ⟨f, args, hg, hxs, hk⟩

theorem Grammatical.hasCallAt_iff (h : t.Grammatical) {f : String} {p : Place}
    {args : List Literal} :
    t.HasCallAt f p args ↔
      ((Node.tree t).at? p).bind (argumentsAt? f) = some args := by
  rw [Option.bind_eq_some_iff]
  constructor
  · intro hcall
    obtain ⟨n, hn, htree⟩ := Option.bind_eq_some_iff.mp hcall
    refine ⟨n, hn, ?_⟩
    rw [argumentsAt?_eq_some_iff, callAt?_eq_some_iff]
    exact ⟨_, _, htree, filterMap_literal?_constants args⟩
  · rintro ⟨n, hn, hargs⟩
    obtain ⟨xs, k, htree, hxs⟩ :=
      callAt?_eq_some_iff.mp (argumentsAt?_eq_some_iff.mp hargs)
    have hp : t.at? p = some (.call (.name f) xs k) := by
      rw [at?, hn, Option.bind_some, htree]
    obtain ⟨_, args', -, rfl, rfl⟩ := h.exists_hasCallAt hp
    rw [filterMap_literal?_constants] at hxs
    rw [HasCallAt, hp, hxs]

end Tree

/-- What a list gives stands beside the elements that give something. -/
theorem forall₂_filter_filterMap {α β : Type} (item? : α → Option β)
    (xs : List α) :
    List.Forall₂ (fun x y => item? x = some y)
      (xs.filter fun x => (item? x).isSome) (xs.filterMap item?) := by
  induction xs with
  | nil => exact .nil
  | cons x xs ih =>
    cases hx : item? x with
    | none => simpa [hx] using ih
    | some y => simpa [hx] using ih

/-- Entries whose keys are in a list of distinct keys are the entries of those
keys. -/
theorem perm_flatMap_filter {α β : Type} [DecidableEq α] {keys : List α}
    (hkeys : keys.Nodup) {entries : List (α × β)}
    (hentries : ∀ e ∈ entries, e.1 ∈ keys) :
    (keys.flatMap fun k => entries.filter (·.1 = k)).Perm entries := by
  induction keys generalizing entries with
  | nil =>
    obtain rfl : entries = [] :=
      List.eq_nil_iff_forall_not_mem.mpr fun e he => by cases hentries e he
    rfl
  | cons k keys ih =>
    obtain ⟨hk, hkeys⟩ := List.nodup_cons.mp hkeys
    -- the entries of the other keys are those that are left when the entries of
    -- the first one are taken out
    have hothers : (keys.flatMap fun j => entries.filter (·.1 = j)) =
        keys.flatMap fun j =>
          (entries.filter fun e => !decide (e.1 = k)).filter (·.1 = j) := by
      apply List.flatMap_congr
      intro j hj
      rw [List.filter_filter]
      apply List.filter_congr
      intro e _
      by_cases hj' : e.1 = j
      · have hjk : j ≠ k := fun hjk => hk (hjk ▸ hj)
        simp [hj', hjk]
      · simp [hj']
    rw [List.flatMap_cons, hothers]
    refine ((ih hkeys ?_).append_left _).trans
      (List.filter_append_perm _ entries)
    intro e he
    obtain ⟨he, hne⟩ := List.mem_filter.mp he
    exact (List.mem_cons.mp (hentries e he)).resolve_left (by simpa using hne)

namespace Tree

theorem Grammatical.listsCalls {t : Tree} (h : t.Grammatical) (f : String) :
    t.ListsCalls f (t.callArguments f) := by
  refine ⟨t.places.filter fun p =>
    (((Node.tree t).at? p).bind (argumentsAt? f)).isSome, ?_, ?_, ?_⟩
  · intro p
    simp only [h.hasCallAt_iff, ← Option.isSome_iff_exists, List.mem_filter,
      mem_places_iff]
    exact and_iff_right_of_imp Option.isSome_of_isSome_bind
  · exact t.pairwise_places.filter _
  · rw [callArguments_eq, filterMap_walk]
    refine (forall₂_filter_filterMap _ t.places).imp ?_
    intro p args hargs
    exact h.hasCallAt_iff.mpr hargs

theorem mem_functionNames_iff_callArguments_ne_nil {t : Tree} {f : String}
    (h : t.Accepted) :
    f ∈ t.functionNames ↔ t.callArguments f ≠ [] := by
  constructor
  · intro hf
    obtain ⟨args, hcall⟩ := h.mem_functionNames_iff.mp hf
    exact List.ne_nil_of_mem hcall.mem_callArguments
  · intro hne
    obtain ⟨args, hargs⟩ := List.exists_mem_of_ne_nil _ hne
    exact mem_functionNames_of_mem_callArguments hargs

/-- The calls of all functions together are the calls that the recursion
collects. -/
theorem perm_flatMap_callArguments (t : Tree) :
    (t.functionNames.flatMap fun f => (t.callArguments f).map (f, ·)).Perm
      t.collectCalls := by
  have hfilter : ∀ f,
      (t.callArguments f).map (f, ·) = t.calls.filter (·.1 = f) := by
    intro f
    rw [callArguments, List.map_filterMap, ← List.filterMap_eq_filter]
    apply List.filterMap_congr
    rintro ⟨g, args⟩ _
    by_cases hg : g = f
    · simp [hg, Option.guard]
    · simp [hg, Option.guard]
  have hfunctions : ∀ e ∈ t.calls, e.1 ∈ t.functionNames := by
    intro e he
    exact mem_functionNames_of_mem_callArguments (mem_callArguments_iff.mpr he)
  simp only [hfilter]
  exact (perm_flatMap_filter (Text.nodup_sortTexts _) hfunctions).trans
    t.perm_calls

/-- The walk through a tree that is not against the rules ends, and it loses and
invents nothing.  Every call is a call of a name with literal arguments.  The
argument lists of one name stand for the places of its calls, each place once
and shorter ones before longer ones, and those of all names together are what a
recursion collects.  The functions are the names with argument lists; the
variables are the names that stand at a place without being called there, and a
name can be both. -/
theorem walk_collects_calls_and_names {t : Tree} (h : t.firstOffence? = none) :
    Acc (fun s' s => Round s s') ([], [.tree t]) ∧
    (∀ visited,
      ReflTransGen Round ([], [.tree t]) (visited, []) ↔ visited = t.walk) ∧
    (∀ p g xs k, t.at? p = some (.call g xs k) →
      ∃ f args, t.HasCallAt f p args) ∧
    (∀ f, t.ListsCalls f (t.callArguments f)) ∧
    (t.functionNames.flatMap fun f => (t.callArguments f).map (f, ·)).Perm
      t.collectCalls ∧
    (∀ f, f ∈ t.functionNames ↔ t.callArguments f ≠ []) ∧
    (∀ x, x ∈ t.variableNames ↔
      ∃ p, t.at? p = some (.name x) ∧ ¬ t.IsCallee p) ∧
    ∀ x, x ∈ t.functionNames ∧ x ∈ t.variableNames ↔
      (∃ p, t.at? p = some (.name x) ∧ t.IsCallee p) ∧
        ∃ p, t.at? p = some (.name x) ∧ ¬ t.IsCallee p := by
  have hgrammatical : t.Grammatical := firstOffence?_eq_none_iff.mp h
  refine ⟨Round.wellFounded.apply _, fun visited => rounds_iff, ?_,
    hgrammatical.listsCalls, t.perm_flatMap_callArguments, ?_, ?_, ?_⟩
  · intro p g xs k hp
    obtain ⟨f, args, rfl, rfl, rfl⟩ := hgrammatical.exists_hasCallAt hp
    exact ⟨f, args, hp⟩
  · intro f
    exact mem_functionNames_iff_callArguments_ne_nil hgrammatical.accepted
  · intro x
    exact mem_variableNames_iff_exists_place
  · intro x
    rw [mem_functionNames_iff_exists_place, mem_variableNames_iff_exists_place]

/-- The second call in the text is nearer to the root than the first one, and
the name of both is a variable, too. -/
theorem walk_collects_calls_and_names_nearer :
    let s := "not f('a', 1) or f('b') or f == None"
    let deeper := [Literal.text "a", .integer 1]
    let nearer := [Literal.text "b"]
    let t := Tree.disj
      [.negation (.call (.name "f") (deeper.map .constant) false),
        .call (.name "f") (nearer.map .constant) false,
        .comparison (.name "f") [(.equal, .constant .nothing)]]
    compile (some s) = .ok t ∧ t.firstOffence? = none ∧
      t.ListsCalls "f" [nearer, deeper] ∧
      t.collectCalls = [("f", deeper), ("f", nearer)] ∧
      "f" ∈ t.functionNames ∧ "f" ∈ t.variableNames := by
  intro s deeper nearer t
  have hoffence : t.firstOffence? = none := by decide +kernel
  have hlists : t.callArguments "f" = [nearer, deeper] := by decide +kernel
  obtain ⟨-, -, -, hcalls, -, hfunctions, hvariables, -⟩ :=
    walk_collects_calls_and_names hoffence
  refine ⟨by decide +kernel, hoffence, hlists ▸ hcalls "f", rfl, ?_, ?_⟩
  · rw [hfunctions, hlists]
    exact List.cons_ne_nil _ _
  · rw [hvariables]
    refine ⟨[2, 0], rfl, ?_⟩
    rw [isCallee_iff]
    rintro ⟨g, hg⟩
    cases hg

end Tree

end AccessRules.Expression
