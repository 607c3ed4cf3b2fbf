import AccessRules.Proofs.Expression.Writing

/-!
# Recovering written trees

The grammar reads every tree back from the tokens it is written with.  The
readers of each rank are followed along the ways of writing, from the outside
in: every bracket leads one level deeper.
-/

namespace AccessRules.Expression

open Reader Grammar

variable {ts us rest : List Token} {t : Tree} {d : Nat}

/-! ## Reading ranks -/

/-- The reader for expressions of a rank, with nested expressions read at the
given level. -/
def Rank.reader (d : Nat) : Rank → Reader Tree
  | disj => disjunction (level (d + 1)).arithmetic
  | conj => conjunction (level (d + 1)).arithmetic
  | neg => inversion (level (d + 1)).arithmetic
  | comparison => Grammar.comparison (level (d + 1)).arithmetic
  | operand => (level (d + 1)).arithmetic
  | atom => Grammar.atom (level d).expr (level d).arithmetic (level d).clauses

/-- A tree is read from its tokens wherever they are followed by a token at
which the rank ends. -/
def Reads (p : Rank) (t : Tree) (ts : List Token) : Prop :=
  ∀ d rest, ts.length ≤ d → (∀ u ∈ rest.head?, u ∈ p.ends) →
    p.reader d (ts ++ rest) = some (t, rest)

/-- No expression of a rank goes on with a token that is not among those at
which the rank ends. -/
theorem head?_ne_of_ends {ends : List Token} {u : Token}
    (h : ∀ v ∈ rest.head?, v ∈ ends) (hu : u ∉ ends) :
    rest.head? ≠ some u := by
  intro hhead
  exact hu (h u hhead)

/-! ## Lists of operands -/

/-- Operands with a word between them are read one after the other. -/
theorem separated_intercalate (item : Reader Tree) (s : Token)
    {ends : List Token} {x : Tree × List Token} {xs : List (Tree × List Token)}
    (hitem : ∀ y ∈ x :: xs, ∀ more : List Token,
      (∀ u ∈ more.head?, u ∈ ends) → item (y.2 ++ more) = some (y.1, more))
    (hs : s ∈ ends) (hrest : ∀ u ∈ rest.head?, u ∈ ends)
    (hstop : rest.head? ≠ some s) :
    separated s item ([s].intercalate ((x :: xs).map (·.2)) ++ rest) =
      some ((x.1, xs.map (·.1)), rest) := by
  obtain ⟨hx, hxs⟩ := List.forall_mem_cons.mp hitem
  have hmore : ReadsAll (after s item) (xs.map (·.1))
      (xs.flatMap (fun y => s :: y.2) ++ rest) rest := by
    have hall := readsAll_of_forall (after s item)
      (xs.map fun y => (y.1, s :: y.2)) hrest ?_ (after_apply_of_ne hstop)
    · rwa [List.map_map, List.flatMap_map] at hall
    · intro y hy
      obtain ⟨z, hz, rfl⟩ := List.mem_map.mp hy
      refine ⟨⟨s, z.2, rfl, hs⟩, ?_⟩
      intro more hends
      exact after_apply (hxs z hz more hends)
  have hends : ∀ u ∈ (xs.flatMap (fun y => s :: y.2) ++ rest).head?, u ∈ ends :=
    forall_mem_head?_flatMap (fun y _ => ⟨s, y.2, rfl, hs⟩) hrest
  rw [List.map_cons, intercalate_cons, List.flatMap_map, List.append_assoc]
  exact separated_apply (hx _ hends) hmore

theorem conjunction_intercalate (x : Tree × List Token)
    (xs : List (Tree × List Token)) (hxs : ∀ y ∈ x :: xs, Reads .neg y.1 y.2)
    (hlength : ∀ y ∈ x :: xs, y.2.length ≤ d)
    (hrest : ∀ u ∈ rest.head?, u ∈ Rank.conj.ends) :
    Rank.conj.reader d
      ([.keyword .conj].intercalate ((x :: xs).map (·.2)) ++ rest) =
      some (if xs.isEmpty then x.1 else .conj ((x :: xs).map (·.1)), rest) := by
  have hread := separated_intercalate (Rank.neg.reader d) (.keyword .conj)
    (fun y hy more hmore => hxs y hy d more (hlength y hy) hmore) (by decide)
    (fun u hu => Rank.ends_subset_next .conj (hrest u hu))
      (head?_ne_of_ends hrest (by decide))
  rw [Rank.reader, conjunction]
  refine (bind_apply hread).trans ?_
  simp only [List.isEmpty_map]
  rfl

theorem disjunction_intercalate (x : Tree × List Token)
    (xs : List (Tree × List Token)) (hxs : ∀ y ∈ x :: xs, Reads .conj y.1 y.2)
    (hlength : ∀ y ∈ x :: xs, y.2.length ≤ d)
    (hrest : ∀ u ∈ rest.head?, u ∈ Rank.disj.ends) :
    Rank.disj.reader d
      ([.keyword .disj].intercalate ((x :: xs).map (·.2)) ++ rest) =
      some (if xs.isEmpty then x.1 else .disj ((x :: xs).map (·.1)), rest) := by
  have hread := separated_intercalate (Rank.conj.reader d) (.keyword .disj)
    (fun y hy more hmore => hxs y hy d more (hlength y hy) hmore) (by decide)
    (fun u hu => Rank.ends_subset_next .disj (hrest u hu))
      (head?_ne_of_ends hrest (by decide))
  rw [Rank.reader, disjunction]
  refine (bind_apply hread).trans ?_
  simp only [List.isEmpty_map]
  rfl

theorem length_le_flatMap {α : Type} {x : α} {xs : List α} (f : α → List Token)
    (h : x ∈ xs) :
    (f x).length ≤ (xs.flatMap f).length := by
  rw [List.flatMap_def]
  exact (List.sublist_flatten_of_mem (List.mem_map_of_mem h)).length_le

theorem length_le_intercalate {s : Token} {tss : List (List Token)}
    (h : ts ∈ tss) :
    ts.length ≤ ([s].intercalate tss).length := by
  cases tss with
  | nil => cases h
  | cons us tss =>
    rw [intercalate_cons, List.length_append]
    rcases List.mem_cons.mp h with rfl | h
    · omega
    · have hle := length_le_flatMap (s :: ·) h
      simp only [List.length_cons] at hle
      omega

/-! ## Comparisons -/

/-- A chain of comparisons is read link by link. -/
theorem comparison_links (links : List (Comparator × Tree × List Token))
    (ht : Reads .operand t ts)
    (hsigns : ∀ l ∈ links, l.1 = .equal ∨ l.1 = .unequal)
    (hlinks : ∀ l ∈ links, Reads .operand l.2.1 l.2.2) (hlength : ts.length ≤ d)
    (hlengths : ∀ l ∈ links, l.2.2.length ≤ d)
    (hrest : ∀ u ∈ rest.head?, u ∈ Rank.comparison.ends) :
    Rank.comparison.reader d
      (ts ++ links.flatMap (fun l => l.1.token :: l.2.2) ++ rest) =
      some (if links.isEmpty then t
        else .comparison t (links.map fun l => (l.1, l.2.1)), rest) := by
  have hoperand : ∀ u ∈ rest.head?, u ∈ Rank.operand.ends := fun u hu =>
    Rank.ends_subset_next .comparison (hrest u hu)
  have htoken : ∀ l ∈ links, l.1.token ∈ Rank.operand.ends ∧
      ∀ more : List Token, comparatorOf? (l.1.token :: more) =
        some (l.1, more) := by
    intro l hl
    rcases hsigns l hl with hsign | hsign
    all_goals
      rw [hsign]
      exact ⟨by decide, fun _ => rfl⟩
  have hdone : link (level (d + 1)).arithmetic rest = some (none, rest) := by
    have hnone : comparatorOf? rest = none := by
      cases rest with
      | nil => rfl
      | cons u rest =>
        have hu := hrest u rfl
        simp only [Rank.ends, closers, List.mem_cons, List.not_mem_nil,
          or_false] at hu
        rcases hu with rfl | rfl | rfl | rfl
        all_goals rfl
    rw [link, hnone]
  have hmore : ReadsAll (link (level (d + 1)).arithmetic)
      (links.map fun l => (l.1, l.2.1))
      (links.flatMap (fun l => l.1.token :: l.2.2) ++ rest) rest := by
    have hall := readsAll_of_forall (link (level (d + 1)).arithmetic)
      (links.map fun l => ((l.1, l.2.1), l.1.token :: l.2.2)) hoperand ?_ hdone
    · rwa [List.map_map, List.flatMap_map] at hall
    · intro l hl
      obtain ⟨m, hm, rfl⟩ := List.mem_map.mp hl
      obtain ⟨hends, hcomparator⟩ := htoken m hm
      refine ⟨⟨_, _, rfl, hends⟩, ?_⟩
      intro more hmore
      have hread := hlinks m hm d more (hlengths m hm) hmore
      rw [Rank.reader] at hread
      rw [List.cons_append, link, hcomparator]
      simp only [hread]
      rfl
  have hends :
      ∀ u ∈ (links.flatMap (fun l => l.1.token :: l.2.2) ++ rest).head?,
        u ∈ Rank.operand.ends :=
    forall_mem_head?_flatMap (fun l hl => ⟨_, _, rfl, (htoken l hl).1⟩) hoperand
  rw [List.append_assoc, Rank.reader, Grammar.comparison]
  refine (bind_apply (ht d _ hlength hends)).trans ?_
  refine (bind_apply hmore.repeated_apply).trans ?_
  simp only [List.isEmpty_map]
  rfl

/-! ## Operands -/

/-- No bracket, member or item of an operand begins where the operand ends. -/
theorem trailersFrom_end (expr : Reader Tree) (clauses : Reader Unit)
    (fuel : Nat) (t : Tree) (last : Trailer)
    (hrest : ∀ u ∈ rest.head?, u ∈ Rank.operand.ends) :
    trailersFrom expr clauses fuel t last rest = some ((t, last), rest) := by
  cases fuel with
  | zero => rfl
  | succ fuel =>
    rw [trailersFrom,
      bind_apply (accept_apply_of_ne (head?_ne_of_ends hrest (by decide)))]
    simp only [Bool.false_eq_true, ↓reduceIte]
    rw [bind_apply (accept_apply_of_ne (head?_ne_of_ends hrest (by decide)))]
    simp only [Bool.false_eq_true, ↓reduceIte]
    rw [bind_apply (accept_apply_of_ne (head?_ne_of_ends hrest (by decide)))]
    rfl

/-- An operand without signs and operators around it is a primary. -/
theorem arithmetic_apply {u : Token} (last : Trailer)
    (hu : Rank.atom.beginsWith u = true)
    (hprimary :
      primary (level d).expr (level d).arithmetic (level d).clauses (u :: us) =
        some ((t, last), rest))
    (hrest : ∀ v ∈ rest.head?, v ∈ Rank.operand.ends) :
    Rank.operand.reader d (u :: us) = some (t, rest) := by
  have hsign : signOf? u = none := by
    cases u with
    | symbol s =>
      rw [of_decide_eq_true hu]
      rfl
    | _ => rfl
  have hawait : u ≠ .keyword .await := by
    rintro rfl
    cases hu
  have hoperand :
      signedOperand (level d).expr (level d).arithmetic (level d).clauses
        (u :: us) = some ((none, t), rest) := by
    have htake : (u :: us).takeWhile (fun v => (signOf? v).isSome) = [] := by
      rw [List.takeWhile_cons_of_neg]
      simp [hsign]
    rw [signedOperand]
    simp only [htake, List.length_nil, List.drop_zero, List.head?_nil,
      Option.bind_none]
    split
    · rename_i heq
      exact absurd (List.cons.inj heq).1 hawait
    · rw [hprimary]
      rfl
  -- No operator of arithmetic is among the tokens at which an operand ends.
  have hstop :
      operation (level d).expr (level d).arithmetic (level d).clauses rest =
        some (none, rest) := by
    cases rest with
    | nil => rfl
    | cons v rest =>
      have hall : ∀ w ∈ Rank.operand.ends, operatorOf? w = none := by decide
      rw [operation, hall v (hrest v rfl)]
  have hlevel : Rank.operand.reader d = arithmeticWith (level d).expr
      (level d).arithmetic (level d).clauses := rfl
  rw [hlevel, arithmeticWith, bind_apply hoperand]
  simp only
  rw [bind_apply (ReadsAll.done hstop).repeated_apply]
  rfl

/-! ## Nested expressions -/

theorem Writes.head?_ne {p : Rank} {u : Token} (h : Writes p t ts)
    (rest : List Token) (hu : p.beginsWith u = false) :
    (ts ++ rest).head? ≠ some u := by
  obtain ⟨v, vs, rfl, hv⟩ := h.exists_eq_cons
  intro heq
  obtain rfl := Option.some.inj heq
  rw [hu] at hv
  cases hv

theorem Writes.tail_head?_ne {p : Rank} {u : Token} (h : Writes p t ts)
    (hrest : ∀ v ∈ rest.head?, v ∈ closers) (hu : u.isUsed = false) :
    (ts ++ rest).tail.head? ≠ some u := by
  have hused := h.isUsed
  obtain ⟨v, vs, rfl, -⟩ := h.exists_eq_cons
  intro heq
  have hu' : u.isUsed = true := by
    cases vs with
    | nil =>
      have hall : ∀ w ∈ closers, w.isUsed = true := by decide
      exact hall u (hrest u heq)
    | cons w vs =>
      obtain rfl := Option.some.inj heq
      exact hused w (by simp)
  rw [hu] at hu'
  cases hu'

/-- An expression inside a bracket is read one level deeper. -/
theorem Writes.expr_apply (h : Writes .disj t ts) (hread : Reads .disj t ts)
    (hlength : ts.length ≤ d) (hrest : ∀ u ∈ rest.head?, u ∈ closers) :
    (level (d + 1)).expr (ts ++ rest) = some (t, rest) := by
  have hlevel : (level (d + 1)).expr =
      conditional (level d).expr (level (d + 1)).arithmetic := rfl
  rw [hlevel, conditional, bind_apply (accept_apply_of_ne (h.head?_ne _ rfl))]
  simp only [Bool.false_eq_true, ↓reduceIte]
  refine (bind_apply (hread d rest hlength hrest)).trans ?_
  rw [bind_apply (accept_apply_of_ne (head?_ne_of_ends hrest (by decide)))]
  rfl

theorem namedItem_apply {expr : Reader Tree} (hexpr : expr ts = some (t, rest))
    (hwalrus : ts.tail.head? ≠ some (.symbol .walrus)) :
    namedItem expr ts = some ((t, .plain), rest) := by
  rw [namedItem.eq_def]
  split
  · exact absurd rfl hwalrus
  · rw [hexpr]
    rfl

/-- Brackets around an expression leave no trace in the tree. -/
theorem Writes.roundRest_apply (h : Writes .disj t ts)
    (hread : Reads .disj t ts) (hlength : ts.length ≤ d) (rest : List Token)
    (arithmetic : Reader Tree) (clauses : Reader Unit) :
    roundRest (level (d + 1)).expr arithmetic clauses
      (ts ++ .symbol .closeRound :: rest) = some (t, rest) := by
  have hends : ∀ u ∈ (Token.symbol .closeRound :: rest).head?, u ∈ closers :=
    forall_mem_head?_cons (by decide) rest
  have hitem : starredItem (level (d + 1)).expr arithmetic
      (ts ++ .symbol .closeRound :: rest) =
      some ((t, .plain), .symbol .closeRound :: rest) := by
    rw [starredItem, bind_apply (accept_apply_of_ne (h.head?_ne _ rfl))]
    exact namedItem_apply (h.expr_apply hread hlength hends)
      (h.tail_head?_ne hends rfl)
  rw [roundRest, bind_apply (accept_apply_of_ne (h.head?_ne _ rfl))]
  simp only [Bool.false_eq_true, ↓reduceIte]
  rw [bind_apply (accept_apply_of_ne (h.head?_ne _ rfl))]
  simp only [Bool.false_eq_true, ↓reduceIte]
  rw [bind_apply hitem]
  simp only
  rw [bind_apply (next?_apply _)]
  simp only [List.head?_cons]
  rw [bind_apply (expect_apply _ rest)]
  rfl

/-! ## Arguments -/

theorem Writes.argument_apply (h : Writes .disj t ts) (hread : Reads .disj t ts)
    (hlength : ts.length ≤ d) (hrest : ∀ u ∈ rest.head?, u ∈ closers) :
    argument (level (d + 1)).expr .positional (ts ++ rest) =
      some ((some t, .positional), rest) := by
  have hitem := namedItem_apply (h.expr_apply hread hlength hrest)
    (h.tail_head?_ne hrest rfl)
  have hassign := h.tail_head?_ne (u := .symbol .assign) hrest rfl
  have hdouble := h.head?_ne (u := .symbol .doubleStar) rest rfl
  have hstar := h.head?_ne (u := .symbol .star) rest rfl
  -- The first two tokens decide: only a keyword or a star would make it another
  -- kind of argument.
  rw [argument.eq_def]
  split
  case h_1 heq =>
    rw [heq] at hassign
    exact absurd rfl hassign
  case h_2 heq =>
    rw [heq] at hdouble
    exact absurd rfl hdouble
  case h_3 heq =>
    rw [heq] at hstar
    exact absurd rfl hstar
  case h_4 =>
    rw [hitem]
    rfl

/-- No comprehension begins behind an argument. -/
theorem atComprehension_apply (hrest : ∀ u ∈ rest.head?, u ∈ closers) :
    atComprehension rest = some (false, rest) := by
  rw [atComprehension, bind_apply (next?_apply rest)]
  cases rest with
  | nil => rfl
  | cons u rest =>
    have hu := hrest u rfl
    simp only [closers, List.mem_cons, List.not_mem_nil, or_false] at hu
    rcases hu with rfl | rfl
    all_goals rfl

/-- An argument is followed by a comma and further arguments, or by the closing
bracket. -/
theorem Writes.argumentsFrom_apply (h : Writes .disj t ts)
    (hread : Reads .disj t ts) (hlength : ts.length ≤ d)
    (hrest : ∀ u ∈ rest.head?, u ∈ closers) (clauses : Reader Unit) (fuel : Nat)
    (isFirst : Bool) :
    argumentsFrom (level (d + 1)).expr clauses (fuel + 1) isFirst .positional
      (ts ++ rest) =
      (do
        let (more, keywords) ←
          if ← accept (.symbol .comma) then
            argumentsFrom (level (d + 1)).expr clauses fuel false .positional
          else do
            expect (.symbol .closeRound)
            pure ([], false)
        pure (t :: more, keywords) : Reader (List Tree × Bool)) rest := by
  rw [argumentsFrom, bind_apply (accept_apply_of_ne (h.head?_ne _ rfl))]
  simp only [Bool.false_eq_true, ↓reduceIte]
  rw [bind_apply (next?_apply _),
    bind_apply (h.argument_apply hread hlength hrest)]
  simp only
  rw [bind_apply (atComprehension_apply hrest)]
  simp only [Bool.and_false, Bool.false_eq_true, ↓reduceIte]

/-- Arguments are read one after the other, up to the bracket behind the last
one. -/
theorem argumentsFrom_cons {clauses : Reader Unit} {x : Tree × List Token}
    {xs : List (Tree × List Token)} (isFirst : Bool) {fuel : Nat}
    (hwrites : ∀ y ∈ x :: xs, Writes .disj y.1 y.2)
    (hreads : ∀ y ∈ x :: xs, Reads .disj y.1 y.2)
    (hlength : ∀ y ∈ x :: xs, y.2.length ≤ d) (hfuel : xs.length < fuel) :
    argumentsFrom (level (d + 1)).expr clauses fuel isFirst .positional
        (x.2 ++ (xs.flatMap (fun y => .symbol .comma :: y.2) ++
          .symbol .closeRound :: rest)) =
      some ((x.1 :: xs.map (·.1), false), rest) := by
  obtain ⟨fuel, rfl⟩ : ∃ f, fuel = f + 1 := ⟨fuel - 1, by omega⟩
  induction xs generalizing x isFirst fuel with
  | nil =>
    obtain ⟨hx, -⟩ := List.forall_mem_cons.mp hwrites
    have hends : ∀ u ∈ (Token.symbol .closeRound :: rest).head?, u ∈ closers :=
      forall_mem_head?_cons (by decide) rest
    refine (hx.argumentsFrom_apply (hreads x List.mem_cons_self)
      (hlength x List.mem_cons_self) hends clauses fuel isFirst).trans ?_
    rfl
  | cons y xs ih =>
    obtain ⟨hx, hwrites⟩ := List.forall_mem_cons.mp hwrites
    obtain ⟨hread, hreads⟩ := List.forall_mem_cons.mp hreads
    obtain ⟨hle, hlength⟩ := List.forall_mem_cons.mp hlength
    rw [List.length_cons] at hfuel
    obtain ⟨fuel, rfl⟩ : ∃ f, fuel = f + 1 := ⟨fuel - 1, by omega⟩
    have hmore := ih false hwrites hreads hlength fuel (by omega)
    have hends : ∀ u ∈ (Token.symbol .comma :: (y.2 ++
        (xs.flatMap (fun y => .symbol .comma :: y.2) ++
          .symbol .closeRound :: rest))).head?, u ∈ closers :=
      forall_mem_head?_cons (by decide) _
    rw [List.flatMap_cons, List.cons_append, List.cons_append,
      List.append_assoc]
    refine (hx.argumentsFrom_apply hread hle hends clauses
      (fuel + 1) isFirst).trans ?_
    rw [bind_apply (accept_apply _ _)]
    simp only [↓reduceIte]
    rw [bind_apply hmore]
    rfl

/-- The arguments of a call are read up to its closing bracket. -/
theorem argumentsFrom_intercalate (clauses : Reader Unit) (fuel : Nat)
    (rest : List Token) {args : List (Tree × List Token)}
    (hwrites : ∀ x ∈ args, Writes .disj x.1 x.2)
    (hreads : ∀ x ∈ args, Reads .disj x.1 x.2)
    (hlength : ∀ x ∈ args, x.2.length ≤ d) (hfuel : args.length < fuel) :
    argumentsFrom (level (d + 1)).expr clauses fuel true .positional
        ([.symbol .comma].intercalate (args.map (·.2)) ++
          .symbol .closeRound :: rest) =
      some ((args.map (·.1), false), rest) := by
  cases args with
  | nil =>
    obtain ⟨fuel, rfl⟩ : ∃ f, fuel = f + 1 := ⟨fuel - 1, by omega⟩
    rfl
  | cons x xs =>
    rw [List.length_cons] at hfuel
    rw [List.map_cons, intercalate_cons, List.flatMap_map, List.append_assoc]
    exact argumentsFrom_cons true hwrites hreads hlength (by omega)

theorem length_le_length_intercalate (s : Token) (tss : List (List Token))
    (hne : ∀ ts ∈ tss, ts ≠ []) :
    tss.length ≤ ([s].intercalate tss).length := by
  cases tss with
  | nil => exact Nat.zero_le _
  | cons ts tss =>
    have hts := List.length_pos_iff.mpr (hne ts List.mem_cons_self)
    have hmore : tss.length ≤ (tss.flatMap (s :: ·)).length := by
      clear hne hts
      induction tss with
      | nil => exact Nat.le_refl 0
      | cons us tss ih =>
        rw [List.flatMap_cons, List.length_append, List.length_cons,
          List.length_cons]
        omega
    rw [intercalate_cons, List.length_append, List.length_cons]
    omega

/-- A call is read with the operand in front of it and all its arguments. -/
theorem call_apply {f : Tree} {args : List (Tree × List Token)}
    (hf : Writes .atom f ts) (hread : Reads .atom f ts)
    (hwrites : ∀ x ∈ args, Writes .disj x.1 x.2)
    (hreads : ∀ x ∈ args, Reads .disj x.1 x.2) (hlength : ts.length ≤ d + 1)
    (hlengths : ∀ x ∈ args, x.2.length ≤ d)
    (hrest : ∀ u ∈ rest.head?, u ∈ Rank.operand.ends) :
    Rank.operand.reader (d + 1)
        (ts ++ .symbol .openRound ::
          ([.symbol .comma].intercalate (args.map (·.2)) ++
            .symbol .closeRound :: rest)) =
      some (.call f (args.map (·.1)) false, rest) := by
  have hopen : ∀ u ∈ (Token.symbol .openRound ::
      ([.symbol .comma].intercalate (args.map (·.2)) ++
        .symbol .closeRound :: rest)).head?, u ∈ Rank.atom.ends :=
    forall_mem_head?_cons (by decide) _
  have hatom := hread (d + 1) _ hlength hopen
  obtain ⟨u, us, rfl, hu⟩ := hf.exists_eq_cons
  refine arithmetic_apply .call hu ?_ hrest
  rw [primary]
  refine (bind_apply hatom).trans ?_
  have hargs := argumentsFrom_intercalate (level (d + 1)).clauses
    (([Token.symbol .comma].intercalate (args.map (·.2)) ++
      .symbol .closeRound :: rest).length + 1) rest hwrites hreads hlengths ?_
  · rw [List.length_cons, trailersFrom, bind_apply (accept_apply _ _)]
    simp only [↓reduceIte]
    refine (bind_apply (x := fun us => argumentsFrom (level (d + 1)).expr
      (level (d + 1)).clauses (us.length + 1) true .positional us)
      hargs).trans ?_
    exact trailersFrom_end _ _ _ _ _ hrest
  · have hcount :=
      length_le_length_intercalate (.symbol .comma) (args.map (·.2)) ?_
    · rw [List.length_map] at hcount
      rw [List.length_append]
      omega
    · intro ts hts
      obtain ⟨x, hx, rfl⟩ := List.mem_map.mp hts
      obtain ⟨v, vs, hx, -⟩ := (hwrites x hx).exists_eq_cons
      rw [hx]
      exact List.cons_ne_nil v vs

/-! ## Recovery -/

/-- Whatever is read at a rank is read at the next looser rank as well. -/
theorem Reads.loosen {p : Rank} (h : Writes p.next t ts)
    (hread : Reads p.next t ts) :
    Reads p t ts := by
  intro d rest hlength hrest
  have hnext : ∀ u ∈ rest.head?, u ∈ p.next.ends := fun u hu =>
    Rank.ends_subset_next p (hrest u hu)
  have hsingle : ∀ s : Token, [s].intercalate [ts] = ts := by
    intro s
    rw [intercalate_cons, List.flatMap_nil, List.append_nil]
  cases p with
  | disj =>
    have hall := disjunction_intercalate (t, ts) []
      (List.forall_mem_singleton.mpr hread)
        (List.forall_mem_singleton.mpr hlength) hrest
    rwa [List.map_singleton, hsingle] at hall
  | conj =>
    have hall := conjunction_intercalate (t, ts) []
      (List.forall_mem_singleton.mpr hread)
        (List.forall_mem_singleton.mpr hlength) hrest
    rwa [List.map_singleton, hsingle] at hall
  | neg =>
    have hnot := h.head?_ne (u := .keyword .neg) rest rfl
    have hcomparison := hread d rest hlength hnext
    rw [Rank.reader, inversion.eq_def]
    split
    · rename_i heq
      rw [heq] at hnot
      exact absurd rfl hnot
    · exact hcomparison
  | comparison =>
    have hall :=
      comparison_links [] hread (by simp) (by simp) hlength (by simp) hrest
    simpa using hall
  | operand =>
    have hatom := hread d rest hlength hnext
    obtain ⟨u, us, rfl, hu⟩ := h.exists_eq_cons
    refine arithmetic_apply .absent hu ?_ hrest
    rw [primary]
    refine (bind_apply hatom).trans ?_
    exact trailersFrom_end _ _ _ _ _ hrest
  | atom => exact hread d rest hlength hrest

/-- A literal is read from its token. -/
theorem reads_constant (v : Literal) :
    Reads .atom (.constant v) [literalToken v] := by
  intro d rest hlength hrest
  cases v with
  | text s =>
    have htake : (Token.text s :: rest).takeWhile isQuoted = [.text s] := by
      rw [List.takeWhile_cons_of_pos rfl]
      cases rest with
      | nil => rfl
      | cons u rest =>
        have hall : ∀ v ∈ Rank.atom.ends, isQuoted v = false := by decide
        rw [List.takeWhile_cons_of_neg]
        rw [hall u (hrest u rfl)]
        exact Bool.false_ne_true
    have hliterals : quotedLiterals (.text s :: rest) =
        some (.constant (.text s), rest) := by
      rw [quotedLiterals]
      simp [htake, joinLiterals, String.join]
    exact hliterals
  | truth b =>
    cases b
    all_goals rfl
  | _ => rfl

/-- Every tree is read from the tokens that it is written with. -/
theorem Writes.reads {p : Rank} (h : Writes p t ts) : Reads p t ts := by
  induction h with
  | constant v => exact reads_constant v
  | name x => exact fun _ _ _ _ => rfl
  | enclosed h ih =>
    intro d rest hlength hrest
    simp only [List.length_cons, List.length_append, List.length_nil] at hlength
    -- The tokens between the brackets are read one level deeper; the brackets
    -- themselves pay for it.
    obtain ⟨d, rfl⟩ : ∃ e, d = e + 1 := ⟨d - 1, by omega⟩
    rw [List.cons_append, List.append_assoc]
    exact h.roundRest_apply ih (by omega) rest _ _
  | @call f ts args hf hargs ih ihargs =>
    intro d rest hlength hrest
    simp only [List.length_append, List.length_cons, List.length_nil] at hlength
    obtain ⟨d, rfl⟩ : ∃ e, d = e + 1 := ⟨d - 1, by omega⟩
    rw [List.append_assoc, List.cons_append, List.append_assoc]
    refine call_apply hf ih hargs ihargs (by omega) ?_ hrest
    intro x hx
    have hle :=
      length_le_intercalate (s := .symbol .comma)
        (List.mem_map_of_mem hx (f := (·.2)))
    omega
  | @comparison t ts links ht hne hsigns hlinks ih ihlinks =>
    intro d rest hlength hrest
    rw [List.length_append] at hlength
    have hlengths : ∀ l ∈ links, l.2.2.length ≤ d := by
      intro l hl
      have hle := length_le_flatMap (fun l => l.1.token :: l.2.2) hl
      simp only [List.length_cons] at hle
      omega
    have hall :=
      comparison_links links ih hsigns ihlinks (d := d)
        (by omega) hlengths hrest
    rwa [List.isEmpty_eq_false_iff.mpr hne, if_neg Bool.false_ne_true] at hall
  | negation h ih =>
    intro d rest hlength hrest
    rw [List.length_cons] at hlength
    have hall := ih d rest (by omega) hrest
    rw [Rank.reader] at hall ⊢
    rw [List.cons_append, inversion, hall]
    rfl
  | @conj xs hlength hxs ih =>
    intro d rest hle hrest
    have hlengths : ∀ y ∈ xs, y.2.length ≤ d := fun y hy =>
      Nat.le_trans (length_le_intercalate (List.mem_map_of_mem hy)) hle
    match xs, hlength with
    | _ :: _ :: _, _ => exact conjunction_intercalate _ _ ih hlengths hrest
  | @disj xs hlength hxs ih =>
    intro d rest hle hrest
    have hlengths : ∀ y ∈ xs, y.2.length ≤ d := fun y hy =>
      Nat.le_trans (length_le_intercalate (List.mem_map_of_mem hy)) hle
    match xs, hlength with
    | _ :: _ :: _, _ => exact disjunction_intercalate _ _ ih hlengths hrest
  | loosen h ih => exact ih.loosen h

/-- The tokens that a tree is written with stand for this tree. -/
theorem Writes.ofTokens?_eq (h : Writes .disj t ts) :
    Grammar.ofTokens? ts = some t := by
  have hexpr : (level (ts.length + 1)).expr ts = some (t, []) := by
    have hread : (level (ts.length + 1)).expr (ts ++ []) = some (t, []) :=
      h.expr_apply h.reads (Nat.le_refl _) (by simp)
    rwa [List.append_nil] at hread
  have hwhole : whole (level (ts.length + 1)).expr ts = some (t, []) := by
    rw [whole, bind_apply hexpr]
    rfl
  rw [Grammar.ofTokens?, hwhole]
  rfl

end AccessRules.Expression
