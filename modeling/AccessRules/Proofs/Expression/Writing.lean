import AccessRules.Proofs.Expression.Reading

/-!
# Writing trees

A tree is written as tokens with brackets wherever an operator of a looser rank
stands as the operand of a tighter one.  Further brackets may stand around any
part.

A part is followed by a token at which its rank ends: a closing bracket, a
comma, or an operator of a looser rank.  Only a bare atom may also be followed
by the opening bracket of a call.
-/

namespace AccessRules.Expression

/-! ## Ranks -/

/-- The ranks of expressions, from the loosest to the tightest. -/
inductive Rank where
  | disj
  | conj
  | neg
  | comparison
  | operand
  | atom
deriving DecidableEq, Repr

/-- The next tighter rank. -/
def Rank.next : Rank → Rank
  | disj => conj
  | conj => neg
  | neg => comparison
  | comparison => operand
  | operand => atom
  | atom => atom

/-- The tokens at which every expression ends. -/
def closers : List Token :=
  [.symbol .closeRound, .symbol .comma]

/-- The tokens at which an expression of a rank ends. -/
def Rank.ends : Rank → List Token
  | disj => closers
  | conj => .keyword .disj :: closers
  | neg | comparison => .keyword .conj :: .keyword .disj :: closers
  | operand =>
    .symbol .equal :: .symbol .unequal :: .keyword .conj ::
      .keyword .disj :: closers
  | atom =>
    .symbol .openRound :: .symbol .equal :: .symbol .unequal ::
      .keyword .conj :: .keyword .disj :: closers

/-- Whether an expression of a rank can begin with a token. -/
def Rank.beginsWith (p : Rank) : Token → Bool
  | .name _ | .constant _ | .text _ => true
  | .keyword k =>
    k ∈ [.truth, .falsity, .nothing] ∨ k = .neg ∧ p ∈ [disj, conj, neg]
  | .symbol s => s = .openRound
  | _ => false

theorem Rank.ends_subset_next (p : Rank) : p.ends ⊆ p.next.ends := by
  cases p
  all_goals decide

theorem Rank.beginsWith_of_next {p : Rank} {t : Token}
    (h : p.next.beginsWith t = true) :
    p.beginsWith t = true := by
  cases t with
  | keyword k =>
    revert h
    cases p
    all_goals
      cases k
      all_goals decide
  | _ => exact h

/-! ## Written trees -/

/-- The token of a literal. -/
def literalToken : Literal → Token
  | .nothing => .keyword .nothing
  | .truth true => .keyword .truth
  | .truth false => .keyword .falsity
  | .text s => .text s
  | v => .constant v

/-- The token of a comparison for equality. -/
def Comparator.token : Comparator → Token
  | .equal => .symbol .equal
  | .unequal => .symbol .unequal
  | _ => .symbol .stray

/-- The tokens that a tree is written with, where an expression of a rank is
expected. -/
inductive Writes : Rank → Tree → List Token → Prop
  | constant (v : Literal) : Writes .atom (.constant v) [literalToken v]
  | name (x : String) : Writes .atom (.name x) [.name x]
  | enclosed {t : Tree} {ts : List Token} (h : Writes .disj t ts) :
      Writes .atom t (.symbol .openRound :: (ts ++ [.symbol .closeRound]))
  | call {f : Tree} {ts : List Token} (args : List (Tree × List Token))
      (hf : Writes .atom f ts) (hargs : ∀ x ∈ args, Writes .disj x.1 x.2) :
      Writes .operand (.call f (args.map (·.1)) false)
        (ts ++ .symbol .openRound ::
          ([.symbol .comma].intercalate (args.map (·.2)) ++
            [.symbol .closeRound]))
  | comparison {t : Tree} {ts : List Token}
      (links : List (Comparator × Tree × List Token))
      (ht : Writes .operand t ts) (hne : links ≠ [])
      (hsigns : ∀ l ∈ links, l.1 = .equal ∨ l.1 = .unequal)
      (hlinks : ∀ l ∈ links, Writes .operand l.2.1 l.2.2) :
      Writes .comparison (.comparison t (links.map fun l => (l.1, l.2.1)))
        (ts ++ links.flatMap fun l => l.1.token :: l.2.2)
  | negation {t : Tree} {ts : List Token} (h : Writes .neg t ts) :
      Writes .neg (.negation t) (.keyword .neg :: ts)
  | conj (xs : List (Tree × List Token)) (hlength : 2 ≤ xs.length)
      (hxs : ∀ x ∈ xs, Writes .neg x.1 x.2) :
      Writes .conj (.conj (xs.map (·.1)))
        ([.keyword .conj].intercalate (xs.map (·.2)))
  | disj (xs : List (Tree × List Token)) (hlength : 2 ≤ xs.length)
      (hxs : ∀ x ∈ xs, Writes .conj x.1 x.2) :
      Writes .disj (.disj (xs.map (·.1)))
        ([.keyword .disj].intercalate (xs.map (·.2)))
  | loosen {p : Rank} {t : Tree} {ts : List Token} (h : Writes p.next t ts) :
      Writes p t ts

/-! ## Tokens of written trees -/

theorem intercalate_cons {α : Type} (s : α) (xs : List α)
    (rest : List (List α)) :
    [s].intercalate (xs :: rest) = xs ++ rest.flatMap (s :: ·) := by
  induction rest generalizing xs with
  | nil => simp
  | cons ys rest ih => simp [List.intercalate_cons_cons, ih]

theorem Writes.exists_eq_cons {p : Rank} {t : Tree} {ts : List Token}
    (h : Writes p t ts) :
    ∃ u us, ts = u :: us ∧ p.beginsWith u = true := by
  have hfirst : ∀ {q : Rank} {s : Token} {xs : List (Tree × List Token)},
      2 ≤ xs.length →
      (∀ x ∈ xs, ∃ u us, x.2 = u :: us ∧ q.next.beginsWith u = true) →
      ∃ u us, [s].intercalate (xs.map (·.2)) = u :: us ∧
        q.beginsWith u = true := by
    intro q s xs hlength hxs
    cases xs with
    | nil => cases hlength
    | cons x xs =>
      obtain ⟨u, us, hx, hu⟩ := hxs x List.mem_cons_self
      rw [List.map_cons, intercalate_cons, hx, List.cons_append]
      exact ⟨u, _, rfl, Rank.beginsWith_of_next hu⟩
  induction h with
  | constant v =>
    refine ⟨_, _, rfl, ?_⟩
    unfold literalToken
    split
    all_goals rfl
  | name x => exact ⟨_, _, rfl, rfl⟩
  | enclosed h ih => exact ⟨_, _, rfl, rfl⟩
  | call args hf hargs ih _ =>
    obtain ⟨u, us, rfl, hu⟩ := ih
    exact ⟨u, _, rfl, Rank.beginsWith_of_next hu⟩
  | comparison links ht hne hsigns hlinks ih _ =>
    obtain ⟨u, us, rfl, hu⟩ := ih
    exact ⟨u, _, rfl, Rank.beginsWith_of_next hu⟩
  | negation h ih => exact ⟨_, _, rfl, rfl⟩
  | conj xs hlength hxs ih => exact hfirst hlength ih
  | disj xs hlength hxs ih => exact hfirst hlength ih
  | loosen h ih =>
    obtain ⟨u, us, rfl, hu⟩ := ih
    exact ⟨u, us, rfl, Rank.beginsWith_of_next hu⟩

theorem forall_mem_intercalate {s : Token} {tss : List (List Token)}
    {P : Token → Prop} (hs : P s) (htss : ∀ ts ∈ tss, ∀ u ∈ ts, P u) :
    ∀ u ∈ [s].intercalate tss, P u := by
  cases tss with
  | nil => simp
  | cons ts tss =>
    obtain ⟨hts, htss⟩ := List.forall_mem_cons.mp htss
    intro u hu
    rw [intercalate_cons, List.mem_append, List.mem_flatMap] at hu
    rcases hu with hu | ⟨us, hus, hu⟩
    · exact hts u hu
    · rcases List.mem_cons.mp hu with rfl | hu
      · exact hs
      · exact htss us hus u hu

theorem forall_mem_enclosed {ts : List Token} {P : Token → Prop}
    (hopen : P (.symbol .openRound)) (hclose : P (.symbol .closeRound))
    (hts : ∀ u ∈ ts, P u) :
    ∀ u ∈ .symbol .openRound :: (ts ++ [.symbol .closeRound]), P u := by
  rw [List.forall_mem_cons, List.forall_mem_append, List.forall_mem_singleton]
  exact ⟨hopen, hts, hclose⟩

theorem forall_mem_links {links : List (Comparator × Tree × List Token)}
    {P : Token → Prop} (hsigns : ∀ l ∈ links, l.1 = .equal ∨ l.1 = .unequal)
    (hequal : P (.symbol .equal)) (hunequal : P (.symbol .unequal))
    (hlinks : ∀ l ∈ links, ∀ u ∈ l.2.2, P u) :
    ∀ u ∈ links.flatMap (fun l => l.1.token :: l.2.2), P u := by
  rw [List.forall_mem_flatMap]
  intro l hl
  refine List.forall_mem_cons.mpr ⟨?_, hlinks l hl⟩
  rcases hsigns l hl with hsign | hsign
  · rw [hsign]
    exact hequal
  · rw [hsign]
    exact hunequal

/-- Trees are written with the tokens that access expressions are made of. -/
theorem Writes.isUsed {p : Rank} {t : Tree} {ts : List Token}
    (h : Writes p t ts) :
    ∀ u ∈ ts, u.isUsed = true := by
  induction h with
  | constant v =>
    rw [List.forall_mem_singleton]
    unfold literalToken
    split
    all_goals rfl
  | name x => exact List.forall_mem_singleton.mpr rfl
  | enclosed h ih => exact forall_mem_enclosed rfl rfl ih
  | call args hf hargs ih ihargs =>
    have hlist := forall_mem_intercalate (P := fun u => u.isUsed = true)
      (s := .symbol .comma) rfl (List.forall_mem_map.mpr ihargs)
    exact List.forall_mem_append.mpr ⟨ih, forall_mem_enclosed rfl rfl hlist⟩
  | comparison links ht hne hsigns hlinks ih ihlinks =>
    exact List.forall_mem_append.mpr
      ⟨ih, forall_mem_links hsigns rfl rfl ihlinks⟩
  | negation h ih => exact List.forall_mem_cons.mpr ⟨rfl, ih⟩
  | conj xs hlength hxs ih =>
    exact forall_mem_intercalate rfl (List.forall_mem_map.mpr ih)
  | disj xs hlength hxs ih =>
    exact forall_mem_intercalate rfl (List.forall_mem_map.mpr ih)
  | loosen h ih => exact ih

/-- Tokens behind which as many brackets are open as in front of them. -/
def IsBalanced (ts : List Token) : Prop :=
  ∀ depth, ts.foldlM depthAfter depth = some depth

theorem IsBalanced.append {ts us : List Token} (hts : IsBalanced ts)
    (hus : IsBalanced us) :
    IsBalanced (ts ++ us) := by
  intro depth
  rw [List.foldlM_append, hts depth]
  exact hus depth

theorem isBalanced_flatMap {α : Type} {xs : List α} {f : α → List Token}
    (h : ∀ x ∈ xs, IsBalanced (f x)) :
    IsBalanced (xs.flatMap f) := by
  induction xs with
  | nil => exact fun _ => rfl
  | cons x xs ih =>
    obtain ⟨hx, hxs⟩ := List.forall_mem_cons.mp h
    exact hx.append (ih hxs)

theorem isBalanced_intercalate {s : Token} {tss : List (List Token)}
    (hs : IsBalanced [s]) (htss : ∀ ts ∈ tss, IsBalanced ts) :
    IsBalanced ([s].intercalate tss) := by
  cases tss with
  | nil => exact fun _ => rfl
  | cons ts tss =>
    obtain ⟨hts, htss⟩ := List.forall_mem_cons.mp htss
    rw [intercalate_cons]
    exact hts.append (isBalanced_flatMap fun us hus => hs.append (htss us hus))

theorem IsBalanced.enclosed {ts : List Token} (h : IsBalanced ts) :
    IsBalanced (Token.symbol .openRound :: (ts ++ [.symbol .closeRound])) := by
  intro depth
  change (ts ++ [Token.symbol .closeRound]).foldlM depthAfter (depth + 1) = _
  rw [List.foldlM_append, h (depth + 1)]
  rfl

/-- Every bracket of a written tree is closed. -/
theorem Writes.isBalanced {p : Rank} {t : Tree} {ts : List Token}
    (h : Writes p t ts) :
    IsBalanced ts := by
  induction h with
  | constant v =>
    unfold literalToken
    split
    all_goals exact fun _ => rfl
  | name x => exact fun _ => rfl
  | enclosed h ih => exact ih.enclosed
  | call args hf hargs ih ihargs =>
    have hlist :=
      isBalanced_intercalate (s := Token.symbol .comma) (fun _ => rfl)
      (List.forall_mem_map.mpr ihargs)
    exact ih.append hlist.enclosed
  | comparison links ht hne hsigns hlinks ih ihlinks =>
    refine ih.append (isBalanced_flatMap fun l hl => ?_)
    have hsign : IsBalanced [l.1.token] := by
      rcases hsigns l hl with hsign | hsign
      all_goals
        rw [hsign]
        exact fun _ => rfl
    exact hsign.append (ihlinks l hl)
  | negation h ih =>
    have hsign : IsBalanced [.keyword .neg] := fun _ => rfl
    exact hsign.append ih
  | conj xs hlength hxs ih =>
    exact isBalanced_intercalate (fun _ => rfl) (List.forall_mem_map.mpr ih)
  | disj xs hlength hxs ih =>
    exact isBalanced_intercalate (fun _ => rfl) (List.forall_mem_map.mpr ih)
  | loosen h ih => exact ih

end AccessRules.Expression
