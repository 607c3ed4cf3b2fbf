import AccessRules.Proofs.Expression.Recovery
import AccessRules.Proofs.Expression.Spacing
import AccessRules.Proofs.Expression.Whitelist

/-!
# Printing trees

A tree is printed with brackets only around operands whose operator is too loose
for their place.  Compiling the printed text gives the tree back.  The same
holds with more blanks, and with further brackets around any part.
-/

namespace AccessRules.Expression

/-! ## Printable trees -/

/-- Whether a literal is written as it is: a reserved word, a whole number that
is not too long, or a text. -/
def isPlainLiteral : Literal → Bool
  | .nothing | .truth _ | .text _ => true
  | .integer n => (Nat.toDigits 10 n).length ≤ Text.mostDigits
  | _ => false

theorem isWritable_literalToken {v : Literal} (hv : isPlainLiteral v = true) :
    (literalToken v).isWritable = true := by
  cases v with
  | integer n => exact hv
  | nothing | text s => rfl
  | truth b =>
    cases b
    all_goals rfl
  | decimal | imaginary | bytes | ellipsis | foreign => cases hv

/-- The trees that are printed.  Operators have as many operands as they need,
and names are plain. -/
inductive Tree.Printable : Tree → Prop
  | constant {v : Literal} (hv : isPlainLiteral v = true) :
      Printable (.constant v)
  | name {s : String} (hs : isPlainName s = true) : Printable (.name s)
  | conj {xs : List Tree} (hlength : 2 ≤ xs.length)
      (hxs : ∀ x ∈ xs, Printable x) :
      Printable (.conj xs)
  | disj {xs : List Tree} (hlength : 2 ≤ xs.length)
      (hxs : ∀ x ∈ xs, Printable x) :
      Printable (.disj xs)
  | negation {x : Tree} (hx : Printable x) : Printable (.negation x)
  | comparison {x : Tree} {links : List (Comparator × Tree)} (hx : Printable x)
      (hne : links ≠ []) (hsigns : ∀ l ∈ links, l.1 = .equal ∨ l.1 = .unequal)
      (hlinks : ∀ l ∈ links, Printable l.2) :
      Printable (.comparison x links)
  | call {f : String} {args : List Tree} (hf : isPlainName f = true)
      (hargs : ∀ x ∈ args, ∃ v, isPlainLiteral v = true ∧ x = .constant v) :
      Printable (.call (.name f) args false)

theorem Tree.Printable.grammatical {t : Tree} (h : t.Printable) :
    t.Grammatical := by
  induction h with
  | constant hv => exact .constant _
  | name hs => exact .name _
  | conj hlength hxs ih => exact .conj ih
  | disj hlength hxs ih => exact .disj ih
  | negation hx ih => exact .negation ih
  | comparison hx hne hsigns hlinks ih ihlinks =>
    exact .comparison ih hsigns ihlinks
  | @call f args hf hargs =>
    obtain ⟨vs, rfl⟩ : ∃ vs : List Literal, args = vs.map .constant := by
      induction args with
      | nil => exact ⟨[], rfl⟩
      | cons x args ih =>
        obtain ⟨⟨v, -, rfl⟩, hmore⟩ := List.forall_mem_cons.mp hargs
        obtain ⟨vs, rfl⟩ := ih hmore
        exact ⟨v :: vs, rfl⟩
    exact .call f vs

/-- The tokens of a printable tree can be written as they are. -/
theorem Writes.isWritable {p : Rank} {t : Tree} {ts : List Token}
    (h : Writes p t ts) (ht : t.Printable) :
    ∀ u ∈ ts, u.isWritable = true := by
  induction h with
  | constant v =>
    cases ht with
    | constant hv =>
      exact List.forall_mem_singleton.mpr (isWritable_literalToken hv)
  | name x =>
    cases ht with
    | name hs => exact List.forall_mem_singleton.mpr hs
  | enclosed h ih => exact forall_mem_enclosed rfl rfl (ih ht)
  | @call f ts args hf hargs ih ihargs =>
    cases ht with
    | call hname hliterals =>
      have hall : ∀ x ∈ args, ∀ u ∈ x.2, u.isWritable = true := by
        intro x hx
        obtain ⟨v, hv, hxv⟩ := hliterals x.1 (List.mem_map_of_mem hx)
        refine ihargs x hx ?_
        rw [hxv]
        exact .constant hv
      have hlist := forall_mem_intercalate (P := fun u => u.isWritable = true)
        (s := .symbol .comma) rfl (List.forall_mem_map.mpr hall)
      exact List.forall_mem_append.mpr
        ⟨ih (.name hname), forall_mem_enclosed rfl rfl hlist⟩
  | comparison links hw hne hsigns hlinks ih ihlinks =>
    cases ht with
    | comparison hx hne' hsigns' htrees =>
      have hall :=
        forall_mem_links (P := fun u => u.isWritable = true) hsigns rfl rfl
        fun l hl => ihlinks l hl (htrees _ (List.mem_map_of_mem hl))
      exact List.forall_mem_append.mpr ⟨ih hx, hall⟩
  | negation h ih =>
    cases ht with
    | negation hx => exact List.forall_mem_cons.mpr ⟨rfl, ih hx⟩
  | conj xs hlength hxs ih =>
    cases ht with
    | conj hlength' htrees =>
      refine forall_mem_intercalate rfl (List.forall_mem_map.mpr ?_)
      exact fun x hx => ih x hx (htrees _ (List.mem_map_of_mem hx))
  | disj xs hlength hxs ih =>
    cases ht with
    | disj hlength' htrees =>
      refine forall_mem_intercalate rfl (List.forall_mem_map.mpr ?_)
      exact fun x hx => ih x hx (htrees _ (List.mem_map_of_mem hx))
  | loosen h ih => exact ih ht

/-! ## Compiling written texts -/

/-- A text that is written from the tokens of a printable tree is an expression
with this tree. -/
theorem Writes.parses {t : Tree} {ts : List Token} {cs : List Char}
    (h : Writes .disj t ts) (hcs : Spaced ts cs) (ht : t.Printable) :
    Parses (String.ofList cs) t := by
  have hts := h.isWritable ht
  have hstrip : Text.strip (String.ofList cs).toList = cs := by
    rw [String.toList_ofList, strip_of_spaced hcs hts]
  have htokens : tokens cs = some ts :=
    tokens_of_spaced hcs hts (h.isBalanced 0)
  have hfields : fieldTexts ts = [] := by
    rw [fieldTexts, List.flatMap_eq_nil_iff]
    intro u hu
    have hused := hts u hu
    cases u with
    | formatted fields => cases hused
    | _ => rfl
  have hread : read? cs = some t := by
    rw [read?, readNested, htokens]
    simp [h.ofTokens?_eq, hfields]
  refine ⟨?_, by rw [hstrip, hread]⟩
  rw [hstrip]
  intro hnull
  cases isHidden_eq_false_of_spaced hcs hts hnull

theorem Writes.compile_eq {t : Tree} {ts : List Token} {cs : List Char}
    (h : Writes .disj t ts) (hcs : Spaced ts cs) (ht : t.Printable) :
    compile (some (String.ofList cs)) = .ok t := by
  have hnone := Tree.firstOffence?_eq_none_iff.mpr ht.grammatical
  rw [(h.parses hcs ht).compile_eq, hnone]

/-! ## Tokens of printed trees -/

/-- Where an operator of a rank stands among all operators, from the loosest
on. -/
def Rank.level : Rank → Nat
  | disj => 0
  | conj => 1
  | neg => 2
  | comparison => 3
  | operand => 4
  | atom => 5

/-- Tokens of an expression of rank `q` where rank `p` is expected, with
brackets around them if need be. -/
def enclose (q p : Rank) (ts : List Token) : List Token :=
  if p.level ≤ q.level then ts
  else .symbol .openRound :: (ts ++ [.symbol .closeRound])

mutual

/-- The tokens that a tree is printed with where an expression of a rank is
expected. -/
def Tree.tokensAt (p : Rank) : Tree → List Token
  | .constant v => [literalToken v]
  | .name s => [.name s]
  | .disj xs =>
    enclose .disj p ([.keyword .disj].intercalate (tokensOfAll .conj xs))
  | .conj xs =>
    enclose .conj p ([.keyword .conj].intercalate (tokensOfAll .neg xs))
  | .negation x => enclose .neg p (.keyword .neg :: tokensAt .neg x)
  | .comparison x links =>
    enclose .comparison p (tokensAt .operand x ++ tokensOfLinks links)
  | .call f args _ =>
    enclose .operand p (tokensAt .atom f ++ .symbol .openRound ::
      ([.symbol .comma].intercalate (tokensOfAll .disj args) ++
        [.symbol .closeRound]))
  | .signed _ | .unsupported _ => [.symbol .stray]

/-- The tokens of each of several trees. -/
def Tree.tokensOfAll (p : Rank) : List Tree → List (List Token)
  | [] => []
  | x :: xs => tokensAt p x :: tokensOfAll p xs

/-- The tokens of the links of a chain of comparisons. -/
def Tree.tokensOfLinks : List (Comparator × Tree) → List Token
  | [] => []
  | (c, x) :: links => c.token :: (tokensAt .operand x ++ tokensOfLinks links)

end

theorem Tree.tokensOfAll_eq_map (p : Rank) (xs : List Tree) :
    tokensOfAll p xs = xs.map (tokensAt p) := by
  induction xs with
  | nil => rfl
  | cons x xs ih => rw [tokensOfAll, ih, List.map_cons]

theorem Tree.tokensOfLinks_eq_flatMap (links : List (Comparator × Tree)) :
    tokensOfLinks links = links.flatMap fun l =>
      l.1.token :: tokensAt .operand l.2 := by
  induction links with
  | nil => rfl
  | cons l links ih =>
    rw [tokensOfLinks, ih, List.flatMap_cons, List.cons_append]

theorem Rank.level_next {p q : Rank} (hle : p.level ≤ q.level) (hne : p ≠ q) :
    p.next.level = p.level + 1 ∧ p.next.level ≤ q.level := by
  revert hle hne
  cases p
  all_goals
    cases q
    all_goals decide

/-- An expression also stands where a looser rank is expected. -/
theorem Writes.loosen_of_le {p q : Rank} {t : Tree} {ts : List Token}
    (h : Writes q t ts) (hle : p.level ≤ q.level) :
    Writes p t ts := by
  induction hn : q.level - p.level generalizing p with
  | zero =>
    by_cases heq : p = q
    · rwa [heq]
    · have hnext := Rank.level_next hle heq
      omega
  | succ n ih =>
    by_cases heq : p = q
    · rwa [heq]
    · have hnext := Rank.level_next hle heq
      exact .loosen (ih hnext.2 (by omega))

theorem Rank.level_le_atom (p : Rank) : p.level ≤ Rank.atom.level := by
  cases p
  all_goals decide

theorem Writes.writes_enclose {p q : Rank} {t : Tree} {ts : List Token}
    (h : Writes q t ts) :
    Writes p t (enclose q p ts) := by
  rw [enclose]
  split
  · rename_i hle
    exact h.loosen_of_le hle
  · have hdisj : Writes .disj t ts := h.loosen_of_le (Nat.zero_le _)
    exact (Writes.enclosed hdisj).loosen_of_le p.level_le_atom

/-- A printable tree is written with the tokens that it is printed with. -/
theorem Tree.Printable.writes_tokensAt {t : Tree} (h : t.Printable) (p : Rank) :
    Writes p t (t.tokensAt p) := by
  induction h generalizing p with
  | constant hv => exact (Writes.constant _).loosen_of_le p.level_le_atom
  | name hs => exact (Writes.name _).loosen_of_le p.level_le_atom
  | @conj xs hlength hxs ih =>
    have hw := Writes.conj (xs.map fun x => (x, x.tokensAt .neg))
      (by rwa [List.length_map]) (List.forall_mem_map.mpr fun x hx =>
        ih x hx .neg)
    simp only [List.map_map, Function.comp_def, List.map_id'] at hw
    rw [tokensAt, tokensOfAll_eq_map]
    exact hw.writes_enclose
  | @disj xs hlength hxs ih =>
    have hw := Writes.disj (xs.map fun x => (x, x.tokensAt .conj))
      (by rwa [List.length_map]) (List.forall_mem_map.mpr fun x hx =>
        ih x hx .conj)
    simp only [List.map_map, Function.comp_def, List.map_id'] at hw
    rw [tokensAt, tokensOfAll_eq_map]
    exact hw.writes_enclose
  | negation hx ih =>
    rw [tokensAt]
    exact (Writes.negation (ih .neg)).writes_enclose
  | @comparison x links hx hne hsigns hlinks ih ihlinks =>
    have hw :=
      Writes.comparison (links.map fun l => (l.1, l.2, l.2.tokensAt .operand))
      (ih .operand) (by simpa using hne) (List.forall_mem_map.mpr hsigns)
      (List.forall_mem_map.mpr fun l hl => ihlinks l hl .operand)
    simp only [List.map_map, List.flatMap_map, Function.comp_def,
      List.map_id'] at hw
    rw [tokensAt, tokensOfLinks_eq_flatMap]
    exact hw.writes_enclose
  | @call f args hf hargs =>
    have hw :=
      Writes.call (args.map fun x => (x, x.tokensAt .disj)) (.name f) ?_
    · simp only [List.map_map, Function.comp_def, List.map_id'] at hw
      rw [tokensAt, tokensAt, tokensOfAll_eq_map]
      exact hw.writes_enclose
    · refine List.forall_mem_map.mpr fun x hx => ?_
      obtain ⟨v, -, rfl⟩ := hargs x hx
      exact (Writes.constant v).loosen_of_le (Nat.zero_le _)

/-! ## The fewest brackets -/

theorem enclose_self (p : Rank) (ts : List Token) : enclose p p ts = ts := by
  rw [enclose, if_pos (Nat.le_refl _)]

theorem length_enclose_mono {p p' q : Rank} (h : p.level ≤ p'.level)
    (ts : List Token) :
    (enclose q p ts).length ≤ (enclose q p' ts).length := by
  rw [enclose, enclose]
  split
  · split
    · exact Nat.le_refl _
    · simp only [List.length_cons, List.length_append]
      omega
  · rw [if_neg (by omega)]

theorem length_enclose_le (p p' q : Rank) (ts : List Token) :
    (enclose q p ts).length ≤ (enclose q p' ts).length + 2 := by
  have hp : (enclose q p ts).length ≤ ts.length + 2 := by
    rw [enclose]
    split
    · omega
    · simp
  have hp' : ts.length ≤ (enclose q p' ts).length := by
    rw [enclose]
    split
    · exact Nat.le_refl _
    · simp only [List.length_cons, List.length_append]
      omega
  omega

theorem Tree.length_tokensAt_mono {p p' : Rank} (h : p.level ≤ p'.level)
    (t : Tree) :
    (t.tokensAt p).length ≤ (t.tokensAt p').length := by
  cases t with
  | constant | name | signed | unsupported => exact Nat.le_refl _
  | conj | disj | negation | comparison | call => exact length_enclose_mono h _

theorem Tree.length_tokensAt_le_add_two (p p' : Rank) (t : Tree) :
    (t.tokensAt p).length ≤ (t.tokensAt p').length + 2 := by
  cases t with
  | constant | name | signed | unsupported => exact Nat.le_add_right _ 2
  | conj | disj | negation | comparison | call =>
    exact length_enclose_le p p' _ _

theorem length_flatMap_le_length_flatMap {α : Type} (xs : List α)
    {f g : α → List Token} (h : ∀ x ∈ xs, (f x).length ≤ (g x).length) :
    (xs.flatMap f).length ≤ (xs.flatMap g).length := by
  induction xs with
  | nil => exact Nat.le_refl 0
  | cons x xs ih =>
    obtain ⟨hx, hxs⟩ := List.forall_mem_cons.mp h
    have hle := ih hxs
    rw [List.flatMap_cons, List.flatMap_cons, List.length_append,
      List.length_append]
    omega

theorem length_intercalate_tokensAt_le {p : Rank} {s : Token}
    {xs : List (Tree × List Token)}
    (h : ∀ x ∈ xs, (x.1.tokensAt p).length ≤ x.2.length) :
    ([s].intercalate (Tree.tokensOfAll p (xs.map (·.1)))).length ≤
      ([s].intercalate (xs.map (·.2))).length := by
  rw [Tree.tokensOfAll_eq_map]
  cases xs with
  | nil => exact Nat.le_refl 0
  | cons x xs =>
    obtain ⟨hx, hxs⟩ := List.forall_mem_cons.mp h
    have hle := length_flatMap_le_length_flatMap xs
      (f := fun y => s :: y.1.tokensAt p) (g := fun y => s :: y.2)
      fun y hy => Nat.succ_le_succ (hxs y hy)
    simp only [List.map_cons, List.map_map, intercalate_cons, List.flatMap_map,
      List.length_append, Function.comp_apply]
    omega

/-- No way of writing a tree takes fewer tokens, and so fewer brackets, than the
printed one. -/
theorem Writes.length_tokensAt_le {p : Rank} {t : Tree} {ts : List Token}
    (h : Writes p t ts) :
    (t.tokensAt p).length ≤ ts.length := by
  induction h with
  | constant v => exact Nat.le_refl _
  | name x => exact Nat.le_refl _
  | @enclosed t ts h ih =>
    have hle := t.length_tokensAt_le_add_two .atom .disj
    simp only [List.length_cons, List.length_append, List.length_nil]
    omega
  | call args hf hargs ih ihargs =>
    have hle := length_intercalate_tokensAt_le (s := .symbol .comma) ihargs
    rw [Tree.tokensAt, enclose_self]
    simp only [List.length_cons, List.length_append]
    omega
  | comparison links ht hne hsigns hlinks ih ihlinks =>
    rw [Tree.tokensAt, enclose_self, Tree.tokensOfLinks_eq_flatMap]
    have hle := length_flatMap_le_length_flatMap links
      (f := fun l => l.1.token :: l.2.1.tokensAt .operand)
      (g := fun l => l.1.token :: l.2.2) fun l hl =>
        Nat.succ_le_succ (ihlinks l hl)
    simp only [List.flatMap_map, List.length_append]
    omega
  | negation h ih =>
    rw [Tree.tokensAt, enclose_self]
    simp only [List.length_cons]
    omega
  | conj xs hlength hxs ih => exact length_intercalate_tokensAt_le ih
  | disj xs hlength hxs ih => exact length_intercalate_tokensAt_le ih
  | @loosen p t ts h ih =>
    refine Nat.le_trans (t.length_tokensAt_mono ?_) ih
    cases p
    all_goals decide

/-! ## Printed texts -/

/-- The number of blanks between two printed tokens: none inside a bracket,
before a comma and between a call and its bracket. -/
def gap (t u : Token) : Nat :=
  match t, u with
  | .symbol .openRound, _ | _, .symbol .closeRound | _, .symbol .comma
  | .name _, .symbol .openRound => 0
  | _, _ => 1

/-- The text of printed tokens. -/
def layout : List Token → List Char
  | [] => []
  | [t] => t.spelling
  | t :: u :: ts =>
    t.spelling ++ (List.replicate (gap t u) ' ' ++ layout (u :: ts))

/-- The printed text of a tree. -/
def Tree.print (t : Tree) : String :=
  String.ofList (layout (t.tokensAt .disj))

theorem spaced_layout {ts : List Token} (h : ts ≠ []) :
    Spaced ts (layout ts) := by
  induction ts with
  | nil => exact absurd rfl h
  | cons t ts ih =>
    cases ts with
    | nil => exact .last t
    | cons u ts =>
      refine .next (gap t u) ?_ (ih (List.cons_ne_nil u ts))
      rw [gap.eq_def]
      split
      · exact Or.inr (Or.inl rfl)
      · exact Or.inr (Or.inr rfl)
      · exact Or.inr (Or.inr rfl)
      · exact Or.inr (Or.inr rfl)
      · exact Or.inl Nat.one_pos

theorem Tree.Printable.spaced_print {t : Tree} (h : t.Printable) :
    Spaced (t.tokensAt .disj) (layout (t.tokensAt .disj)) := by
  apply spaced_layout
  obtain ⟨u, us, heq, -⟩ := (h.writes_tokensAt .disj).exists_eq_cons
  rw [heq]
  exact List.cons_ne_nil u us

/-- Compiling undoes printing, and any way of writing a tree with more blanks
and brackets.

The texts in a tree consist of characters, so there are no surrogates in them;
see `characterOf`. -/
theorem compile_print {t : Tree} (h : t.Printable) :
    compile (some t.print) = .ok t ∧
      ∀ ts cs, Writes .disj t ts → Spaced ts cs →
        compile (some (String.ofList cs)) = .ok t := by
  refine ⟨?_, ?_⟩
  · exact (h.writes_tokensAt .disj).compile_eq h.spaced_print h
  · intro ts cs hts hcs
    exact hts.compile_eq hcs h

/-- All ranks in one text, whose printed form has the brackets that it needs,
and then one more pair around it. -/
theorem compile_print_mixed :
    let call :=
      Tree.call (.name "hasAuthority") [.constant (.text "it's a \\")] false
    let t :=
      Tree.disj
        [.conj
          [.negation (.comparison call [(.equal, .constant (.truth true))]),
            .disj [.name "a", .name "b"]],
        .comparison (.negation (.name "c"))
          [(.unequal, .constant (.integer 70)),
            (.equal, .comparison (.name "d") [(.equal, .constant .nothing)])]]
    let ts := .symbol .openRound :: (t.tokensAt .disj ++ [.symbol .closeRound])
    t.Printable ∧
      t.print = "not hasAuthority('it\\'s a \\\\') == True and (a or b) or " ++
        "(not c) != 70 == (d == None)" ∧
      compile (some t.print) = .ok t ∧ Writes .disj t ts ∧
      Spaced ts (layout ts) ∧
      compile (some (String.ofList (layout ts))) = .ok t := by
  intro call t ts
  have hcall : call.Printable := by
    refine .call (by decide +kernel)
      (List.forall_mem_singleton.mpr ⟨_, rfl, rfl⟩)
  have hname : ∀ s ∈ ["a", "b", "c", "d"], (Tree.name s).Printable := by
    intro s hs
    have hall : ∀ s ∈ ["a", "b", "c", "d"], isPlainName s = true := by
      decide +kernel
    exact .name (hall s hs)
  have hliteral : ∀ v ∈ [Literal.truth true, .integer 70, .nothing],
      (Tree.constant v).Printable := by
    intro v hv
    have hall : ∀ v ∈ [Literal.truth true, .integer 70, .nothing],
        isPlainLiteral v = true := by
      decide +kernel
    exact .constant (hall v hv)
  have hinner :
      (Tree.comparison (.name "d") [(.equal, .constant .nothing)]).Printable :=
    .comparison (hname _ (by simp)) (by simp) (by simp) (by simp [hliteral])
  have hlinks :
      (Tree.comparison (.negation (.name "c"))
        [(.unequal, .constant (.integer 70)), (.equal, .comparison (.name "d")
          [(.equal, .constant .nothing)])]).Printable :=
    .comparison (.negation (hname _ (by simp))) (by simp) (by simp)
      (by simp [hliteral, hinner])
  have hconj :
      (Tree.conj
        [.negation (.comparison call [(.equal, .constant (.truth true))]),
          .disj [.name "a", .name "b"]]).Printable := by
    have hnegation : (Tree.negation
        (.comparison call [(.equal, .constant (.truth true))])).Printable :=
      .negation (.comparison hcall (by simp) (by simp) (by simp [hliteral]))
    have hdisj : (Tree.disj [.name "a", .name "b"]).Printable :=
      .disj (by decide) (by simp [hname])
    exact .conj (by decide) (by simp [hnegation, hdisj])
  have ht : t.Printable := .disj (by decide) (by simp [hconj, hlinks])
  have hts : Writes .disj t ts :=
    (Writes.enclosed (ht.writes_tokensAt .disj)).loosen_of_le (Nat.zero_le _)
  have hspaced : Spaced ts (layout ts) := spaced_layout (List.cons_ne_nil _ _)
  exact ⟨ht, by decide +kernel, (compile_print ht).1, hts, hspaced,
    (compile_print ht).2 ts (layout ts) hts hspaced⟩

end AccessRules.Expression
