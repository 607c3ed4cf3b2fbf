import AccessRules.Expression.Grammar
import AccessRules.Proofs.Expression.Spelling

/-!
# Reading tokens

What each reader of the grammar does on the tokens of an access expression.
Readers that take items one after the other stop at the first token that cannot
begin another item.
-/

namespace AccessRules.Expression

/-! ## Readers -/

namespace Reader

variable {α β : Type} {ts us rest : List Token} {t : Token}

theorem bind_apply {x : Reader α} {f : α → Reader β} {a : α}
    (h : x ts = some (a, us)) :
    (x >>= f) ts = f a us := by
  change ((x ts).bind fun r => f r.1 r.2) = _
  rw [h]
  rfl

theorem next?_apply (ts : List Token) : next? ts = some (ts.head?, ts) := rfl

theorem accept_apply (t : Token) (ts : List Token) :
    accept t (t :: ts) = some (true, ts) := by
  rw [accept, if_pos rfl]

theorem accept_apply_of_ne (h : ts.head? ≠ some t) :
    accept t ts = some (false, ts) := by
  cases ts with
  | nil => rfl
  | cons u us =>
    have hu : u ≠ t := by
      rintro rfl
      exact h rfl
    rw [accept, if_neg hu]

theorem expect_apply (t : Token) (ts : List Token) :
    expect t (t :: ts) = some ((), ts) := by
  rw [expect, if_pos rfl]

/-- Items that a reader takes from the front of the tokens, until it takes
none. -/
inductive ReadsAll (item : Reader (Option α)) :
    List α → List Token → List Token → Prop
  | done {ts : List Token} (h : item ts = some (none, ts)) :
      ReadsAll item [] ts ts
  | more {ts us rest : List Token} {a : α} {as : List α}
      (h : item ts = some (some a, us)) (hlength : us.length < ts.length)
      (hmore : ReadsAll item as us rest) :
      ReadsAll item (a :: as) ts rest

theorem ReadsAll.repeatedAtMost_apply {item : Reader (Option α)} {as : List α}
    (h : ReadsAll item as ts rest) {limit : Nat} (hlimit : ts.length ≤ limit) :
    repeatedAtMost item limit ts = some (as, rest) := by
  induction h generalizing limit with
  | done h =>
    cases limit with
    | zero => rfl
    | succ limit =>
      rw [repeatedAtMost, bind_apply h]
      rfl
  | @more ts us rest a as h hlength hmore ih =>
    cases limit with
    | zero => omega
    | succ limit =>
      have hrest : repeatedAtMost item limit us = some (as, rest) :=
        ih (by omega)
      rw [repeatedAtMost, bind_apply h]
      simp only
      rw [bind_apply hrest]
      rfl

theorem ReadsAll.repeated_apply {item : Reader (Option α)} {as : List α}
    (h : ReadsAll item as ts rest) :
    repeated item ts = some (as, rest) :=
  h.repeatedAtMost_apply (Nat.le_refl _)

theorem after_apply {item : Reader α} {a : α} (h : item ts = some (a, us)) :
    after t item (t :: ts) = some (some a, us) := by
  rw [after, bind_apply (accept_apply t ts)]
  simp only [↓reduceIte]
  rw [bind_apply h]
  rfl

theorem after_apply_of_ne {item : Reader α} (h : ts.head? ≠ some t) :
    after t item ts = some (none, ts) := by
  rw [after, bind_apply (accept_apply_of_ne h)]
  rfl

theorem separated_apply {item : Reader α} {a : α} {as : List α}
    (h : item ts = some (a, us)) (hmore : ReadsAll (after t item) as us rest) :
    separated t item ts = some ((a, as), rest) := by
  rw [separated, bind_apply h, bind_apply hmore.repeated_apply]
  rfl

theorem forall_mem_head?_cons {u : Token} {ends : List Token} (hu : u ∈ ends)
    (rest : List Token) :
    ∀ v ∈ (u :: rest).head?, v ∈ ends := by
  intro v hv
  obtain rfl := Option.some.inj hv
  exact hu

/-- What follows an item is the beginning of the next one, or the rest behind
all items. -/
theorem forall_mem_head?_flatMap {xs : List α} {f : α → List Token}
    {ends : List Token} (hf : ∀ x ∈ xs, ∃ u us, f x = u :: us ∧ u ∈ ends)
    (hrest : ∀ u ∈ rest.head?, u ∈ ends) :
    ∀ u ∈ (xs.flatMap f ++ rest).head?, u ∈ ends := by
  cases xs with
  | nil => exact hrest
  | cons x xs =>
    obtain ⟨u, us, hx, hu⟩ := hf x List.mem_cons_self
    rw [List.flatMap_cons, hx]
    exact forall_mem_head?_cons hu _

/-- Items are taken one after the other if each of them ends where the next one
or the rest begins. -/
theorem readsAll_of_forall (item : Reader (Option α))
    (items : List (α × List Token)) {ends : List Token}
    (hrest : ∀ u ∈ rest.head?, u ∈ ends)
    (hitems : ∀ x ∈ items, (∃ u us, x.2 = u :: us ∧ u ∈ ends) ∧
      ∀ more : List Token, (∀ u ∈ more.head?, u ∈ ends) →
        item (x.2 ++ more) = some (some x.1, more))
    (hdone : item rest = some (none, rest)) :
    ReadsAll item (items.map (·.1)) (items.flatMap (·.2) ++ rest) rest := by
  induction items with
  | nil => exact .done hdone
  | cons x items ih =>
    obtain ⟨⟨⟨u, us, hx, -⟩, hread⟩, hitems⟩ := List.forall_mem_cons.mp hitems
    have hmore := forall_mem_head?_flatMap (fun y hy => (hitems y hy).1) hrest
    rw [List.map_cons, List.flatMap_cons, List.append_assoc]
    have hlength : 0 < x.2.length := by
      rw [hx]
      exact Nat.succ_pos _
    refine .more (hread _ hmore) ?_ (ih hitems)
    simp only [List.length_append]
    omega

end Reader

end AccessRules.Expression
