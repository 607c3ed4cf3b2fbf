import Mathlib.Data.List.Basic
import Mathlib.Tactic.ByContra

/-!
# Outcomes of steps

A computation in steps fails with the first step that fails, and gives a value
only if all its steps do.  The lemmas of this module take such a computation
apart into its steps, and a list at the first member that ends a search.

Two computations agree if they give the same value, or fail with errors that are
taken for the same; then so do the computations that go on from them in the same
way.
-/

namespace AccessRules.Outcome

variable {ε α β : Type} {x : Except ε α} {e : ε}

theorem bind_eq_ok_iff {next : α → Except ε β} {b : β} :
    x >>= next = .ok b ↔ ∃ a, x = .ok a ∧ next a = .ok b := by
  cases x with
  | error e => simp [bind, Except.bind]
  | ok a => simp [bind, Except.bind]

theorem bind_eq_error_iff {next : α → Except ε β} :
    x >>= next = .error e ↔
      x = .error e ∨ ∃ a, x = .ok a ∧ next a = .error e := by
  cases x with
  | error f => simp [bind, Except.bind]
  | ok a => simp [bind, Except.bind]

theorem map_eq_ok_iff {f : α → β} {b : β} :
    x.map f = .ok b ↔ ∃ a, x = .ok a ∧ f a = b := by
  cases x with
  | error e => simp [Except.map]
  | ok a => simp [Except.map]

theorem map_eq_error_iff {f : α → β} :
    x.map f = .error e ↔ x = .error e := by
  cases x with
  | error e => simp [Except.map]
  | ok a => simp [Except.map]

theorem mapError_eq_error_iff {f : ε → β} {e : β} :
    x.mapError f = .error e ↔ ∃ e', x = .error e' ∧ f e' = e := by
  cases x with
  | error e => simp [Except.mapError]
  | ok a => simp [Except.mapError]

theorem mapError_eq_ok_iff {f : ε → β} {a : α} :
    x.mapError f = .ok a ↔ x = .ok a := by
  cases x with
  | error e => simp [Except.mapError]
  | ok a => simp [Except.mapError]

/-- A check of all members of a list succeeds if it succeeds for each of
them. -/
theorem forM_eq_ok_iff {xs : List α} {check : α → Except ε Unit} :
    xs.forM check = .ok () ↔ ∀ a ∈ xs, check a = .ok () := by
  induction xs with
  | nil => simp [List.forM, pure, Except.pure]
  | cons a xs ih =>
    change (check a >>= fun _ => xs.forM check) = .ok () ↔ _
    rw [bind_eq_ok_iff, List.forall_mem_cons, ih]
    constructor
    · rintro ⟨⟨⟩, ha, hxs⟩
      exact ⟨ha, hxs⟩
    · rintro ⟨ha, hxs⟩
      exact ⟨(), ha, hxs⟩

/-- A check of all members of a list fails with one of them. -/
theorem exists_of_forM_eq_error {xs : List α} {check : α → Except ε Unit}
    (h : xs.forM check = .error e) :
    ∃ a ∈ xs, check a = .error e := by
  induction xs with
  | nil => cases h
  | cons a xs ih =>
    rcases bind_eq_error_iff.mp h with ha | ⟨⟨⟩, -, hxs⟩
    · exact ⟨a, List.mem_cons_self, ha⟩
    · obtain ⟨b, hb, hcheck⟩ := ih hxs
      exact ⟨b, List.mem_cons_of_mem a hb, hcheck⟩

theorem forM_filter_cons (p : α → Bool) (check : α → Except ε Unit) (a : α)
    (as : List α) :
    ((a :: as).filter p).forM check =
      (do
        if p a then check a else .ok ()
        (as.filter p).forM check) := by
  cases hp : p a with
  | true =>
    rw [List.filter_cons_of_pos hp]
    rfl
  | false =>
    rw [List.filter_cons_of_neg (by simp [hp])]
    rfl

/-- It does not matter whether members that pass a check are checked. -/
theorem forM_filter_congr {xs : List α} {check : α → Except ε Unit}
    {p q : α → Bool} (h : ∀ a ∈ xs, p a = q a ∨ check a = .ok ()) :
    (xs.filter p).forM check = (xs.filter q).forM check := by
  induction xs with
  | nil => rfl
  | cons a xs ih =>
    rw [List.forall_mem_cons] at h
    rw [forM_filter_cons, forM_filter_cons, ih h.2]
    rcases h.1 with hpq | ha
    · rw [hpq]
    · simp only [ha, ite_self]

/-- What a step has made of the members of a list was made of one of them. -/
theorem exists_of_mem_mapM {f : α → Except ε β} {xs : List α} {ys : List β}
    (h : xs.mapM f = .ok ys) {b : β} (hb : b ∈ ys) :
    ∃ a ∈ xs, f a = .ok b := by
  induction xs generalizing ys with
  | nil =>
    cases h
    cases hb
  | cons a xs ih =>
    rw [List.mapM_cons] at h
    obtain ⟨b', ha, h⟩ := bind_eq_ok_iff.mp h
    obtain ⟨bs, hxs, h⟩ := bind_eq_ok_iff.mp h
    cases h
    rcases List.mem_cons.mp hb with rfl | hb
    · exact ⟨a, List.mem_cons_self, ha⟩
    · obtain ⟨a', ha', hfa'⟩ := ih hxs hb
      exact ⟨a', List.mem_cons_of_mem a ha', hfa'⟩

/-- What is made of two neighbouring members of a list changes places with
them. -/
theorem mapM_exchanged {f : α → Except ε β} {before after : List α} {x y : α}
    {zs : List β} {a b : β}
    (h : (before ++ x :: y :: after).mapM f = .ok zs) (hx : f x = .ok a)
    (hy : f y = .ok b) :
    ∃ front back, zs = front ++ a :: b :: back ∧
      (before ++ y :: x :: after).mapM f = .ok (front ++ b :: a :: back) := by
  rw [List.mapM_append] at h ⊢
  obtain ⟨front, hfront, h⟩ := bind_eq_ok_iff.mp h
  obtain ⟨rest, hrest, h⟩ := bind_eq_ok_iff.mp h
  rw [List.mapM_cons, List.mapM_cons] at hrest
  obtain ⟨a', ha, hrest⟩ := bind_eq_ok_iff.mp hrest
  obtain ⟨more, hmore, hrest⟩ := bind_eq_ok_iff.mp hrest
  obtain ⟨b', hb, hmore⟩ := bind_eq_ok_iff.mp hmore
  obtain ⟨back, hback, hmore⟩ := bind_eq_ok_iff.mp hmore
  cases hx.symm.trans ha
  cases hy.symm.trans hb
  cases hmore
  cases hrest
  cases h
  refine ⟨front, back, rfl, ?_⟩
  rw [hfront, List.mapM_cons, hy, List.mapM_cons, hx, hback]
  rfl

/-! ## Outcomes that agree -/

/-- Outcomes with the same value, or with errors that a relation takes for the
same. -/
inductive Agree (alike : ε → ε → Prop) : Except ε α → Except ε α → Prop
  | ok (a : α) : Agree alike (.ok a) (.ok a)
  | error {e e' : ε} (h : alike e e') : Agree alike (.error e) (.error e')

section

variable {alike : ε → ε → Prop} {y : Except ε α}

theorem Agree.refl (halike : ∀ e, alike e e) (x : Except ε α) :
    Agree alike x x := by
  cases x with
  | ok a => exact .ok a
  | error e => exact .error (halike e)

theorem Agree.imp {alike' : ε → ε → Prop} (hxy : Agree alike x y)
    (himp : ∀ e e', alike e e' → alike' e e') :
    Agree alike' x y := by
  cases hxy with
  | ok a => exact .ok a
  | error h => exact .error (himp _ _ h)

theorem Agree.exists_error (hxy : Agree alike x y) {e : ε}
    (hx : x = .error e) :
    ∃ e', y = .error e' ∧ alike e e' := by
  cases hxy with
  | ok a => cases hx
  | @error e e' h =>
    cases hx
    exact ⟨e', rfl, h⟩

theorem Agree.bind {next next' : α → Except ε β} (hxy : Agree alike x y)
    (hnext : ∀ a, Agree alike (next a) (next' a)) :
    Agree alike (x >>= next) (y >>= next') := by
  cases hxy with
  | ok a => exact hnext a
  | error h => exact .error h

theorem Agree.map (hxy : Agree alike x y) (f : α → β) :
    Agree alike (x.map f) (y.map f) := by
  cases hxy with
  | ok a => exact .ok (f a)
  | error h => exact .error h

theorem Agree.mapError {δ : Type} {alike' : δ → δ → Prop} {f : ε → δ}
    (hxy : Agree alike x y) (hf : ∀ e e', alike e e' → alike' (f e) (f e')) :
    Agree alike' (x.mapError f) (y.mapError f) := by
  cases hxy with
  | ok a => exact .ok a
  | error h => exact .error (hf _ _ h)

theorem agree_eq_iff : Agree (· = ·) x y ↔ x = y := by
  constructor
  · intro h
    cases h with
    | ok a => rfl
    | error h => rw [h]
  · rintro rfl
    exact Agree.refl (fun _ => rfl) x

end

/-! ## Searches -/

/-- The first member of a list with a property. -/
theorem exists_first {p : α → Bool} {l : List α}
    (h : ∃ a ∈ l, p a = true) :
    ∃ before a after, l = before ++ a :: after ∧
      (∀ b ∈ before, p b = false) ∧ p a = true := by
  obtain ⟨a, ha⟩ := Option.isSome_iff_exists.mp (List.find?_isSome.mpr h)
  obtain ⟨hp, before, after, hl, hbefore⟩ :=
    List.find?_eq_some_iff_append.mp ha
  exact ⟨before, a, after, hl, by simpa using hbefore, hp⟩

theorem exists_first_or_forall {p : α → Bool} (l : List α) :
    (∃ before a after, l = before ++ a :: after ∧
      (∀ b ∈ before, p b = false) ∧ p a = true) ∨ ∀ a ∈ l, p a = false := by
  by_cases h : ∃ a ∈ l, p a = true
  · exact Or.inl (exists_first h)
  · right
    intro a ha
    by_contra hpa
    exact h ⟨a, ha, by simpa using hpa⟩

end AccessRules.Outcome
