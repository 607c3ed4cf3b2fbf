import AccessRules.Regex.Match
import Mathlib.Data.List.Basic

/-!
# Texts that a regular expression stands for

A node is matched by trying its ways of going on, one after the other.  Some
nodes stand for a set of texts: the search from a position succeeds exactly if
one of these texts comes next and the search goes on successfully behind it.
The order of preference then has no influence on whether there is a match.

Single characters, runs of them, optional parts and sequences are nodes of this
kind.  A loop over single characters never meets the place of its last round
again, and is cut short by its limit only behind the end of the text.
-/

namespace AccessRules.Regex

/-! ## Going on behind a text -/

/-- The position behind a text that comes next. -/
def Position.skip (p : Position) (u : List Char) : Position :=
  ⟨p.place + u.length, u.reverse ++ p.before, p.after.drop u.length, p.groups⟩

theorem Position.skip_append (p : Position) (u v : List Char) :
    p.skip (u ++ v) = (p.skip u).skip v := by
  simp [skip, Nat.add_assoc]

theorem Position.advance_eq_skip {p : Position} {c : Char} {cs : List Char}
    (h : p.after = c :: cs) :
    p.advance c cs = p.skip [c] := by
  simp [advance, skip, h]

theorem Position.after_skip_of_append {p : Position} {u v : List Char}
    (h : p.after = u ++ v) :
    (p.skip u).after = v := by
  simp [skip, h]

/-- The search that a text begins: it comes next, and the search goes on behind
it. -/
def Reaches (texts : List Char → Prop) (p : Position) (next : Next) : Prop :=
  ∃ u v, p.after = u ++ v ∧ texts u ∧ (next (p.skip u)).isSome = true

/-- A node stands for a set of texts. -/
def Node.Denotes (n : Node) (texts : List Char → Prop) : Prop :=
  ∀ p next, (n.run p next).isSome = true ↔ Reaches texts p next

theorem Reaches.congr {texts texts' : List Char → Prop} {p : Position}
    {next : Next} (h : ∀ u, texts u ↔ texts' u) :
    Reaches texts p next ↔ Reaches texts' p next := by
  simp only [Reaches, h]

theorem Node.Denotes.congr {n : Node} {texts texts' : List Char → Prop}
    (hn : n.Denotes texts) (h : ∀ u, texts u ↔ texts' u) :
    n.Denotes texts' :=
  fun p next => (hn p next).trans (Reaches.congr h)

/-! ## Single characters and sequences -/

theorem denotes_empty : Node.empty.Denotes (· = []) := by
  intro p next
  constructor
  · intro h
    exact ⟨[], p.after, rfl, rfl, h⟩
  · rintro ⟨u, v, -, rfl, h⟩
    exact h

theorem denotes_test (t : CharTest) :
    (Node.test t).Denotes fun u => ∃ c, u = [c] ∧ t.accepts c = true := by
  intro p next
  rw [Node.run]
  cases hafter : p.after with
  | nil =>
    simp only [Option.isSome_none, Bool.false_eq_true, false_iff]
    rintro ⟨u, v, huv, ⟨c, rfl, -⟩, -⟩
    simp [hafter] at huv
  | cons c cs =>
    simp only
    constructor
    · intro h
      by_cases hc : t.accepts c = true
      · rw [if_pos hc, Position.advance_eq_skip hafter] at h
        exact ⟨[c], cs, hafter, ⟨c, rfl, hc⟩, h⟩
      · rw [if_neg hc] at h
        simp at h
    · rintro ⟨u, v, huv, ⟨d, rfl, hd⟩, h⟩
      rw [hafter, List.singleton_append] at huv
      obtain ⟨rfl, rfl⟩ := List.cons.inj huv
      rwa [if_pos hd, Position.advance_eq_skip hafter]

theorem Node.Denotes.cat {a b : Node} {first second : List Char → Prop}
    (ha : a.Denotes first) (hb : b.Denotes second) :
    (Node.cat a b).Denotes fun u =>
      ∃ v w, u = v ++ w ∧ first v ∧ second w := by
  intro p next
  rw [Node.run, ha]
  constructor
  · rintro ⟨v, rest, hv, hfirst, h⟩
    obtain ⟨w, rest', hw, hsecond, h⟩ := (hb _ _).mp h
    rw [Position.after_skip_of_append hv] at hw
    refine ⟨v ++ w, rest', ?_, ⟨v, w, rfl, hfirst, hsecond⟩, ?_⟩
    · rw [hv, hw, List.append_assoc]
    · rwa [Position.skip_append]
  · rintro ⟨u, rest, hu, ⟨v, w, rfl, hfirst, hsecond⟩, h⟩
    rw [List.append_assoc] at hu
    refine ⟨v, w ++ rest, hu, hfirst, (hb _ _).mpr ?_⟩
    refine ⟨w, rest, Position.after_skip_of_append hu, hsecond, ?_⟩
    rwa [← Position.skip_append]

/-- Nodes in a row stand for the texts that consist of one piece for each of
them. -/
theorem denotes_sequence {α : Type} {node : α → Node}
    {texts : α → List Char → Prop} (h : ∀ a, (node a).Denotes (texts a))
    (as : List α) :
    (Node.sequence (as.map node)).Denotes fun u =>
      ∃ pieces : List (List Char), u = pieces.flatten ∧
        List.Forall₂ texts as pieces := by
  induction as with
  | nil =>
    refine denotes_empty.congr fun u => ?_
    constructor
    · rintro rfl
      exact ⟨[], rfl, .nil⟩
    · rintro ⟨pieces, rfl, hpieces⟩
      cases hpieces
      rfl
  | cons a as ih =>
    have hcons : ∀ u, (∃ v w, u = v ++ w ∧ texts a v ∧
          ∃ pieces : List (List Char), w = pieces.flatten ∧
            List.Forall₂ texts as pieces) ↔
        ∃ pieces : List (List Char), u = pieces.flatten ∧
          List.Forall₂ texts (a :: as) pieces := by
      intro u
      constructor
      · rintro ⟨v, w, rfl, hv, pieces, rfl, hpieces⟩
        exact ⟨v :: pieces, rfl, .cons hv hpieces⟩
      · rintro ⟨pieces, rfl, hpieces⟩
        cases hpieces with
        | cons hv hrest => exact ⟨_, _, rfl, hv, _, rfl, hrest⟩
    cases as with
    | nil =>
      -- a row of one node is that node, without the empty node behind it
      refine (h a).congr fun u => (?_ : _ ↔ _).trans (hcons u)
      constructor
      · intro hu
        exact ⟨u, [], by simp, hu, [], rfl, .nil⟩
      · rintro ⟨v, w, rfl, hv, pieces, rfl, hpieces⟩
        cases hpieces
        simpa using hv
    | cons b bs => exact ((h a).cat ih).congr hcons

/-! ## Repetitions -/

/-- One round of a loop: the step is done and the loop goes on, or the loop is
left. -/
theorem isSome_greedyRounds_succ
    (step : Position → Next → Option Position) (next : Next) (left : Nat)
    {last : Option Nat} {p : Position} (hlast : last ≠ some p.place) :
    (greedyRounds step next (left + 1) last p).isSome = true ↔
      (step p fun q =>
        greedyRounds step next left (some p.place) q).isSome = true ∨
      (next p).isSome = true := by
  rw [greedyRounds, if_neg hlast]
  cases step p fun q => greedyRounds step next left (some p.place) q with
  | none => simp
  | some r => simp

/-- An optional node stands for its texts and for the empty one. -/
theorem Node.Denotes.optional {a : Node} {texts : List Char → Prop}
    (ha : a.Denotes texts) :
    (Node.loop 0 (some 1) .greedy a).Denotes fun u => u = [] ∨ texts u := by
  intro p next
  have hrun : ((Node.loop 0 (some 1) .greedy a).run p next).isSome = true ↔
      (a.run p next).isSome = true ∨ (next p).isSome = true := by
    simp only [Node.run, rounds, extraRounds]
    exact isSome_greedyRounds_succ a.run next 0 (by simp)
  rw [hrun, ha]
  constructor
  · rintro (⟨u, v, huv, hu, h⟩ | h)
    · exact ⟨u, v, huv, Or.inr hu, h⟩
    · exact ⟨[], p.after, rfl, Or.inl rfl, h⟩
  · rintro ⟨u, v, huv, rfl | hu, h⟩
    · exact Or.inr h
    · exact Or.inl ⟨u, v, huv, hu, h⟩

/-- A run of accepted characters is empty, or one of them and a shorter run. -/
theorem reaches_run_iff {t : CharTest} {p : Position} {next : Next} :
    Reaches (fun u => ∀ c ∈ u, t.accepts c = true) p next ↔
      (∃ c cs, p.after = c :: cs ∧ t.accepts c = true ∧
        Reaches (fun u => ∀ c ∈ u, t.accepts c = true) (p.skip [c]) next) ∨
      (next p).isSome = true := by
  constructor
  · rintro ⟨u, v, huv, hu, h⟩
    cases u with
    | nil => exact Or.inr h
    | cons c u =>
      refine Or.inl ⟨c, u ++ v, huv, hu c (by simp), u, v, ?_, ?_, ?_⟩
      · simp [Position.skip, huv]
      · intro d hd
        exact hu d (List.mem_cons_of_mem c hd)
      · rwa [← Position.skip_append]
  · rintro (⟨c, cs, hcs, hc, u, v, huv, hu, h⟩ | h)
    · refine ⟨c :: u, v, ?_, ?_, ?_⟩
      · rw [Position.after_skip_of_append (v := cs) hcs] at huv
        rw [hcs, huv, List.cons_append]
      · exact List.forall_mem_cons.mpr ⟨hc, hu⟩
      · rwa [← Position.skip_append] at h
    · exact ⟨[], p.after, rfl, by simp, h⟩

/-- The rounds of a loop over one character, while more rounds are left than
characters. -/
theorem isSome_greedyRounds_test {t : CharTest} {next : Next} {left : Nat}
    {last : Option Nat} {p : Position} (hleft : p.after.length < left)
    (hlast : last ≠ some p.place) :
    (greedyRounds (Node.test t).run next left last p).isSome = true ↔
      Reaches (fun u => ∀ c ∈ u, t.accepts c = true) p next := by
  induction left generalizing last p with
  | zero => omega
  | succ left ih =>
    rw [isSome_greedyRounds_succ _ _ _ hlast, denotes_test t,
      reaches_run_iff]
    apply or_congr_left
    constructor
    · rintro ⟨u, v, huv, ⟨c, rfl, hc⟩, h⟩
      have hv := Position.after_skip_of_append huv
      rw [ih (by simp [hv, huv] at hleft ⊢; omega)
        (by simp [Position.skip])] at h
      exact ⟨c, v, huv, hc, h⟩
    · rintro ⟨c, cs, hcs, hc, h⟩
      have hv := Position.after_skip_of_append (u := [c]) hcs
      refine ⟨[c], cs, hcs, ⟨c, rfl, hc⟩, ?_⟩
      rwa [ih (by simp [hv, hcs] at hleft ⊢; omega) (by simp [Position.skip])]

/-- A loop over single characters stands for the runs of accepted ones. -/
theorem denotes_many (t : CharTest) :
    (Node.loop 0 none .greedy (.test t)).Denotes fun u =>
      ∀ c ∈ u, t.accepts c = true := by
  intro p next
  simp only [Node.run, rounds, extraRounds]
  exact isSome_greedyRounds_test (by omega) (by simp)

/-! ## Whole texts -/

/-- A node that stands for a set of texts matches these texts and no others. -/
theorem Node.Denotes.matchesAll_iff {n : Node} {texts : List Char → Prop}
    (hn : n.Denotes texts) (text : List Char) :
    n.matchesAll text = true ↔ texts text := by
  rw [Node.matchesAll, hn]
  constructor
  · rintro ⟨u, v, huv, hu, h⟩
    obtain rfl : text = u ++ v := huv
    have hv : ((Position.start (u ++ v)).skip u).after = v :=
      Position.after_skip_of_append rfl
    cases v with
    | nil => rwa [List.append_nil]
    | cons c cs =>
      simp [hv] at h
  · intro h
    exact ⟨text, [], by simp [Position.start], h,
      by simp [Position.start, Position.skip]⟩

end AccessRules.Regex
