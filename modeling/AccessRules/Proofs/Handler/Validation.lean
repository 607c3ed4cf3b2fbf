import AccessRules.Proofs.Handler.Builtin

/-!
# What a validated expression satisfies

Validation looks at what a walk through the tree has collected.  What it
establishes holds at every depth: each function that is called is known, each
other name stands for a value, and the built-in functions that take texts get
texts.

An added function may take any arguments, also where it takes the place of a
built-in one.
-/

namespace AccessRules.Handler

open Expression (Tree)
open Outcome

/-- A tree that a handler has an answer for: it obeys the rules, and its names
and arguments are known to make sense. -/
structure Admits (h : Handler) (t : Tree) : Prop where
  accepted : t.Accepted
  functions : ∀ f args, t.HasCall f args →
    f ∈ builtinNames ∨ h.overrides f = true
  names : ∀ x, t.Contains (.name x) → x ∈ variableNames
  texts : ∀ f args, f ∈ textFunctions → h.overrides f = false →
    t.HasCall f args → AreTexts args
  subnets : ∀ args, h.overrides "hasIpAddress" = false →
    t.HasCall "hasIpAddress" args → DescribeSubnets args

variable {h : Handler} {t : Tree} {text : String}

/-! ## Single checks -/

theorem mem_known_of_checkNames {known names : List String}
    {fault : List String → Fault} {x : String}
    (hcheck : checkNames known names fault = .ok ()) (hx : x ∈ names) :
    x ∈ known := by
  have hunknown : names.filter (!known.contains ·) = [] := by
    cases hfilter : names.filter (!known.contains ·) with
    | nil => rfl
    | cons y ys =>
      rw [checkNames, hfilter] at hcheck
      simp at hcheck
  have hcontains := List.filter_eq_nil_iff.mp hunknown x hx
  simpa using hcontains

theorem areTexts_of_nonText? {args : List Literal}
    (hargs : nonText? args = none) :
    AreTexts args := by
  intro v hv
  have htext := List.find?_eq_none.mp hargs v hv
  cases v with
  | text s => exact ⟨s, rfl⟩
  | _ => exact absurd rfl htext

theorem areTexts_of_checkTexts {f : String} {args : List Literal}
    (hcheck : checkTexts t text f = .ok ()) (hcall : t.HasCall f args) :
    AreTexts args := by
  have hnone : (t.callArguments f).findSome? nonText? = none := by
    cases hfind : (t.callArguments f).findSome? nonText? with
    | none => rfl
    | some v =>
      by_cases hshowable : v.isShowable
      · simp [checkTexts, hfind, hshowable] at hcheck
      · simp [checkTexts, hfind, hshowable] at hcheck
  have hargs : nonText? args = none :=
    List.findSome?_eq_none_iff.mp hnone args hcall.mem_callArguments
  exact areTexts_of_nonText? hargs

theorem subnetOf_of_checkSubnets {vs : List Literal} {s : String}
    (hcheck : checkSubnets vs = .ok ()) (hs : .text s ∈ vs) :
    ∃ subnet, Network.subnetOf s = .ok subnet := by
  induction vs with
  | nil => cases hs
  | cons v vs ih =>
    cases v with
    | text first =>
      rw [checkSubnets, bind_eq_ok_iff] at hcheck
      obtain ⟨subnet, hfirst, hrest⟩ := hcheck
      rcases List.mem_cons.mp hs with hs | hs
      · cases hs
        exact ⟨subnet, hfirst⟩
      · exact ih hrest hs
    | _ =>
      rcases List.mem_cons.mp hs with hs | hs
      · cases hs
      · exact ih hcheck hs

/-! ## All checks -/

theorem overrides_of_mem {f : String} (hf : f ∈ h.extra.map (·.1)) :
    h.overrides f = true := by
  obtain ⟨entry, hentry, rfl⟩ := List.mem_map.mp hf
  exact List.lookup_isSome_iff.mpr ⟨entry, hentry, beq_self_eq_true _⟩

/-- A tree that is compiled and checked is admitted. -/
theorem admits_of_checkTree (haccepted : t.Accepted)
    (hcheck : h.checkTree t text = .ok ()) :
    h.Admits t := by
  rw [checkTree, bind_eq_ok_iff] at hcheck
  obtain ⟨⟨⟩, hfunctions, hcheck⟩ := hcheck
  rw [bind_eq_ok_iff] at hcheck
  obtain ⟨⟨⟩, hnames, hcheck⟩ := hcheck
  rw [bind_eq_ok_iff] at hcheck
  obtain ⟨⟨⟩, htexts, hsubnets⟩ := hcheck
  constructor
  · exact haccepted
  · intro f args hcall
    have hknown := mem_known_of_checkNames hfunctions hcall.mem_functionNames
    rw [functionNames, Text.mem_sortTexts, List.mem_append] at hknown
    exact hknown.imp_right overrides_of_mem
  · intro x hx
    exact mem_known_of_checkNames hnames (Tree.mem_variableNames hx)
  · intro f args hf hoverrides hcall
    have hmem : f ∈ textFunctions.filter (!h.overrides ·) :=
      List.mem_filter.mpr ⟨hf, by rw [hoverrides]; rfl⟩
    exact areTexts_of_checkTexts (forM_eq_ok_iff.mp htexts f hmem) hcall
  · intro args hoverrides hcall s hs
    rw [hoverrides, if_neg Bool.false_ne_true] at hsubnets
    exact subnetOf_of_checkSubnets hsubnets
      (List.mem_flatten.mpr ⟨args, hcall.mem_callArguments, hs⟩)

/-- A text that is validated has an admitted tree. -/
theorem exists_admits_of_validate {text : Option String}
    (hvalid : h.validate (.requirement (.raw text)) = .ok ()) :
    ∃ t, Expression.compile text = .ok t ∧ h.Admits t := by
  rw [validate, bind_eq_ok_iff] at hvalid
  obtain ⟨t, ht, hcheck⟩ := hvalid
  exact ⟨t, ht,
    admits_of_checkTree (Expression.accepted_of_compile ht) hcheck⟩

end AccessRules.Handler
