import AccessRules.Handler
import AccessRules.Proofs.Expression.Origin

/-!
# Built-in functions

A built-in function takes a fixed number of arguments, or any number.  What it
gives is always a truth value.

Given texts, and for addresses texts that describe subnets, a built-in function
fails only if it gets the wrong number of arguments, or if it needs the address
of a client that is not known.
-/

namespace AccessRules.Handler

open Expression (CallFailure Function)
open Outcome

/-- Whether a built-in function takes a number of arguments. -/
def takes (name : String) (arguments : Nat) : Bool :=
  match name with
  | "hasRole" | "hasAuthority" | "hasIpAddress" => arguments == 1
  | "hasAnyRole" | "hasAnyAuthority" => true
  | "isAnonymous" | "isAuthenticated" | "isFullyAuthenticated"
  | "isRememberMe" => arguments == 0
  | _ => false

/-- Every argument is a text. -/
def AreTexts (args : List Literal) : Prop :=
  ∀ v ∈ args, ∃ s, v = .text s

/-- Every text among the arguments describes a subnet. -/
def DescribeSubnets (args : List Literal) : Prop :=
  ∀ s, Literal.text s ∈ args → ∃ subnet, Network.subnetOf s = .ok subnet

variable {h : Handler} {c : Context} {name : String} {args : List Literal}
  {e : CallFailure}

/-! ## Kinds of functions -/

theorem isTruth_of_map {ε : Type} {x : Except ε Bool} {v : Literal}
    (h : x.map .truth = .ok v) :
    v.IsTruth := by
  obtain ⟨b, -, rfl⟩ := map_eq_ok_iff.mp h
  exact ⟨b, rfl⟩

theorem constantly_ok {b : Bool} {v : Literal}
    (h : constantly name b args = .ok v) :
    v.IsTruth := by
  cases args with
  | nil => exact ⟨b, (Except.ok.inj h).symm⟩
  | cons _ _ => cases h

theorem constantly_error {b : Bool} (he : constantly name b args = .error e) :
    args.length ≠ 0 ∧
      e = .badArguments ((signatureOf name).complaint args.length) := by
  cases args with
  | nil => cases he
  | cons _ _ => exact ⟨Nat.succ_ne_zero _, (Except.error.inj he).symm⟩

theorem unary_ok {f : Literal → Except CallFailure Bool} {v : Literal}
    (h : unary name f args = .ok v) :
    v.IsTruth := by
  match args with
  | [_] => exact isTruth_of_map h
  | [] | _ :: _ :: _ => cases h

/-- A function of one argument fails by its arguments' number or on its
argument. -/
theorem unary_error {f : Literal → Except CallFailure Bool}
    (he : unary name f args = .error e) :
    (args.length ≠ 1 ∧
        e = .badArguments ((signatureOf name).complaint args.length)) ∨
      ∃ v, args = [v] ∧ f v = .error e := by
  match args with
  | [v] => exact Or.inr ⟨v, rfl, map_eq_error_iff.mp he⟩
  | [] => exact Or.inl ⟨by simp, (Except.error.inj he).symm⟩
  | _ :: _ :: _ => exact Or.inl ⟨by simp, (Except.error.inj he).symm⟩

/-! ## Single functions -/

theorem roleAuthority_ne_error (h : Handler) (r : String) :
    h.roleAuthority (.text r) ≠ .error e := by
  intro he
  cases he

theorem grantsAnyRole_ne_error (h : Handler) {s : Security}
    (htexts : AreTexts args) :
    h.grantsAnyRole s args ≠ .error e := by
  induction args with
  | nil =>
    intro he
    cases he
  | cons v args ih =>
    intro he
    obtain ⟨⟨r, rfl⟩, hrest⟩ := List.forall_mem_cons.mp htexts
    rw [grantsAnyRole, bind_eq_error_iff] at he
    rcases he with he | ⟨a, -, he⟩
    · exact roleAuthority_ne_error h r he
    · split at he
      · cases he
      · exact ih hrest he

theorem clientIn_error {s : Network.Subnet} {f : Fault}
    (hf : clientIn c s = .error f) :
    c.request.remoteAddress = none ∧ f = .noClientAddress c.request.path := by
  rw [clientIn] at hf
  cases haddress : c.request.remoteAddress with
  | some client => simp [haddress] at hf
  | none =>
    simp only [haddress, Except.error.injEq] at hf
    exact ⟨rfl, hf.symm⟩

/-! ## All functions -/

theorem exists_builtin? (h : Handler) (c : Context)
    (hname : name ∈ builtinNames) :
    ∃ g, h.builtin? c name = some g := by
  simp only [builtinNames, List.mem_cons, List.not_mem_nil, or_false] at hname
  rcases hname with rfl | rfl | rfl | rfl | rfl | rfl | rfl | rfl | rfl
  all_goals exact ⟨_, rfl⟩

/-- What a built-in function is, and which of its calls with texts can fail. -/
inductive Shape (c : Context) (name : String) : Function → Prop
  | constant (b : Bool) (htakes : ∀ n, takes name n = (n == 0)) :
      Shape c name (constantly name b)
  | single (f : Literal → Except CallFailure Bool)
      (htakes : ∀ n, takes name n = (n == 1)) (hname : name ∈ textFunctions)
      (hfails : ∀ s e, f (.text s) = .error e → name = "hasIpAddress" ∧
        ∀ subnet, Network.subnetOf s = .ok subnet →
          c.request.remoteAddress = none ∧
            e = .fault (.noClientAddress c.request.path)) :
      Shape c name (unary name f)
  | several (f : List Literal → Except CallFailure Bool)
      (hname : name ∈ textFunctions)
      (hfails : ∀ args e, AreTexts args → f args ≠ .error e) :
      Shape c name fun args => (f args).map .truth

theorem subnetOf_text_error {s : String}
    (he : (do
      let subnet ← subnetOf (.text s)
      (clientIn c subnet).mapError .fault) = .error e)
    {subnet : Network.Subnet} (hsubnet : Network.subnetOf s = .ok subnet) :
    c.request.remoteAddress = none ∧
      e = .fault (.noClientAddress c.request.path) := by
  have hclient : (clientIn c subnet).mapError CallFailure.fault = .error e := by
    rw [subnetOf, hsubnet] at he
    exact he
  obtain ⟨f, hf, rfl⟩ := mapError_eq_error_iff.mp hclient
  obtain ⟨hnone, rfl⟩ := clientIn_error hf
  exact ⟨hnone, rfl⟩

/-- Every built-in function has one of the three shapes. -/
theorem shape_of_builtin? {g : Function}
    (hg : h.builtin? c name = some g) :
    Shape c name g := by
  unfold builtin? at hg
  dsimp only at hg
  split at hg
  case h_1 =>
    obtain rfl := Option.some.inj hg
    refine .single _ (fun _ => rfl) (by decide) ?_
    intro s e he
    exact absurd (map_eq_error_iff.mp he) (roleAuthority_ne_error h s)
  case h_2 =>
    obtain rfl := Option.some.inj hg
    refine .several _ (by decide) ?_
    intro args e hargs
    exact grantsAnyRole_ne_error h hargs
  case h_3 =>
    obtain rfl := Option.some.inj hg
    refine .single _ (fun _ => rfl) (by decide) ?_
    intro s e he
    cases he
  case h_4 =>
    obtain rfl := Option.some.inj hg
    refine .several (fun args => .ok (args.any (grants c.security)))
      (by decide) ?_
    intro args e hargs he
    cases he
  case h_5 =>
    obtain rfl := Option.some.inj hg
    refine .single _ (fun _ => rfl) (by decide) ?_
    intro s e he
    exact ⟨rfl, fun subnet hsubnet => subnetOf_text_error he hsubnet⟩
  case h_10 => cases hg
  all_goals
    obtain rfl := Option.some.inj hg
    exact .constant _ fun _ => rfl

/-- Built-in functions give truth values. -/
theorem builtin?_ok {g : Function} {v : Literal}
    (hg : h.builtin? c name = some g) (hv : g args = .ok v) :
    v.IsTruth := by
  cases shape_of_builtin? hg with
  | constant b htakes => exact constantly_ok hv
  | single f htakes hname hfails => exact unary_ok hv
  | several f hname hfails => exact isTruth_of_map hv

/-- Built-in functions fail by the number of their arguments or for want of a
client address. -/
theorem builtin?_error {g : Function}
    (hg : h.builtin? c name = some g)
    (htexts : name ∈ textFunctions → AreTexts args)
    (hsubnets : name = "hasIpAddress" → DescribeSubnets args)
    (he : g args = .error e) :
    (takes name args.length = false ∧
        e = .badArguments ((signatureOf name).complaint args.length)) ∨
      (name = "hasIpAddress" ∧ c.request.remoteAddress = none ∧
        e = .fault (.noClientAddress c.request.path)) := by
  cases shape_of_builtin? hg with
  | constant b htakes =>
    obtain ⟨hlength, rfl⟩ := constantly_error he
    have hfalse : takes name args.length = false := by
      rw [htakes]
      exact beq_eq_false_iff_ne.mpr hlength
    exact Or.inl ⟨hfalse, rfl⟩
  | single f htakes hname hfails =>
    rcases unary_error he with ⟨hlength, rfl⟩ | ⟨v, rfl, hv⟩
    · have hfalse : takes name args.length = false := by
        rw [htakes]
        exact beq_eq_false_iff_ne.mpr hlength
      exact Or.inl ⟨hfalse, rfl⟩
    · obtain ⟨s, rfl⟩ := htexts hname v (List.mem_singleton_self v)
      obtain ⟨hname, hclient⟩ := hfails s e hv
      obtain ⟨subnet, hsubnet⟩ := hsubnets hname s (List.mem_singleton_self _)
      exact Or.inr ⟨hname, hclient subnet hsubnet⟩
  | several f hname hfails =>
    exact absurd (map_eq_error_iff.mp he) (hfails args e (htexts hname))

end AccessRules.Handler
