import AccessRules.Proofs.Expression.Operand
import AccessRules.Proofs.Handler.Evaluation
import AccessRules.Proofs.Requirement.Canonical
import AccessRules.Shorthand

/-!
# Requirements and their expressions

A handler evaluates most requirements directly, and raw expressions by compiling
their texts.  Both ways agree: the expression of a requirement is validated, and
it holds wherever the requirement holds and fails wherever the requirement
fails, with the same error.

This needs the built-in functions to be in place, texts that are plain, and
roles with the prefix of the handler.
-/

namespace AccessRules

open Expression

/-! ## Names and calls with texts -/

theorem compile_name {x : String} (hx : isPlainName x = true) :
    compile (some x) = .ok (.name x) := by
  have hwrites : Writes .disj (.name x) [.name x] :=
    (Writes.name x).loosen_of_le (Nat.zero_le _)
  have hcompile := hwrites.compile_eq (.last _) (.name hx)
  rwa [Token.spelling, String.ofList_toList] at hcompile

theorem walk_textCall (f : String) (ss : List String) :
    (textCall f ss).walk = .tree (textCall f ss) :: .callee (.name f) ::
      ss.map fun s => .tree (.constant (.text s)) := by
  have hchildren : (textCall f ss).children =
      .callee (.name f) :: ss.map fun s => .tree (.constant (.text s)) := by
    rw [textCall, Tree.children, List.map_map]
    rfl
  have hsize : (textCall f ss).size = ss.length + 1 + 1 := by
    rw [textCall, Tree.size, Tree.sizeList_eq_sum, List.map_map]
    simp [Function.comp_def, Tree.size, Nat.add_comm]
  have hleaves : (Node.callee (.name f) :: ss.map fun s =>
      Node.tree (.constant (.text s))).flatMap Node.children = [] := by
    rw [List.flatMap_eq_nil_iff, List.forall_mem_cons, List.forall_mem_map]
    exact ⟨rfl, fun _ _ => rfl⟩
  have hrest := walkFrom_append 0
    (Node.callee (.name f) :: ss.map fun s =>
      Node.tree (.constant (.text s))) []
  rw [hleaves, List.append_nil, List.length_cons, List.length_map] at hrest
  rw [Tree.walk, hsize, walkFrom]
  change _ :: walkFrom (ss.length + 1) ((textCall f ss).children) = _
  rw [hchildren]
  exact congrArg _ (hrest.trans (List.append_nil _))

/-- Arguments add nothing to what is collected of other parts. -/
theorem filterMap_walk_textCall {α : Type} {g : Node → Option α}
    (hg : ∀ s, g (.tree (.constant (.text s))) = none) (f : String)
    (ss : List String) :
    (textCall f ss).walk.filterMap g =
      [.tree (textCall f ss), .callee (.name f)].filterMap g := by
  have hnone :
      (ss.map fun s => Node.tree (.constant (.text s))).filterMap g = [] := by
    rw [List.filterMap_eq_nil_iff, List.forall_mem_map]
    exact fun s _ => hg s
  have hsplit :
      (textCall f ss).walk = [.tree (textCall f ss), .callee (.name f)] ++
        ss.map fun s => Node.tree (.constant (.text s)) := walk_textCall f ss
  rw [hsplit, List.filterMap_append, hnone, List.append_nil]

theorem functionNames_textCall (f : String) (ss : List String) :
    (textCall f ss).functionNames = [f] := by
  rw [Tree.functionNames, filterMap_walk_textCall fun _ => rfl]
  rfl

theorem variableNames_textCall (f : String) (ss : List String) :
    (textCall f ss).variableNames = [] := by
  rw [Tree.variableNames, filterMap_walk_textCall fun _ => rfl]
  rfl

theorem callArguments_textCall (f g : String) (ss : List String) :
    (textCall f ss).callArguments g = if f = g then [ss.map .text] else [] := by
  have hcalls : (textCall f ss).calls = [(f, ss.map .text)] := by
    have hliterals :
        (ss.map fun s => Tree.constant (.text s)).filterMap Tree.literal? =
        ss.map .text := by
      have hconstants := Tree.filterMap_literal?_constants (ss.map .text)
      rwa [List.map_map] at hconstants
    rw [Tree.calls, filterMap_walk_textCall fun _ => rfl]
    exact congrArg (fun args => [(f, args)]) hliterals
  rw [Tree.callArguments, hcalls]
  split
  · rename_i hfg
    simp [hfg]
  · rename_i hfg
    simp [hfg]

namespace Handler

variable {h : Handler} {c : Context} {text f : String} {ss : List String}

/-! ## Validation -/

theorem checkNames_eq_ok {known names : List String}
    {fault : List String → Fault} (hnames : ∀ x ∈ names, x ∈ known) :
    checkNames known names fault = .ok () := by
  have hunknown : names.filter (!known.contains ·) = [] := by
    rw [List.filter_eq_nil_iff]
    intro x hx
    simpa using hnames x hx
  rw [checkNames, hunknown]

theorem checkSubnets_eq_ok
    (hss : ∀ s ∈ ss, ∃ subnet, Network.subnetOf s = .ok subnet) :
    checkSubnets (ss.map .text) = .ok () := by
  induction ss with
  | nil => rfl
  | cons s ss ih =>
    obtain ⟨⟨subnet, hs⟩, hss⟩ := List.forall_mem_cons.mp hss
    rw [List.map_cons, checkSubnets, hs]
    exact ih hss

theorem checkTexts_eq_ok (g : String) :
    checkTexts (textCall f ss) text g = .ok () := by
  have hnone : ((textCall f ss).callArguments g).findSome? nonText? = none := by
    rw [callArguments_textCall, List.findSome?_eq_none_iff]
    split
    · rw [List.forall_mem_singleton, nonText?, List.find?_eq_none,
        List.forall_mem_map]
      exact fun _ _ => Bool.false_ne_true
    · simp
  rw [checkTexts, hnone]

/-- A call of a built-in function with texts is validated; those of
`hasIpAddress` must describe subnets. -/
theorem checkTree_textCall (hf : f ∈ builtinNames)
    (hss : f = "hasIpAddress" →
      ∀ s ∈ ss, ∃ subnet, Network.subnetOf s = .ok subnet) :
    h.checkTree (textCall f ss) text = .ok () := by
  have hfunctions :
      ∀ x ∈ (textCall f ss).functionNames, x ∈ h.functionNames := by
    rw [functionNames_textCall, List.forall_mem_singleton, functionNames,
      Text.mem_sortTexts, List.mem_append]
    exact Or.inl hf
  have hvariables : ∀ x ∈ (textCall f ss).variableNames, x ∈ variableNames := by
    rw [variableNames_textCall]
    simp
  have hsubnets :
      checkSubnets ((textCall f ss).callArguments "hasIpAddress").flatten =
      .ok () := by
    rw [callArguments_textCall]
    split
    · rename_i hfun
      simpa using checkSubnets_eq_ok (hss hfun)
    · rfl
  have htexts :
      (textFunctions.filter (!h.overrides ·)).forM
        (checkTexts (textCall f ss) text) =
      .ok () :=
    Outcome.forM_eq_ok_iff.mpr fun g _ => checkTexts_eq_ok g
  rw [checkTree, checkNames_eq_ok hfunctions, checkNames_eq_ok hvariables,
    htexts, hsubnets]
  exact ite_self _

theorem checkTree_name {x : String} (hx : x ∈ variableNames) :
    h.checkTree (.name x) text = .ok () := by
  have hfunctions : (Tree.name x).functionNames = [] := rfl
  have hvariables : (Tree.name x).variableNames = [x] := rfl
  have hcalls : ∀ g, (Tree.name x).callArguments g = [] := fun _ => rfl
  have htexts :
      (textFunctions.filter (!h.overrides ·)).forM (checkTexts (.name x) text) =
      .ok () :=
    Outcome.forM_eq_ok_iff.mpr fun g _ => rfl
  rw [checkTree, checkNames_eq_ok (by simp [hfunctions]),
    checkNames_eq_ok (by simpa [hvariables] using hx), htexts, hcalls]
  exact ite_self _

/-! ## Evaluation -/

/-- A call of a built-in function has the outcome that the function gives for
its texts. -/
theorem evaluate_textCall {g : Function} {outcome : Except Fault Bool}
    (hf : h.overrides f = false) (hg : h.builtin? c f = some g)
    (hcall : Function.call f g (ss.map .text) = outcome.map .truth) :
    (textCall f ss).evaluate (h.environment c) text = outcome := by
  have hconstants : textCall f ss =
      .call (.name f) ((ss.map .text).map .constant) false := by
    rw [textCall, List.map_map]
    rfl
  refine evaluate_of_eval ?_ text
  rw [hconstants, eval_builtinCall hf hg, hcall]

theorem evaluate_name {x : String} {b : Bool}
    (hx : valueOf? c.security x = some (.truth b)) :
    (Tree.name x).evaluate (h.environment c) text = .ok b := by
  have hvariable : (h.environment c).variable x = .ok (.truth b) := by
    rw [Environment.variable, environment]
    simp only [hx]
  rw [Tree.evaluate, Tree.eval, hvariable]
  rfl

theorem evaluate_hasAuthority (a : String)
    (hf : h.overrides "hasAuthority" = false) :
    (textCall "hasAuthority" [a]).evaluate (h.environment c) text =
      .ok (c.security.hasAuthority a) :=
  evaluate_textCall hf rfl rfl

theorem evaluate_hasAnyAuthority (as : List String)
    (hf : h.overrides "hasAnyAuthority" = false) :
    (textCall "hasAnyAuthority" as).evaluate (h.environment c) text =
      .ok (as.any c.security.hasAuthority) := by
  apply evaluate_textCall hf rfl
  rw [Function.call, List.any_map]
  rfl

/-- A role is given with the prefix of the handler or without. -/
theorem evaluate_hasRole (r : String) (hf : h.overrides "hasRole" = false) :
    (textCall "hasRole" [r]).evaluate (h.environment c) text =
      .ok (c.security.hasAuthority
        (if h.rolePrefix.toList.isPrefixOf r.toList then r
          else h.rolePrefix ++ r)) :=
  evaluate_textCall hf rfl rfl

/-- A request without the address of its client fails as it does without the
expression. -/
theorem evaluate_hasIpAddress {e : String} {subnet : Network.Subnet}
    (he : Network.subnetOf e = .ok subnet)
    (hf : h.overrides "hasIpAddress" = false) :
    (textCall "hasIpAddress" [e]).evaluate (h.environment c) text =
      clientIn c subnet := by
  apply evaluate_textCall hf rfl
  have hsubnet : subnetOf (.text e) = .ok subnet := by
    rw [subnetOf, he]
    rfl
  have hunary : unary "hasIpAddress" (fun v => do
      let subnet ← subnetOf v
      (clientIn c subnet).mapError .fault) [.text e] =
      ((clientIn c subnet).mapError CallFailure.fault).map .truth := by
    rw [unary, hsubnet]
    rfl
  rw [Function.call]
  refine (congrArg (Except.mapError _) hunary).trans ?_
  cases hclient : clientIn c subnet with
  | ok b => rfl
  | error f =>
    obtain ⟨-, rfl⟩ := clientIn_error hclient
    rfl

/-! ## Agreement -/

/-- A requirement that a handler evaluates directly and whose expression is
meant for this handler: its texts are plain, a role has the prefix of the
handler, and a subnet is the one that its expression describes. -/
inductive Tags (h : Handler) : Requirement → Prop
  | role {r : String} (hr : isPlainText r = true)
      (hp : isPlainText h.rolePrefix = true) :
      Tags h (.role r h.rolePrefix)
  | authority {a : String} (ha : isPlainText a = true) : Tags h (.authority a)
  | anyAuthority {as : List String} (hne : as ≠ [])
      (has : ∀ a ∈ as, isPlainText a = true) :
      Tags h (.anyAuthority as)
  | ipAddress {m : NetworkMatcher}
      (hm : NetworkMatcher.make m.expression = .ok m)
      (he : isPlainText m.expression = true) :
      Tags h (.ipAddress m)
  | permitAll : Tags h .permitAll
  | denyAll : Tags h .denyAll
  | anonymous : Tags h .anonymous
  | authenticated : Tags h .authenticated
  | fullyAuthenticated : Tags h .fullyAuthenticated
  | rememberMe : Tags h .rememberMe

/-- A raw expression is validated and has the outcome of a requirement in every
context. -/
def SaysSame (h : Handler) (text : String) (r : Requirement) : Prop :=
  h.validate (.requirement (.raw (some text))) = .ok () ∧
    ∀ c, h.evaluate c (.raw (some text)) = h.evaluate c r

theorem saysSame_of_compile {t : Tree} {r : Requirement}
    (ht : compile (some text) = .ok t) (hcheck : h.checkTree t text = .ok ())
    (heval : ∀ c, t.evaluate (h.environment c) text = h.evaluate c r) :
    h.SaysSame text r := by
  refine ⟨?_, ?_⟩
  · rw [validate, ht]
    exact hcheck
  · intro c
    exact (evaluate_raw c ht).trans (heval c)

theorem isPrefixOf_append (s t : String) :
    s.toList.isPrefixOf (s ++ t).toList = true := by
  rw [List.isPrefixOf_iff_prefix, String.toList_append]
  exact List.prefix_append s.toList t.toList

/-- A call of `hasRole` with a role, with or without its prefix, says the same
as asking for the role. -/
theorem saysSame_hasRole {role r : String}
    (hbuiltin : ∀ f ∈ builtinNames, h.overrides f = false)
    (hr : r = h.rolePrefix ++ role ∨
      r = role ∧ h.rolePrefix.toList.isPrefixOf role.toList = false)
    (ht : compile (some text) = .ok (textCall "hasRole" [r])) :
    h.SaysSame text (.role role h.rolePrefix) := by
  refine saysSame_of_compile ht
    (checkTree_textCall (by decide) (fun hf => absurd hf (by decide))) ?_
  intro c
  rw [evaluate_hasRole r (hbuiltin _ (by decide))]
  rcases hr with rfl | ⟨rfl, hstarts⟩
  · rw [if_pos (isPrefixOf_append _ _)]
    rfl
  · rw [hstarts, if_neg Bool.false_ne_true]
    rfl

theorem saysSame_name {x : String} {r : Requirement} (hx : x ∈ variableNames)
    (hplain : isPlainName x = true)
    (hr : ∀ c, ∃ b, valueOf? c.security x = some (.truth b) ∧
      h.evaluate c r = .ok b) :
    h.SaysSame x r := by
  refine saysSame_of_compile (compile_name hplain) (checkTree_name hx) ?_
  intro c
  obtain ⟨b, hb, hdirect⟩ := hr c
  exact (evaluate_name hb).trans hdirect.symm

/-- A tagged requirement is evaluated directly as its expression is. -/
theorem Tags.saysSame {r : Requirement} (hr : h.Tags r)
    (hbuiltin : ∀ f ∈ builtinNames, h.overrides f = false) :
    h.SaysSame r.expression r := by
  cases hr with
  | role hr hp =>
    exact saysSame_hasRole hbuiltin (Or.inl rfl)
      (Requirement.compile_expression rfl
      (List.forall_mem_singleton.mpr (isPlainText_append hp hr)))
  | authority ha =>
    refine saysSame_of_compile (Requirement.compile_expression rfl
      (List.forall_mem_singleton.mpr ha))
      (checkTree_textCall (by decide) (fun hf => absurd hf (by decide))) ?_
    exact fun c => evaluate_hasAuthority _ (hbuiltin _ (by decide))
  | anyAuthority hne has =>
    obtain ⟨a, as, rfl⟩ := List.exists_cons_of_ne_nil hne
    refine saysSame_of_compile (Requirement.compile_expression rfl has)
      (checkTree_textCall (by decide) (fun hf => absurd hf (by decide))) ?_
    exact fun c => evaluate_hasAnyAuthority _ (hbuiltin _ (by decide))
  | @ipAddress m hm he =>
    have hsubnet : Network.subnetOf m.expression = .ok m.subnet := by
      obtain ⟨subnet, hsubnet, hmake⟩ := Outcome.map_eq_ok_iff.mp hm
      rw [hsubnet, ← hmake]
    refine saysSame_of_compile (Requirement.compile_expression rfl
      (List.forall_mem_singleton.mpr he)) (checkTree_textCall (by decide) ?_) ?_
    · exact fun _ => List.forall_mem_singleton.mpr ⟨m.subnet, hsubnet⟩
    · exact fun c => evaluate_hasIpAddress hsubnet (hbuiltin _ (by decide))
  | permitAll | denyAll | anonymous | authenticated | fullyAuthenticated
    | rememberMe =>
    exact saysSame_name (by decide) (by decide +kernel) fun c => ⟨_, rfl, rfl⟩

theorem cases_of_hasRole {role p : String} {r : Requirement}
    (hr : Shorthand.hasRole (some role) p = .ok r) :
    r = .role role p ∧ p.toList.isPrefixOf role.toList = false := by
  rw [Shorthand.hasRole] at hr
  split at hr
  · cases hr
  · split at hr
    · cases hr
    · rename_i hstarts
      exact ⟨(Except.ok.inj hr).symm, Bool.eq_false_iff.mpr hstarts⟩

/-- Tagged requirements say the same as their expressions.  An accepted role
also says the same as any call of `hasRole` with the role alone, or with the
prefix of the handler in front of it.

Escapes by name are not read, and those of surrogates all give the replacement
character; see `Expression.Escape.read`. -/
theorem saysSame_expression {h : Handler}
    (hbuiltin : ∀ f ∈ builtinNames, h.overrides f = false) :
    (∀ r, h.Tags r → h.SaysSame r.expression r) ∧
      ∀ role r, Shorthand.hasRole (some role) h.rolePrefix = .ok r →
        ∀ s ∈ [role, h.rolePrefix ++ role],
          compile (some (textCall "hasRole" [s]).print) =
            .ok (textCall "hasRole" [s]) ∧
            ∀ text, compile (some text) = .ok (textCall "hasRole" [s]) →
              h.SaysSame text r := by
  refine ⟨fun r hr => hr.saysSame hbuiltin, ?_⟩
  intro role r hr s hs
  obtain ⟨rfl, hstarts⟩ := cases_of_hasRole hr
  have hprint := printable_textCall (f := "hasRole") (by decide +kernel) [s]
  refine ⟨(hprint.writes_tokensAt .disj).compile_eq hprint.spaced_print hprint,
    ?_⟩
  intro text ht
  simp only [List.mem_cons, List.not_mem_nil, or_false] at hs
  exact saysSame_hasRole hbuiltin (hs.symm.imp id fun heq => ⟨heq, hstarts⟩) ht

/-- An added function, a subnet, and a role with a quote and a backslash. -/
theorem saysSame_expression_added :
    let h := make .standard [("isOwner", fun _ _ => .ok (.truth true))]
    let network :=
      Requirement.ipAddress ⟨"10.1.2.3/8", ⟨.v4, 167772160, 8, none⟩⟩
    let role := Requirement.role "it's \\" h.rolePrefix
    let text := "hasRole('it\\'s \\\\')"
    (∀ f ∈ builtinNames, h.overrides f = false) ∧
      h.Tags network ∧ h.SaysSame network.expression network ∧
      Shorthand.hasRole (some "it's \\") h.rolePrefix = .ok role ∧
      compile (some text) = .ok (textCall "hasRole" ["it's \\"]) ∧
        h.SaysSame text role := by
  intro h network role text
  have hbuiltin : ∀ f ∈ builtinNames, h.overrides f = false := by decide +kernel
  have htags : h.Tags network :=
    .ipAddress (by decide +kernel) (by decide +kernel)
  have hrole : Shorthand.hasRole (some "it's \\") h.rolePrefix = .ok role := by
    decide +kernel
  have htext : compile (some text) = .ok (textCall "hasRole" ["it's \\"]) := by
    decide +kernel
  exact ⟨hbuiltin, htags, (saysSame_expression hbuiltin).1 network htags,
    hrole, htext,
      ((saysSame_expression hbuiltin).2 _ role hrole _ List.mem_cons_self).2
        text htext⟩

end Handler

end AccessRules
