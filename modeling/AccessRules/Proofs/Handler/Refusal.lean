import AccessRules.Proofs.Expression.Dependence
import AccessRules.Proofs.Handler.Evaluation
import AccessRules.Rule.Source

/-!
# How texts are refused

A text that is no access expression is refused as an invalid expression, when it
is compiled and when the rules are set up.  Two failures are not reported like
that.  A null character ends the reading of a text in an error that has no
report.  And a number with too many digits cannot be shown in the message about
it.
-/

namespace AccessRules

open Expression (Calls Parses Tree compile)
open Outcome

/-! ## Compilation -/

namespace Expression

/-- What can come of the compilation of a text. -/
inductive Compilation (s : String) : Except Fault Tree → Prop
  | accepted {t : Tree} (hparses : Parses s t) (ht : t.Grammatical) :
      Compilation s (.ok t)
  | refused {f : Fault} (hnull : '\x00' ∉ Text.strip s.toList)
      (hnone : ∀ t, Parses s t → ¬ t.Grammatical)
      (hkind : f.kind? = some .invalidExpression) :
      Compilation s (.error f)
  | null (hnull : '\x00' ∈ Text.strip s.toList) :
      Compilation s (.error .nullCharacter)

theorem Offence.kind?_fault (o : Offence) (text : String) :
    (o.fault text).kind? = some .invalidExpression := by
  cases o with
  | construct | computedCall | computedArgument => rfl

theorem compile_eq_nullCharacter {s : String}
    (h : '\x00' ∈ Text.strip s.toList) :
    compile (some s) = .error .nullCharacter := by
  have hblank : Text.strip s.toList ≠ [] := List.ne_nil_of_mem h
  simp [compile, hblank, h]

/-- A text that is no expression at all is refused as such. -/
theorem exists_compile_error {s : String}
    (hnull : '\x00' ∉ Text.strip s.toList) (hnone : ∀ t, ¬ Parses s t) :
    ∃ f, compile (some s) = .error f ∧ f.kind? = some .invalidExpression := by
  by_cases hblank : Text.strip s.toList = []
  · exact ⟨.emptyExpression, by simp [compile, hblank], rfl⟩
  · cases hread : read? (Text.strip s.toList) with
    | some t => exact absurd ⟨hnull, hread⟩ (hnone t)
    | none =>
      exact ⟨.unreadableExpression s, by simp [compile, hblank, hnull, hread],
        rfl⟩

theorem Parses.unique {s : String} {t u : Tree} (ht : Parses s t)
    (hu : Parses s u) :
    t = u :=
  Option.some.inj (ht.2.symm.trans hu.2)

theorem compilation (s : String) : Compilation s (compile (some s)) := by
  by_cases hnull : '\x00' ∈ Text.strip s.toList
  · rw [compile_eq_nullCharacter hnull]
    exact .null hnull
  by_cases hparses : ∃ t, Parses s t
  · obtain ⟨t, ht⟩ := hparses
    rw [ht.compile_eq]
    cases hoffence : t.firstOffence? with
    | none => exact .accepted ht (Tree.firstOffence?_eq_none_iff.mp hoffence)
    | some o =>
      refine .refused hnull ?_ (o.kind?_fault s)
      rintro u hu hgrammatical
      obtain rfl := ht.unique hu
      rw [Tree.firstOffence?_eq_none_iff.mpr hgrammatical] at hoffence
      cases hoffence
  · have hnone : ∀ t, ¬ Parses s t := not_exists.mp hparses
    obtain ⟨f, hf, hkind⟩ := exists_compile_error hnull hnone
    rw [hf]
    exact .refused hnull (fun t ht => absurd ht (hnone t)) hkind

theorem not_calls_of_compile {text : Option String} {t : Tree} {f : String}
    (ht : compile text = .ok t) (hf : f ∉ t.functionNames) :
    ¬ Calls text f := by
  rintro ⟨u, hu, hmem⟩
  obtain rfl := Except.ok.inj (ht.symm.trans hu)
  exact hf hmem

/-- The arguments that are collected for a function are those of its calls. -/
theorem Tree.Accepted.hasCall_of_mem_callArguments {t : Tree}
    (h : t.Accepted) {f : String} {args : List Literal}
    (hargs : args ∈ t.callArguments f) :
    t.HasCall f args := by
  rw [mem_callArguments_iff, calls, List.mem_filterMap] at hargs
  obtain ⟨n, hn, hcallAt⟩ := hargs
  obtain ⟨xs, k, htree, hxs⟩ := callAt?_eq_some_iff.mp hcallAt
  have hwithin : n.Within (.tree t) := mem_walk_iff.mp hn
  have hgrammatical : n.Grammatical := hwithin.grammatical h.grammatical
  obtain ⟨rfl, -, _, literals, -, rfl⟩ := hgrammatical.of_toTree?_eq_call htree
  rw [filterMap_literal?_constants] at hxs
  exact ⟨k, hxs ▸ hwithin⟩

end Expression

/-! ## Validation -/

namespace Handler

/-- How a text is refused that does not ask for the address of the client. -/
inductive Refusal (h : Handler) (text : Option String) : Fault → Prop
  | invalid {f : Fault} (hkind : f.kind? = some .invalidExpression) :
      Refusal h text f
  | null {s : String} (htext : text = some s)
      (hnull : '\x00' ∈ Text.strip s.toList) :
      Refusal h text .nullCharacter
  | oversized {t : Tree} {name : String} {args : List Literal} {n : Nat}
      (ht : compile text = .ok t) (hcall : t.HasCall name args)
      (hname : name ∈ textFunctions) (hoverrides : h.overrides name = false)
      (hn : .integer n ∈ args) (hmany : Nat.pow 10 Text.mostDigits ≤ n) :
      Refusal h text .oversizedNumber

variable {h : Handler} {t : Tree} {text : Option String} {f : Fault}

theorem refusal_of_compile (he : compile text = .error f) :
    h.Refusal text f := by
  cases text with
  | none =>
    obtain rfl := Except.error.inj he
    exact .invalid rfl
  | some s =>
    have hcompilation := Expression.compilation s
    rw [he] at hcompilation
    cases hcompilation with
    | refused _ _ hkind => exact .invalid hkind
    | null hnull => exact .null rfl hnull

theorem checkNames_error {known names : List String}
    {fault : List String → Fault}
    (he : checkNames known names fault = .error f) :
    ∃ unknown, f = fault unknown := by
  rw [checkNames] at he
  split at he
  · cases he
  · exact ⟨_, (Except.error.inj he).symm⟩

theorem exists_of_nonText?_eq_some {args : List Literal} {v : Literal}
    (hv : nonText? args = some v) (hshowable : v.isShowable = false) :
    ∃ n, .integer n ∈ args ∧ Nat.pow 10 Text.mostDigits ≤ n := by
  have hmem : v ∈ args := List.mem_of_find?_eq_some hv
  cases v with
  | integer n =>
    rw [Literal.isShowable, decide_eq_false_iff_not, Nat.not_lt] at hshowable
    exact ⟨n, hmem, hshowable⟩
  | _ => cases hshowable

theorem refusal_of_checkTexts (ht : compile text = .ok t) {name shown : String}
    (hname : name ∈ textFunctions) (hoverrides : h.overrides name = false)
    (he : checkTexts t shown name = .error f) :
    h.Refusal text f := by
  rw [checkTexts] at he
  split at he
  · cases he
  next v hv =>
    obtain ⟨args, hargs, hv⟩ := List.exists_of_findSome?_eq_some hv
    split at he
    · obtain rfl := Except.error.inj he
      exact .invalid rfl
    next hshowable =>
      obtain rfl := Except.error.inj he
      obtain ⟨n, hn, hmany⟩ := exists_of_nonText?_eq_some hv
        (Bool.not_eq_true _ ▸ hshowable)
      have hcall :=
        (Expression.accepted_of_compile ht).hasCall_of_mem_callArguments hargs
      exact .oversized ht hcall hname hoverrides hn hmany

theorem refusal_of_checkTree (ht : compile text = .ok t) {shown : String}
    (hcalls : "hasIpAddress" ∉ t.functionNames)
    (he : h.checkTree t shown = .error f) :
    h.Refusal text f := by
  rw [checkTree, bind_eq_error_iff] at he
  rcases he with he | ⟨-, -, he⟩
  · obtain ⟨unknown, rfl⟩ := checkNames_error he
    exact .invalid rfl
  rw [bind_eq_error_iff] at he
  rcases he with he | ⟨-, -, he⟩
  · obtain ⟨unknown, rfl⟩ := checkNames_error he
    exact .invalid rfl
  rw [bind_eq_error_iff] at he
  rcases he with he | ⟨-, -, he⟩
  · obtain ⟨name, hname, he⟩ := exists_of_forM_eq_error he
    obtain ⟨hname, hoverrides⟩ := List.mem_filter.mp hname
    exact refusal_of_checkTexts ht hname (by simpa using hoverrides) he
  · rw [Tree.callArguments_eq_nil hcalls] at he
    split at he
    · cases he
    · cases he

theorem refusal_of_validate (hcalls : ¬ Calls text "hasIpAddress")
    (he : h.validate (.requirement (.raw text)) = .error f) :
    h.Refusal text f := by
  rw [validate, bind_eq_error_iff] at he
  rcases he with he | ⟨t, ht, he⟩
  · exact refusal_of_compile he
  · exact refusal_of_checkTree ht (fun hmem => hcalls ⟨t, ht, hmem⟩) he

end Handler

/-! ## Sources -/

theorem Source.exists_of_build_eq_error {table : LookupTable} {h : Handler}
    {f : Fault} (he : (build table h).value = .error f) :
    ∃ e ∈ table.entries, ∃ text, .requirement (.raw text) ∈ e.2 ∧
      h.validate (.requirement (.raw text)) = .error f := by
  have hvalidate : validateAll h (table.entries.flatMap (·.2)) = .error f := by
    rw [build] at he
    split at he
    · cases he
    · split at he
      · cases he
      next hvalidate =>
        obtain rfl := Except.error.inj he
        exact hvalidate
  obtain ⟨a, ha, he⟩ := exists_of_forM_eq_error hvalidate
  obtain ⟨e, hmem, ha⟩ := List.mem_flatMap.mp ha
  cases a with
  | requirement r =>
    cases r with
    | raw text => exact ⟨e, hmem, text, ha, he⟩
    | _ => cases he
  | _ => cases he

/-- A text without null characters is compiled or refused as an invalid
expression.  So rules whose texts ask for no address keep a source from being
built only by an invalid expression, unless one of the texts has a null
character, or a call with a number that cannot be shown.

A text with an escape by name is among those that are refused here, and escapes
of surrogates all give the replacement character; see
`Expression.Escape.read`. -/
theorem Source.refusal_of_build (h : Handler) :
    (∀ s, Expression.Compilation s (compile (some s))) ∧
    ∀ (table : LookupTable) (f : Fault),
      (∀ e ∈ table.entries, ∀ text, .requirement (.raw text) ∈ e.2 →
        ¬ Calls text "hasIpAddress") →
      (build table h).value = .error f →
      ∃ e ∈ table.entries, ∃ text, .requirement (.raw text) ∈ e.2 ∧
        h.validate (.requirement (.raw text)) = .error f ∧
          h.Refusal text f := by
  refine ⟨Expression.compilation, ?_⟩
  intro table f hcalls he
  obtain ⟨e, hmem, text, htext, he⟩ := exists_of_build_eq_error he
  exact ⟨e, hmem, text, htext, he,
    Handler.refusal_of_validate (hcalls e hmem text htext) he⟩

/-- The second text calls a function that does not exist. -/
theorem Source.refusal_of_build_unknown :
    let h := Handler.make .standard []
    let m : Matcher := .ant ⟨"/**", none, true⟩
    let known := some "hasRole('A')"
    let unknown := some "hasRoles('A')"
    let table : LookupTable := ⟨[(m,
      [.requirement (.raw known), .requirement (.raw unknown)])]⟩
    let f := Fault.unknownFunctions ["hasRoles"] "hasRoles('A')"
    (build table h).value = .error f ∧
      ∃ e ∈ table.entries, ∃ text, .requirement (.raw text) ∈ e.2 ∧
        h.validate (.requirement (.raw text)) = .error f ∧
          h.Refusal text f := by
  intro h m known unknown table f
  have hknown : h.validate (.requirement (.raw known)) = .ok () := by
    decide +kernel
  have hunknown : h.validate (.requirement (.raw unknown)) = .error f := by
    decide +kernel
  have hbuild : (build table h).value = .error f := by
    simp [build, validateAll, table, hknown, hunknown, Logged.quiet, bind,
      Except.bind]
  refine ⟨hbuild, (refusal_of_build h).2 table f ?_ hbuild⟩
  intro e he text htext
  obtain rfl := List.mem_singleton.mp he
  let call (name : String) :=
    Tree.call (.name name) [.constant (.text "A")] false
  rcases List.mem_pair.mp htext with htext | htext
  · cases htext
    have hcompile : compile known = .ok (call "hasRole") := by decide +kernel
    exact Expression.not_calls_of_compile hcompile (by decide +kernel)
  · cases htext
    have hcompile : compile unknown = .ok (call "hasRoles") := by decide +kernel
    exact Expression.not_calls_of_compile hcompile (by decide +kernel)

/-- A text with a null character is no expression, and is not refused as an
invalid one. -/
theorem compile_nullCharacter :
    let s := "permitAll\x00"
    let table : LookupTable :=
      ⟨[(.ant ⟨"/**", none, true⟩, [.requirement (.raw (some s))])]⟩
    compile (some s) = .error .nullCharacter ∧
      (Source.build table (.make .standard [])).value = .error .nullCharacter ∧
      Fault.nullCharacter.kind? = none ∧
      ¬ ∀ s, (∃ t, compile (some s) = .ok t) ∨
        ∃ f, compile (some s) = .error f ∧
          f.kind? = some .invalidExpression := by
  intro s table
  have hcompile : compile (some s) = .error .nullCharacter := by
    decide +kernel
  have hbuild : (Source.build table (.make .standard [])).value =
      .error .nullCharacter := by
    simp [Source.build, Source.validateAll, table, Handler.validate, hcompile,
      Logged.quiet, bind, Except.bind]
  refine ⟨hcompile, hbuild, rfl, ?_⟩
  intro hall
  rcases hall s with ⟨t, ht⟩ | ⟨f, hf, hkind⟩
  · rw [hcompile] at ht
    cases ht
  · rw [hcompile] at hf
    obtain rfl := Except.error.inj hf
    cases hkind

end AccessRules
