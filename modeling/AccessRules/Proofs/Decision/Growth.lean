import AccessRules.Proofs.Decision.Conjunction
import AccessRules.Proofs.Handler.Growth

/-!
# More authorities never lose access

A manager that asks the expression voter alone grants access where all
requirements hold.  Requirements that hold still do with further authorities, if
the raw expressions among them are positive.  So whoever is let through is also
let through with further authorities.

With more authorities other parts of an expression are evaluated, and they do
not fail: this needs the address of the client.
-/

namespace AccessRules.Manager

variable {m : Manager} {h : Handler} {s s' : Security} {q : Request}
  {attributes : List Attribute}

/-- Whoever is granted access, or let through, also is with further authorities.

Escapes by name are not read, and those of surrogates all give the replacement
character; see `Expression.Escape.read`. -/
theorem granted_of_extends (hm : m.voters = [.expression h])
    (hs : s'.Extends s) (haddress : q.remoteAddress ≠ none)
    (hpositive : ∀ text, .requirement (.raw text) ∈ attributes →
      h.IsPositive text) :
    let vote (s : Security) := (m.poll ⟨s, q⟩ (some attributes)).outcome.value
    (vote s = .ok .granted → vote s' = .ok .granted) ∧
      (m.decide ⟨s, q⟩ (some attributes) = .ok () →
        m.decide ⟨s', q⟩ (some attributes) = .ok ()) := by
  intro vote
  have hraw : ∀ r, .requirement r ∈ attributes →
      ∀ text, r = .raw text → h.IsPositive text := by
    rintro r hr text rfl
    exact hpositive text hr
  have hsafe : ∀ c r, .requirement r ∈ attributes →
      ∀ f, h.evaluate c r = .error f → f.isEvaluation = true :=
    fun c r hr f => Handler.isEvaluation_of_validate
      (Handler.validate_of_isPositive (hraw r hr))
  obtain ⟨habstain, hgranted, -⟩ := poll_expression_iff hm (hsafe ⟨s, q⟩)
  obtain ⟨habstain', hgranted', -⟩ := poll_expression_iff hm (hsafe ⟨s', q⟩)
  have hgrows : vote s = .ok .granted → vote s' = .ok .granted := by
    intro hvote
    obtain ⟨hsome, hall⟩ := hgranted.mp hvote
    refine hgranted'.mpr ⟨hsome, ?_⟩
    intro r hr
    exact Handler.evaluate_of_extends hs haddress (hraw r hr) (hall r hr)
  refine ⟨hgrows, ?_⟩
  rw [decide_eq_ok_iff, decide_eq_ok_iff]
  rintro (hvote | ⟨hvote, hallow⟩)
  · exact Or.inl (hgrows hvote)
  · exact Or.inr ⟨habstain'.mpr (habstain.mp hvote), hallow⟩

/-- With the role `B`, the address is looked at as well, and does not fit. -/
theorem granted_of_extends_address :
    let h := Handler.make .standard []
    let m : Manager := ⟨[.expression h], false⟩
    let s : Security := ⟨some "bob", ["ROLE_A"], false, false⟩
    let s' : Security := ⟨some "bob", ["ROLE_B", "ROLE_A"], false, false⟩
    let q : Request := ⟨"GET", "/x", some "192.168.0.1"⟩
    let text :=
      "(hasRole('B') and hasIpAddress('10.0.0.0/8') or hasAnyRole('A')) and not anonymous != rememberMe"
    let attributes : List Attribute :=
      [.token "audit", .requirement (.role "A" "ROLE_"),
        .requirement (.raw (some text))]
    m.voters = [.expression h] ∧ s'.Extends s ∧ q.remoteAddress ≠ none ∧
      (∀ text, .requirement (.raw text) ∈ attributes → h.IsPositive text) ∧
      (m.poll ⟨s, q⟩ (some attributes)).outcome.value = .ok .granted ∧
      (m.poll ⟨s', q⟩ (some attributes)).outcome.value = .ok .granted ∧
      m.decide ⟨s', q⟩ (some attributes) = .ok () := by
  intro h m s s' q text attributes
  have hm : m.voters = [.expression h] := rfl
  have hs : s'.Extends s := ⟨rfl, rfl, rfl, List.subset_cons_self _ _⟩
  have haddress : q.remoteAddress ≠ none := by decide
  let t : Expression.Tree := .conj
    [.disj
      [.conj
        [.call (.name "hasRole") [.constant (.text "B")] false,
          .call (.name "hasIpAddress") [.constant (.text "10.0.0.0/8")] false],
        .call (.name "hasAnyRole") [.constant (.text "A")] false],
      .negation
        (.comparison (.name "anonymous") [(.unequal, .name "rememberMe")])]
  have ht : Expression.compile (some text) = .ok t := by decide +kernel
  have hvalid : h.validate (.requirement (.raw (some text))) = .ok () := by
    rw [Handler.validate, ht]
    decide +kernel
  have hpositive : ∀ text, .requirement (.raw text) ∈ attributes →
      h.IsPositive text := by
    intro text' htext
    obtain rfl : text' = some text := by simpa [attributes] using htext
    exact ⟨hvalid, t, ht,
      Handler.positive_of_walk trivial (by decide +kernel) (by decide +kernel)⟩
  have hvote : (m.poll ⟨s, q⟩ (some attributes)).outcome.value =
      .ok .granted := by
    refine poll_expression_of_forall hm
      ⟨.role "A" "ROLE_", by simp [attributes]⟩ ?_
    intro r hr
    obtain rfl | rfl : r = .role "A" "ROLE_" ∨ r = .raw (some text) := by
      simpa [attributes] using hr
    · rfl
    · rw [Handler.evaluate_raw _ ht]
      decide +kernel
  have hdecide : m.decide ⟨s, q⟩ (some attributes) = .ok () :=
    decide_eq_ok_iff.mpr (Or.inl hvote)
  obtain ⟨hgranted, hok⟩ := granted_of_extends hm hs haddress hpositive
  exact ⟨hm, hs, haddress, hpositive, hvote, hgranted hvote, hok hdecide⟩

end AccessRules.Manager
