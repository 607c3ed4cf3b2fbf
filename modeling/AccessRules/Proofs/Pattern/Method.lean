import AccessRules.Proofs.Pattern.Subtree
import AccessRules.Proofs.Text.Upper

/-!
# Methods of requests and of matchers

Requests and matchers keep their methods in upper case, each for itself.  Both
do it in the same way, and doing it again changes nothing.  So a matcher asks a
request for its method as it was sent, up to letter case, and a request is built
again from its own fields.

This also holds where letter case is no matter of single letters: a sharp s and
two of the letter s are the same method.
-/

namespace AccessRules

/-! ## Requests from fields -/

namespace Request

/-- The fields of a request. -/
def fields (method path : String) (remoteAddress : Option String) : Value :=
  .dict [("method", .text method), ("path", .text path),
    ("remote_address", .ofText? remoteAddress)]

theorem ofValue_fields (method path : String) (remoteAddress : Option String) :
    ofValue (fields method path remoteAddress) =
      .ok (make method path remoteAddress) := by
  cases remoteAddress with
  | none => rfl
  | some address => rfl

theorem withoutQuery_ne_empty (path : String) : withoutQuery path ≠ "" := by
  intro h
  rw [withoutQuery] at h
  split at h
  · exact absurd h (by decide)
  · next cs hne =>
    rw [← String.toList_inj, String.toList_ofList] at h
    exact hne h

theorem withoutQuery_withoutQuery (path : String) :
    withoutQuery (withoutQuery path) = withoutQuery path :=
  Pattern.withoutQuery_eq_self (withoutQuery_ne_empty path)
    (Pattern.notMem_withoutQuery path)

/-- A request is built again from what it keeps. -/
theorem make_make (method path : String) (remoteAddress : Option String) :
    let r := make method path remoteAddress
    make r.method r.path r.remoteAddress = r := by
  intro r
  simp only [r, make, Text.upper_upper, withoutQuery_withoutQuery]

end Request

/-! ## Methods -/

theorem normalMethod_of_ne_empty {method : String} (h : method ≠ "") :
    normalMethod (some method) = some (Text.upper method) :=
  if_neg h

/-- Two methods are kept alike if they are the same up to letter case. -/
theorem normalMethod_eq_iff {method other : String} :
    normalMethod (some method) = normalMethod (some other) ↔
      Text.upper method = Text.upper other := by
  by_cases hmethod : method = ""
  · subst hmethod
    by_cases hother : other = ""
    · simp [hother]
    · have hupper : Text.upper other ≠ "" :=
        mt Text.upper_eq_empty_iff.mp hother
      rw [normalMethod_of_ne_empty hother, Text.upper_eq_empty_iff.mpr rfl]
      simp [normalMethod, Ne.symm hupper]
  · by_cases hother : other = ""
    · have hupper : Text.upper method ≠ "" :=
        mt Text.upper_eq_empty_iff.mp hmethod
      rw [hother, normalMethod_of_ne_empty hmethod,
        Text.upper_eq_empty_iff.mpr rfl]
      simp [normalMethod, hupper]
    · rw [normalMethod_of_ne_empty hmethod, normalMethod_of_ne_empty hother,
        Option.some.injEq]

/-- A request is asked for its method as it was sent, up to letter case. -/
theorem admitsMethod_make_iff {method : String} (h : method ≠ "")
    (sent path : String) (address : Option String) :
    admitsMethod (normalMethod (some method)) (.make sent path address) = true ↔
      Text.upper method = Text.upper sent := by
  rw [normalMethod_of_ne_empty h, admitsMethod, beq_iff_eq,
    Request.make, eq_comm]

/-! ## Matchers with a method -/

/-- What a matcher asks of the path: a path pattern or a regular expression,
with its letter case. -/
inductive PathForm where
  | ant (pattern : String) (caseSensitive : Bool)
  | regex (pattern : String) (caseInsensitive : Bool)

namespace PathForm

/-- The matcher for a path and a method. -/
def make (form : PathForm) (method : Option String) : Except Fault Matcher :=
  match form with
  | ant pattern caseSensitive =>
    (AntMatcher.make pattern method caseSensitive).map .ant
  | regex pattern caseInsensitive =>
    (RegexMatcher.make pattern method caseInsensitive).map .regex

/-- The matcher that keeps a method. -/
def keeping (form : PathForm) (kept : Option String) : Matcher :=
  match form with
  | ant pattern caseSensitive => .ant ⟨pattern, kept, caseSensitive⟩
  | regex pattern caseInsensitive => .regex ⟨pattern, kept, caseInsensitive⟩

variable {form : PathForm} {free : Matcher}

/-- Whether a matcher can be built does not depend on the method. -/
theorem make_eq_ok (hfree : form.make none = .ok free)
    (method : Option String) :
    form.make method = .ok (form.keeping (normalMethod method)) := by
  cases form with
  | ant pattern caseSensitive =>
    by_cases hpattern : pattern = ""
    · rw [make, AntMatcher.make, if_pos hpattern] at hfree
      cases hfree
    · rw [make, AntMatcher.make, if_neg hpattern]
      rfl
  | regex pattern caseInsensitive =>
    rw [make, RegexMatcher.make] at hfree ⊢
    cases hnode : Regex.ofPattern pattern caseInsensitive with
    | error f =>
      rw [hnode] at hfree
      cases hfree
    | ok node => rfl

theorem keeping_injective (form : PathForm) {kept kept' : Option String} :
    form.keeping kept = form.keeping kept' ↔ kept = kept' := by
  cases form with
  | ant => simp [keeping]
  | regex => simp [keeping]

/-- A matcher with a method asks for the method and for what it asks for without
one. -/
theorem selects_keeping (form : PathForm) (kept : Option String) (r : Request) :
    (form.keeping kept).selects r =
      (admitsMethod kept r && (form.keeping none).selects r) := by
  cases form with
  | ant => simp [keeping, Matcher.selects, AntMatcher.selects, admitsMethod]
  | regex => simp [keeping, Matcher.selects, RegexMatcher.selects, admitsMethod]

end PathForm

/-- A request has a path without a query, and is built again from its own
fields.

A matcher that can be built without a method can be built with any.  With a
method that is not empty it selects the requests that were sent with this
method, up to letter case, and that it selects without one; so with the method
of a request it selects this request if it does without.  And with two methods
it is the same matcher if and only if the methods are the same up to letter
case.

A regular expression with an escape by name is none that a matcher is built for;
see `Regex.Escape.readCommon`. -/
theorem request_and_matchers_of_methods (sent path : String)
    (address : Option String) :
    ∃ r : Request, Request.ofValue (Request.fields sent path address) = .ok r ∧
      r.path ≠ "" ∧ '?' ∉ r.path.toList ∧
      Request.ofValue (Request.fields r.method r.path r.remoteAddress) = .ok r ∧
      ∀ (form : PathForm) (free : Matcher), form.make none = .ok free →
        (∀ method, method ≠ "" → ∃ m, form.make (some method) = .ok m ∧
          (m.selects r = true ↔
            Text.upper method = Text.upper sent ∧ free.selects r = true)) ∧
        (r.method ≠ "" → ∃ m, form.make (some r.method) = .ok m ∧
          m.selects r = free.selects r) ∧
        ∀ method other, ∃ m n, form.make (some method) = .ok m ∧
          form.make (some other) = .ok n ∧
          (m = n ↔ Text.upper method = Text.upper other) := by
  let r := Request.make sent path address
  refine ⟨r, Request.ofValue_fields sent path address,
    Request.withoutQuery_ne_empty path, Pattern.notMem_withoutQuery path,
    ?_, ?_⟩
  · rw [Request.ofValue_fields]
    exact congrArg _ (Request.make_make sent path address)
  · intro form free hfree
    obtain rfl : form.keeping none = free :=
      Except.ok.inj ((PathForm.make_eq_ok hfree none).symm.trans hfree)
    have hselects : ∀ method, method ≠ "" →
        ((form.keeping (normalMethod (some method))).selects r = true ↔
          Text.upper method = Text.upper sent ∧
            (form.keeping none).selects r = true) := by
      intro method hmethod
      rw [PathForm.selects_keeping, Bool.and_eq_true,
        admitsMethod_make_iff hmethod]
    refine ⟨?_, ?_, ?_⟩
    · intro method hmethod
      exact ⟨_, PathForm.make_eq_ok hfree _, hselects method hmethod⟩
    · intro hmethod
      refine ⟨_, PathForm.make_eq_ok hfree _, ?_⟩
      have hown : Text.upper r.method = Text.upper sent := Text.upper_upper sent
      rw [Bool.eq_iff_iff, hselects r.method hmethod]
      exact and_iff_right hown
    · intro method other
      refine ⟨_, _, PathForm.make_eq_ok hfree _,
        PathForm.make_eq_ok hfree _, ?_⟩
      rw [PathForm.keeping_injective, normalMethod_eq_iff]

/-- A method with a letter that two letters stand for in upper case. -/
theorem request_and_matchers_of_methods_sharp :
    let form := PathForm.ant "/a/*" true
    let free : Matcher := .ant ⟨"/a/*", none, true⟩
    form.make none = .ok free ∧ "Spaß" ≠ "" ∧
      ∃ r m : _,
        Request.ofValue (Request.fields "spaSS" "/a/b?c" none) = .ok r ∧
        form.make (some "Spaß") = .ok m ∧ m.selects r = true := by
  intro form free
  have hfree : form.make none = .ok free := by decide +kernel
  have hne : "Spaß" ≠ "" := by decide
  obtain ⟨r, hr, -, -, -, hmatchers⟩ :=
    request_and_matchers_of_methods "spaSS" "/a/b?c" none
  obtain ⟨m, hm, hselects⟩ := (hmatchers form free hfree).1 "Spaß" hne
  refine ⟨hfree, hne, r, m, hr, hm, hselects.mpr ⟨by decide +kernel, ?_⟩⟩
  have hmake : r = ⟨"SPASS", "/a/b", none⟩ := by
    have hbuilt : Request.ofValue (Request.fields "spaSS" "/a/b?c" none) =
        .ok ⟨"SPASS", "/a/b", none⟩ := by
      decide +kernel
    exact Except.ok.inj (hr.symm.trans hbuilt)
  rw [hmake]
  decide +kernel

end AccessRules
