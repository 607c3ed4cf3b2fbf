import AccessRules.Proofs.Builder.Session
import AccessRules.Proofs.Decision.Polling

/-!
# Decisions after a successful set-up

A source is created only after all its attributes were validated by its handler,
and it never changes afterwards.  So the attributes that a lookup finds are
validated ones.

A manager with the handler of the source therefore has a vote for every request,
and its decision lets the request through or denies access.
-/

namespace AccessRules

/-- A source whose handler has validated all its attributes. -/
def Source.Validated (source : Source) : Prop :=
  ∀ e ∈ source.entries, ∀ a ∈ e.2, source.handler.validate a = .ok ()

namespace Source

theorem validated_of_build {t : LookupTable} {h : Handler} {source : Source}
    (hbuilt : (build t h).value = .ok (some source)) :
    source.Validated ∧ source.handler = h := by
  have hentries : t.entries ≠ [] := by
    intro hempty
    simp [build, hempty] at hbuilt
  cases hvalid : validateAll h (t.entries.flatMap (·.2)) with
  | error f => simp [build, hentries, hvalid, Logged.quiet] at hbuilt
  | ok _ =>
    have hsource : ⟨t.entries, h⟩ = source := by
      simpa [build, hentries, hvalid] using hbuilt
    subst hsource
    refine ⟨?_, rfl⟩
    intro e he a ha
    have hmem : a ∈ t.entries.flatMap (·.2) :=
      List.mem_flatMap.mpr ⟨e, he, ha⟩
    exact Outcome.forM_eq_ok_iff.mp hvalid a hmem

/-- A builder creates sources for its own handler. -/
theorem validated_of_createSource {b : Builder} {source : Source}
    (hcreated : b.createSource.value.1 = .ok (some source)) :
    source.Validated ∧ source.handler = b.handler := by
  simp only [Builder.createSource, Logged.andThen] at hcreated
  split at hcreated
  · cases hcreated
  · exact validated_of_build hcreated

/-- What a lookup finds are the attributes of an entry. -/
theorem mem_entries_of_lookup {source : Source} {r : Request}
    {attributes : List Attribute}
    (hfound : (source.lookup r).value = some attributes) :
    ∃ e ∈ source.entries, e.2 = attributes := by
  simp only [lookup, Option.map_eq_some_iff] at hfound
  obtain ⟨e, he, hattributes⟩ := hfound
  exact ⟨e, List.mem_of_find?_eq_some he, hattributes⟩

end Source

namespace Session

/-- All sources of a session are validated. -/
theorem validated_of_mem_sources {settings : Settings}
    {actions : List Action} {source : Source}
    (hsource : source ∈ ((start settings).run actions).sources) :
    source.Validated := by
  refine run_induction (motive := fun s =>
    ∀ source ∈ s.sources, source.Validated)
    ?_ ?_ actions source hsource
  · intro source hsource
    cases hsource
  · intro s a hsources source hsource
    rcases sources_step s a with hsame | ⟨created, hcreated, hmore⟩
    · rw [hsame] at hsource
      exact hsources source hsource
    · rw [hmore, List.mem_append, List.mem_singleton] at hsource
      rcases hsource with hsource | rfl
      · exact hsources source hsource
      · exact (Source.validated_of_createSource hcreated).1

/-- A successful creation adds a source with the handler of the builder. -/
theorem exists_source_of_created {s : Session}
    (hcreated : (s.step .createSource).2.sources ≠ s.sources) :
    ∃ source ∈ (s.step .createSource).2.sources,
      (s.step .createSource).2.builder.handler = source.handler := by
  rcases sources_step s .createSource with hsame | ⟨source, hsource, hmore⟩
  · exact absurd hsame hcreated
  · refine ⟨source, ?_, ?_⟩
    · rw [hmore]
      exact List.mem_append_right _ (List.mem_singleton_self source)
    · rw [handler_step, (Source.validated_of_createSource hsource).2]
      rfl

/-- After any session, a manager with the handler of a source decides on what
the source finds for a request, and no other error than a denial of access comes
out. -/
theorem decide_of_mem_sources {settings : Settings} {actions : List Action}
    {source : Source} {b : Builder}
    (hsource : source ∈ ((start settings).run actions).sources)
    (hhandler : b.handler = source.handler) (c : Context) :
    ∃ vote : Vote,
      (b.manager.poll c (source.lookup c.request).value).outcome.value =
        .ok vote ∧
      (b.manager.decide c (source.lookup c.request).value = .ok () ∨
        b.manager.decide c (source.lookup c.request).value =
          .error (.denied c.request.method c.request.path
            c.security.principal vote.name)) := by
  have hvoters : ∀ as, (source.lookup c.request).value = some as →
      ∀ v ∈ b.manager.voters, v.FailsSafely c as := by
    intro as has v hv
    obtain ⟨e, he, rfl⟩ := Source.mem_entries_of_lookup has
    obtain rfl : v = .expression b.handler := List.mem_singleton.mp hv
    rw [hhandler]
    exact Voter.failsSafely_expression
      (validated_of_mem_sources hsource e he)
  obtain ⟨vote, hvote⟩ := Manager.poll_ok hvoters
  exact ⟨vote, hvote, Manager.decide_of_poll_ok hvote⟩

/-- A session whose source was validated by a handler with an added function
that always fails. -/
theorem decide_of_mem_sources_install :
    let h := Handler.make .standard
      [("isOwner", fun _ _ => .error (.other "KeyError" "'owner'"))]
    let actions := [.install h, .openGroup (.ant ["/admin/**"] none),
      .access 0 (.access "hasRole('ADMIN') or isOwner(1)")]
    let s := (start .standard).run (actions ++ [.createSource])
    ∃ source ∈ s.sources, s.builder.handler = source.handler ∧
      ∀ c : Context, ∃ vote : Vote,
        (s.builder.manager.poll c
          (source.lookup c.request).value).outcome.value = .ok vote ∧
        (s.builder.manager.decide c (source.lookup c.request).value = .ok () ∨
          s.builder.manager.decide c (source.lookup c.request).value =
            .error (.denied c.request.method c.request.path
              c.security.principal vote.name)) := by
  intro h actions s
  have hs : s = (((start .standard).run actions).step .createSource).2 :=
    run_concat _ _ _
  have hone : s.sources.length = 1 := by decide +kernel
  have hnone : ((start .standard).run actions).sources.length = 0 := by
    decide +kernel
  have hcreated : s.sources ≠ ((start .standard).run actions).sources := by
    intro hsame
    rw [hsame, hnone] at hone
    cases hone
  obtain ⟨source, hsource, hhandler⟩ := exists_source_of_created (hs ▸ hcreated)
  rw [← hs] at hsource hhandler
  exact ⟨source, hsource, hhandler, decide_of_mem_sources hsource hhandler⟩

end Session

end AccessRules
