import AccessRules.Decision.Voter

/-!
# Decisions

A manager asks its voters one after the other until one grants access.  Access
is granted in that case only, or if nobody denies it and the manager is told to
grant access then.

An error of evaluation counts as a denial, and is reported.  Any other error
ends the poll.
-/

namespace AccessRules

/-- The voters and what happens if none has an opinion. -/
structure Manager where
  voters : List Voter
  allowIfAllAbstain : Bool

/-- The outcome of asking voters, and how many of them were asked. -/
structure Poll where
  outcome : Logged (Except Fault Vote)
  asked : Nat

namespace Manager

/-- The manager of some voters, of whom there must be at least one. -/
def make (voters : List Voter) (allowIfAllAbstain : Bool) :
    Except Fault Manager :=
  if voters.isEmpty then .error .noVoters else .ok ⟨voters, allowIfAllAbstain⟩

/-- The report that an evaluation failed. -/
def failure (r : Request) (f : Fault) : Record :=
  ⟨.warning, .decision,
    "Evaluation failed for " ++ r.method ++ " " ++ r.path ++ " (" ++
      f.message ++ "); treating as deny"⟩

/-- Asks voters, given whether one has denied before. -/
def ask (c : Context) (attributes : List Attribute) (denied : Bool) :
    List Voter → Poll
  | [] => ⟨.quiet (.ok (if denied then .denied else .abstain)), 0⟩
  | v :: vs =>
    let answer := v.vote c attributes
    let goOn (denied : Bool) (more : List Record) : Poll :=
      let rest := ask c attributes denied vs
      ⟨⟨rest.outcome.value, answer.records ++ more ++ rest.outcome.records⟩,
        rest.asked + 1⟩
    match answer.value with
    | .ok .granted => ⟨answer, 1⟩
    | .ok .denied => goOn true []
    | .ok .abstain => goOn denied []
    | .error f =>
      if f.isEvaluation then goOn true [failure c.request f] else ⟨answer, 1⟩

/-- The joint vote of all voters.  Nobody is asked about a request that no rule
governs. -/
def poll (m : Manager) (c : Context) (attributes : Option (List Attribute)) :
    Poll :=
  match attributes with
  | none => ⟨.quiet (.ok .abstain), 0⟩
  | some as => ask c as false m.voters

/-- What a joint vote means for the request. -/
def verdict (m : Manager) (c : Context) : Vote → Except Fault Unit
  | .granted => .ok ()
  | .abstain => if m.allowIfAllAbstain then .ok () else .error (denial .abstain)
  | .denied => .error (denial .denied)
where
  /-- The fault of a request that is not let through. -/
  denial (v : Vote) : Fault :=
    .denied c.request.method c.request.path c.security.principal v.name

/-- Lets a request through, or not. -/
def decide (m : Manager) (c : Context) (attributes : Option (List Attribute)) :
    Except Fault Unit := do
  let v ← (m.poll c attributes).outcome.value
  m.verdict c v

end Manager

end AccessRules
