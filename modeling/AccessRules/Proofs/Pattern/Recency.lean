import AccessRules.Pattern.Cache
import AccessRules.Proofs.Outcome
import Mathlib.Data.List.Dedup
import Mathlib.Data.List.DropRight

/-!
# What a cache keeps

A cache that only ever answers requests is determined by the requests so far.
It keeps the keys that were asked for last and could be built, each of them once
and the latest first, up to its capacity.  Every request is counted once, as a
hit if its key is kept at that moment and as a miss otherwise.

The answer is always the one that is built afresh.  So matchers select the same
requests by way of the caches as without them, whatever happened before.
-/

namespace AccessRules.Pattern

namespace Cache

variable {κ ν ε : Type} [DecidableEq κ]

/-- The keys that a cache holds. -/
def keys (c : Cache κ ν) : List κ := c.entries.map (·.1)

/-- The distinct keys that can be built among those that were asked for, the
latest first. -/
def latest (build : κ → Except ε ν) (requests : List κ) : List κ :=
  (requests.filter fun key => (build key).isOk).dedup.reverse

/-- What a cache is after some requests. -/
structure Reflects (c : Cache κ ν) (build : κ → Except ε ν)
    (requests : List κ) : Prop where
  count : c.hits + c.misses = requests.length
  keys : c.keys = (latest build requests).take capacity
  values : ∀ e ∈ c.entries, build e.1 = .ok e.2

/-! ## Lists of distinct keys -/

theorem dedup_concat (xs : List κ) (x : κ) :
    (xs ++ [x]).dedup = xs.dedup.filter (· ≠ x) ++ [x] := by
  induction xs with
  | nil => simp
  | cons y xs ih =>
    rw [List.cons_append]
    by_cases hy : y ∈ xs
    · rw [List.dedup_cons_of_mem (List.mem_append_left _ hy),
        List.dedup_cons_of_mem hy, ih]
    · rw [List.dedup_cons_of_notMem hy, List.filter_cons]
      by_cases hyx : y = x
      · subst hyx
        rw [List.dedup_cons_of_mem (by simp), ih]
        simp
      · rw [List.dedup_cons_of_notMem (by simp [hy, hyx]), ih]
        simp [hyx]

theorem latest_concat_of_ok {build : κ → Except ε ν} {key : κ} {v : ν}
    (hkey : build key = .ok v) (requests : List κ) :
    latest build (requests ++ [key]) =
      key :: (latest build requests).filter (· ≠ key) := by
  have hok : (build key).isOk = true := by rw [hkey]; rfl
  simp [latest, List.filter_append, hok, dedup_concat, List.filter_reverse]

theorem latest_concat_of_error {build : κ → Except ε ν} {key : κ} {e : ε}
    (hkey : build key = .error e) (requests : List κ) :
    latest build (requests ++ [key]) = latest build requests := by
  have hfails : (build key).isOk = false := by rw [hkey]; rfl
  simp [latest, List.filter_append, hfails]

theorem nodup_latest (build : κ → Except ε ν) (requests : List κ) :
    (latest build requests).Nodup :=
  List.nodup_reverse.mpr (List.nodup_dedup _)

theorem filter_ne_eq_self {xs : List κ} {x : κ} (hx : x ∉ xs) :
    xs.filter (· ≠ x) = xs := by
  rw [List.filter_eq_self]
  intro y hy
  simpa using ne_of_mem_of_not_mem hy hx

/-- One member less at the front of a list makes room for one member more. -/
theorem take_filter_take {xs : List κ} (hxs : xs.Nodup) (x : κ) (n : ℕ) :
    ((xs.take (n + 1)).filter (· ≠ x)).take n = (xs.filter (· ≠ x)).take n := by
  induction xs generalizing n with
  | nil => simp
  | cons y ys ih =>
    obtain ⟨hy, hys⟩ := List.nodup_cons.mp hxs
    by_cases hyx : y = x
    · subst hyx
      have hfront : y ∉ ys.take n := fun h => hy (List.mem_of_mem_take h)
      rw [List.take_succ_cons, List.filter_cons_of_neg (by simp),
        List.filter_cons_of_neg (by simp), filter_ne_eq_self hfront,
        filter_ne_eq_self hy, List.take_take, Nat.min_self]
    · rw [List.take_succ_cons, List.filter_cons_of_pos (by simpa using hyx),
        List.filter_cons_of_pos (by simpa using hyx)]
      cases n with
      | zero => rfl
      | succ n => rw [List.take_succ_cons, List.take_succ_cons, ih hys]

/-! ## One request -/

section

variable {c : Cache κ ν} {build : κ → Except ε ν} {key : κ}

theorem exists_lookup_of_mem (h : key ∈ c.keys) :
    ∃ v, c.entries.lookup key = some v ∧ (key, v) ∈ c.entries := by
  obtain ⟨v, hv⟩ : ∃ v, c.entries.lookup key = some v := by
    rw [← Option.isSome_iff_exists, List.lookup_isSome_iff]
    obtain ⟨e, he, rfl⟩ := List.mem_map.mp h
    exact ⟨e, he, beq_self_eq_true _⟩
  obtain ⟨before, after, hsplit, -⟩ := List.lookup_eq_some_iff.mp hv
  exact ⟨v, hv, by simp [hsplit]⟩

theorem lookup_of_notMem (h : key ∉ c.keys) :
    c.entries.lookup key = none := by
  rw [List.lookup_eq_none_iff]
  intro e he
  have hne : key ≠ e.1 := by
    rintro rfl
    exact h (List.mem_map_of_mem he)
  simpa using hne

/-- A key that is kept moves to the front. -/
theorem request_of_mem (build : κ → Except ε ν) (h : key ∈ c.keys) :
    ∃ v, (key, v) ∈ c.entries ∧ c.request key build =
      (.ok v, ⟨(key, v) :: c.entries.filter (·.1 ≠ key), c.hits + 1,
        c.misses⟩) := by
  obtain ⟨v, hv, hmem⟩ := exists_lookup_of_mem h
  exact ⟨v, hmem, by rw [request, hv]⟩

theorem request_of_ok (h : key ∉ c.keys) {v : ν} (hv : build key = .ok v) :
    c.request key build =
      (.ok v, ⟨((key, v) :: c.entries).take capacity, c.hits,
        c.misses + 1⟩) := by
  rw [request, lookup_of_notMem h, hv]

theorem request_of_error (h : key ∉ c.keys) {e : ε}
    (he : build key = .error e) :
    c.request key build = (.error e, { c with misses := c.misses + 1 }) := by
  rw [request, lookup_of_notMem h, he]

/-- A request is a hit if its key is kept, and a miss otherwise. -/
theorem counts_request (c : Cache κ ν) (build : κ → Except ε ν) (key : κ) :
    (c.request key build).2.hits = c.hits + (if key ∈ c.keys then 1 else 0) ∧
      (c.request key build).2.misses =
        c.misses + (if key ∈ c.keys then 0 else 1) := by
  by_cases h : key ∈ c.keys
  · obtain ⟨v, -, hrequest⟩ := request_of_mem build h
    simp [hrequest, h]
  · cases hbuild : build key with
    | ok v => simp [request_of_ok h hbuild, h]
    | error e => simp [request_of_error h hbuild, h]

namespace Reflects

variable {requests : List κ}

/-- A key that cannot be built is not kept. -/
theorem notMem_of_error (h : c.Reflects build requests) {e : ε}
    (he : build key = .error e) :
    key ∉ c.keys := by
  intro hmem
  obtain ⟨v, -, hv⟩ := exists_lookup_of_mem hmem
  have hbuilt := h.values (key, v) hv
  rw [he] at hbuilt
  cases hbuilt

/-- A cache holds all distinct keys that could be built, or as many as there is
room for. -/
theorem length_entries (h : c.Reflects build requests) :
    c.entries.length = min capacity (latest build requests).length := by
  rw [← List.length_take, ← h.keys, Cache.keys, List.length_map]

/-- The answer to a request is the value that is built afresh. -/
theorem answer_eq (h : c.Reflects build requests) (key : κ) :
    (c.request key build).1 = build key := by
  by_cases hmem : key ∈ c.keys
  · obtain ⟨v, hv, hrequest⟩ := request_of_mem build hmem
    rw [hrequest, h.values (key, v) hv]
  · cases hbuild : build key with
    | ok v => rw [request_of_ok hmem hbuild]
    | error e => rw [request_of_error hmem hbuild]

/-- A request that fails counts as a miss, and nothing else changes. -/
theorem request_eq_of_error (h : c.Reflects build requests) {e : ε}
    (he : build key = .error e) :
    (c.request key build).2 = { c with misses := c.misses + 1 } := by
  rw [request_of_error (h.notMem_of_error he) he]

theorem keys_request_of_ok (h : c.Reflects build requests) {v : ν}
    (hv : build key = .ok v) :
    (c.request key build).2.keys =
      (key :: (latest build requests).filter (· ≠ key)).take capacity := by
  have hfront :=
    take_filter_take (nodup_latest build requests) key (capacity - 1)
  change ((List.take capacity _).filter _).take _ = _ at hfront
  rw [← h.keys] at hfront
  rw [List.take_cons (by decide), ← hfront]
  by_cases hmem : key ∈ c.keys
  · obtain ⟨w, -, hrequest⟩ := request_of_mem build hmem
    have hfewer : (c.keys.filter (· ≠ key)).length < c.keys.length :=
      List.length_filter_lt_length_iff_exists.mpr ⟨key, hmem, by simp⟩
    have hlength : c.keys.length ≤ capacity := by
      rw [h.keys]
      exact List.length_take_le _ _
    rw [List.take_of_length_le (by omega), hrequest]
    simp [Cache.keys, List.filter_map, Function.comp_def]
  · rw [request_of_ok hmem hv, filter_ne_eq_self hmem, Cache.keys,
      List.map_take, List.map_cons, List.take_cons (by decide)]
    rfl

theorem count_request (h : c.Reflects build requests) (key : κ) :
    (c.request key build).2.hits + (c.request key build).2.misses =
      (requests ++ [key]).length := by
  obtain ⟨hhits, hmisses⟩ := counts_request c build key
  rw [hhits, hmisses, List.length_append, List.length_singleton, ← h.count]
  split
  · omega
  · omega

theorem values_request (h : c.Reflects build requests) (key : κ) :
    ∀ e ∈ (c.request key build).2.entries, build e.1 = .ok e.2 := by
  intro e he
  by_cases hmem : key ∈ c.keys
  · obtain ⟨v, hv, hrequest⟩ := request_of_mem build hmem
    rw [hrequest, List.mem_cons] at he
    rcases he with rfl | he
    · exact h.values (key, v) hv
    · exact h.values e (List.mem_of_mem_filter he)
  · cases hbuild : build key with
    | error f =>
      rw [request_of_error hmem hbuild] at he
      exact h.values e he
    | ok v =>
      rw [request_of_ok hmem hbuild] at he
      rcases List.mem_cons.mp (List.mem_of_mem_take he) with rfl | he
      · exact hbuild
      · exact h.values e he

/-- After one more request a cache reflects one request more. -/
theorem request (h : c.Reflects build requests) (key : κ) :
    (c.request key build).2.Reflects build (requests ++ [key]) := by
  refine ⟨h.count_request key, ?_, h.values_request key⟩
  cases hbuild : build key with
  | ok v => rw [h.keys_request_of_ok hbuild, latest_concat_of_ok hbuild]
  | error e =>
    rw [h.request_eq_of_error hbuild, latest_concat_of_error hbuild]
    exact h.keys

end Reflects

theorem reflects_empty (build : κ → Except ε ν) :
    (empty : Cache κ ν).Reflects build [] := by
  refine ⟨rfl, rfl, ?_⟩
  intro e he
  cases he

/-! ## At most one request -/

/-- The cache after it was asked for a key, if there is one. -/
def asked (c : Cache κ ν) (build : κ → Except ε ν) : Option κ → Cache κ ν
  | some key => (c.request key build).2
  | none => c

/-- What it does to a cache to be asked for a key, if there is one. -/
structure Asks (c next : Cache κ ν) (build : κ → Except ε ν)
    (key? : Option κ) : Prop where
  untouched : key? = none → next = c
  counted : ∀ key, key? = some key →
    next.hits = c.hits + (if key ∈ c.keys then 1 else 0) ∧
      next.misses = c.misses + (if key ∈ c.keys then 0 else 1)
  failed : ∀ key e, key? = some key → build key = .error e →
    next = { c with misses := c.misses + 1 }

theorem Reflects.asked {requests : List κ} (h : c.Reflects build requests)
    (key? : Option κ) :
    (c.asked build key?).Reflects build (requests ++ key?.toList) := by
  cases key? with
  | none => simpa [Cache.asked] using h
  | some key => exact h.request key

theorem Reflects.asks {requests : List κ} (h : c.Reflects build requests)
    (key? : Option κ) :
    Asks c (c.asked build key?) build key? := by
  cases key? with
  | none => exact ⟨fun _ => rfl, nofun, nofun⟩
  | some key =>
    refine ⟨nofun, ?_, ?_⟩
    · rintro _ ⟨⟩
      exact counts_request c build key
    · rintro _ e ⟨⟩ he
      exact h.request_eq_of_error he

end

end Cache

namespace Caches

/-! ## Programs that use the caches -/

/-- What a program does with the caches.  A regular expression is asked for when
its matcher is made, and again whenever the matcher looks at a path. -/
inductive Action where
  | clear
  | makeRegex (pattern : String) (method : Option String)
      (caseInsensitive : Bool)
  | selects (m : Matcher) (r : Request)

/-- What a program is answered. -/
inductive Answer where
  | cleared
  | made (m : Except Fault RegexMatcher)
  | selected (b : Bool)
deriving DecidableEq

/-- The answer to an action, and the caches after it. -/
def step (c : Caches) : Action → Answer × Caches
  | .clear => (.cleared, .empty)
  | .makeRegex pattern method caseInsensitive =>
    (.made (c.makeRegex pattern method caseInsensitive).1,
      (c.makeRegex pattern method caseInsensitive).2)
  | .selects m r => (.selected (c.selects r m).1, (c.selects r m).2)

/-- The caches after some actions. -/
def run (c : Caches) (actions : List Action) : Caches :=
  actions.foldl (fun c a => (c.step a).2) c

namespace Action

/-- The answer that an action has without any caches. -/
def freshAnswer : Action → Answer
  | clear => .cleared
  | makeRegex pattern method caseInsensitive =>
    .made (RegexMatcher.make pattern method caseInsensitive)
  | selects m r => .selected (m.selects r)

/-- Whether an action clears the caches. -/
def clears : Action → Bool
  | clear => true
  | _ => false

/-- The key that an action asks the cache of path patterns for. -/
def antKey? : Action → Option (String × Bool)
  | selects (.ant m) r =>
    if admitsMethod m.method r && !selectsAll m.pattern then
      some (m.pattern, m.caseSensitive)
    else none
  | _ => none

/-- The key that an action asks the cache of regular expressions for. -/
def regexKey? : Action → Option (String × Bool)
  | makeRegex pattern _ caseInsensitive => some (pattern, caseInsensitive)
  | selects (.regex m) r =>
    if admitsMethod m.method r then some (m.pattern, m.caseInsensitive)
    else none
  | _ => none

end Action

/-- The regular expression under a key of the cache of path patterns. -/
def buildAnt (key : String × Bool) : Except Fault Regex.Node :=
  .ok (Pattern.node key.2 key.1)

/-- The regular expression under a key of the cache of regular expressions. -/
def buildRegex (key : String × Bool) : Except Fault Regex.Node :=
  Regex.ofPattern key.1 key.2

/-- The keys that actions have asked for since the caches were last cleared. -/
def requestsSince (key? : Action → Option (String × Bool))
    (actions : List Action) : List (String × Bool) :=
  (actions.rtakeWhile (!·.clears)).filterMap key?

/-- The caches after some actions, each with the requests since the last
clearing. -/
structure Reflects (c : Caches) (actions : List Action) : Prop where
  ant : c.ant.Reflects buildAnt (requestsSince Action.antKey? actions)
  regex : c.regex.Reflects buildRegex (requestsSince Action.regexKey? actions)

variable {c : Caches}

/-! ## One action -/

theorem snd_selectsPath (answer : Except Fault Regex.Node × Caches)
    (path : String) :
    (selectsPath answer path).2 = answer.2 := by
  obtain ⟨node | _, c⟩ := answer
  · rfl
  · rfl

theorem fst_selectsPath (answer : Except Fault Regex.Node × Caches)
    (path : String) :
    (selectsPath answer path).1 =
      match answer.1 with
      | .ok node => node.matchesAll path.toList
      | .error _ => false := by
  obtain ⟨node | _, c⟩ := answer
  · rfl
  · rfl

/-- An action that does not clear the caches asks each of them for its key, and
does nothing else to them. -/
theorem step_of_not_clears {a : Action} (ha : a.clears = false) :
    (c.step a).2 = ⟨c.ant.asked buildAnt a.antKey?,
      c.regex.asked buildRegex a.regexKey?⟩ := by
  cases a with
  | clear => cases ha
  | makeRegex pattern method caseInsensitive => rfl
  | selects m r =>
    cases m with
    | any | network _ | other _ => rfl
    | ant m =>
      simp only [step, selects, Action.antKey?, Action.regexKey?]
      cases admitsMethod m.method r with
      | false => rfl
      | true =>
        cases selectsAll m.pattern with
        | true => rfl
        | false => exact snd_selectsPath _ _
    | regex m =>
      simp only [step, selects, Action.antKey?, Action.regexKey?]
      cases admitsMethod m.method r with
      | false => rfl
      | true => exact snd_selectsPath _ _

theorem requestsSince_concat_of_clears (key? : Action → Option (String × Bool))
    {a : Action} (ha : a.clears = true) (actions : List Action) :
    requestsSince key? (actions ++ [a]) = [] := by
  rw [requestsSince, List.rtakeWhile_concat_neg _ _ _ (by simp [ha])]
  rfl

theorem requestsSince_concat (key? : Action → Option (String × Bool))
    {a : Action} (ha : a.clears = false) (actions : List Action) :
    requestsSince key? (actions ++ [a]) =
      requestsSince key? actions ++ (key? a).toList := by
  rw [requestsSince, List.rtakeWhile_concat_pos _ _ _ (by simp [ha]),
    List.filterMap_append, requestsSince]
  cases h : key? a with
  | none => simp [h]
  | some key => simp [h]

/-- One more action leaves the caches with one more action to reflect. -/
theorem Reflects.step {actions : List Action} (h : c.Reflects actions)
    (a : Action) :
    (c.step a).2.Reflects (actions ++ [a]) := by
  cases ha : a.clears with
  | false =>
    constructor
    · rw [step_of_not_clears ha, requestsSince_concat _ ha]
      exact h.ant.asked a.antKey?
    · rw [step_of_not_clears ha, requestsSince_concat _ ha]
      exact h.regex.asked a.regexKey?
  | true =>
    cases a with
    | clear =>
      constructor
      · rw [requestsSince_concat_of_clears _ ha]
        exact Cache.reflects_empty _
      · rw [requestsSince_concat_of_clears _ ha]
        exact Cache.reflects_empty _
    | makeRegex _ _ _ | selects _ _ => cases ha

/-- The answer to an action is the one without caches. -/
theorem Reflects.answer_eq {actions : List Action} (h : c.Reflects actions)
    (a : Action) :
    (c.step a).1 = a.freshAnswer := by
  cases a with
  | clear => rfl
  | makeRegex pattern method caseInsensitive =>
    have hnode : (c.regexNode pattern caseInsensitive).1 =
        Regex.ofPattern pattern caseInsensitive :=
      h.regex.answer_eq (pattern, caseInsensitive)
    simp only [Caches.step, Caches.makeRegex, hnode, Action.freshAnswer,
      RegexMatcher.make]
  | selects m r =>
    cases m with
    | any | network _ | other _ => rfl
    | ant m =>
      have hnode : (c.antNode m.pattern m.caseSensitive).1 =
          .ok (Pattern.node m.caseSensitive m.pattern) :=
        h.ant.answer_eq (m.pattern, m.caseSensitive)
      simp only [Caches.step, Caches.selects, Action.freshAnswer,
        Matcher.selects, AntMatcher.selects, Pattern.selects]
      cases admitsMethod m.method r with
      | false => rfl
      | true =>
        cases selectsAll m.pattern with
        | true => rfl
        | false => simp [fst_selectsPath, hnode]
    | regex m =>
      have hnode : (c.regexNode m.pattern m.caseInsensitive).1 =
          Regex.ofPattern m.pattern m.caseInsensitive :=
        h.regex.answer_eq (m.pattern, m.caseInsensitive)
      simp only [Caches.step, Caches.selects, Action.freshAnswer,
        Matcher.selects, RegexMatcher.selects]
      cases admitsMethod m.method r with
      | false => rfl
      | true =>
        cases hbuild : Regex.ofPattern m.pattern m.caseInsensitive with
        | ok node => simp [fst_selectsPath, hnode, hbuild]
        | error f => simp [fst_selectsPath, hnode, hbuild]

/-! ## All actions -/

theorem reflects_run (actions : List Action) :
    (empty.run actions).Reflects actions := by
  induction actions using List.reverseRecOn with
  | nil => exact ⟨Cache.reflects_empty _, Cache.reflects_empty _⟩
  | append_singleton actions a ih =>
    rw [run, List.foldl_concat]
    exact ih.step a

/-- Whether a matcher decides on a request without looking for its path in a
cache. -/
def decidesAlone (m : Matcher) (r : Request) : Prop :=
  admitsMethod m.method? r = false ∨
    (∃ p, m = .ant p ∧ selectsAll p.pattern = true) ∨
      (∀ p, m ≠ .ant p) ∧ ∀ p, m ≠ .regex p

theorem keys_of_decidesAlone {m : Matcher} {r : Request}
    (h : decidesAlone m r) :
    (Action.selects m r).antKey? = none ∧
      (Action.selects m r).regexKey? = none := by
  cases m with
  | any | network _ | other _ => exact ⟨rfl, rfl⟩
  | ant m =>
    refine ⟨?_, rfl⟩
    rcases h with hmethod | ⟨p, hp, hall⟩ | ⟨hant, -⟩
    · have hmethod : admitsMethod m.method r = false := hmethod
      simp [Action.antKey?, hmethod]
    · cases hp
      simp [Action.antKey?, hall]
    · exact absurd rfl (hant m)
  | regex m =>
    refine ⟨rfl, ?_⟩
    rcases h with hmethod | ⟨p, hp, -⟩ | ⟨-, hregex⟩
    · have hmethod : admitsMethod m.method r = false := hmethod
      simp [Action.regexKey?, hmethod]
    · cases hp
    · exact absurd rfl (hregex m)

/-- After any actions each cache counts the requests since the last clearing,
and holds the latest distinct keys that could be built, as many as there is room
for.  The answer to every further action is the one without caches.  Unless it
clears the caches, the action asks each cache for its key: that is a hit if the
key is held and a miss otherwise, a regular expression that cannot be built
leaves only its miss behind, and a cache that is not asked stays as it is.
Matchers that decide by the method, that select every path, or that do not look
at paths leave both caches alone. -/
theorem caches_of_run (actions : List Action) :
    let c := empty.run actions
    let ants := requestsSince Action.antKey? actions
    let regexes := requestsSince Action.regexKey? actions
    c.ant.Reflects buildAnt ants ∧
    c.ant.entries.length =
      min Cache.capacity (Cache.latest buildAnt ants).length ∧
    c.regex.Reflects buildRegex regexes ∧
    c.regex.entries.length =
      min Cache.capacity (Cache.latest buildRegex regexes).length ∧
    (∀ a, (c.step a).1 = a.freshAnswer) ∧
    (∀ a, a.clears = true → (c.step a).2 = empty) ∧
    (∀ a, a.clears = false →
      Cache.Asks c.ant (c.step a).2.ant buildAnt a.antKey? ∧
        Cache.Asks c.regex (c.step a).2.regex buildRegex a.regexKey?) ∧
    ∀ m r, decidesAlone m r → (c.step (.selects m r)).2 = c := by
  intro c ants regexes
  have h : c.Reflects actions := reflects_run actions
  refine ⟨h.ant, ?_, h.regex, ?_, h.answer_eq, ?_, ?_, ?_⟩
  · exact h.ant.length_entries
  · exact h.regex.length_entries
  · intro a ha
    cases a with
    | clear => rfl
    | makeRegex _ _ _ | selects _ _ => cases ha
  · intro a ha
    rw [step_of_not_clears ha]
    exact ⟨h.ant.asks _, h.regex.asks _⟩
  · intro m r hm
    obtain ⟨hant, hregex⟩ := keys_of_decidesAlone hm
    rw [step_of_not_clears rfl, hant, hregex]
    rfl

/-- A regular expression is asked for when its matcher is made and when the
matcher looks at a path; one that cannot be read is never kept. -/
example :
    let r : Request := ⟨"GET", "/a", none⟩
    let c := empty.run [.makeRegex "/a" none false, .makeRegex "(" none false,
      .selects (.regex ⟨"/a", none, false⟩) r,
      .selects (.regex ⟨"/a", some "PUT", false⟩) r,
      .selects (.ant ⟨"/*", none, true⟩) r,
      .selects (.ant ⟨"/**", none, true⟩) r]
    c.regex.keys = [("/a", false)] ∧ c.regex.hits = 1 ∧ c.regex.misses = 2 ∧
      c.ant.keys = [("/*", true)] ∧ c.ant.hits = 0 ∧ c.ant.misses = 1 := by
  decide +kernel

end Caches

end AccessRules.Pattern
