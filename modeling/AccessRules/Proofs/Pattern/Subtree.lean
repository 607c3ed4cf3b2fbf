import AccessRules.Proofs.Pattern.Language
import AccessRules.Proofs.Rule.Governing
import Mathlib.Data.List.TakeWhile

/-!
# The subtree below a path pattern

A slash and two stars behind a pattern are one more token, whatever the pattern
ends with.  So the longer pattern selects the paths of the shorter one, and with
each of them the paths that go on behind a slash without a line break.

A rule for the longer pattern then governs all these requests, unless a pattern
that was registered before it selects them.  A path that goes on with a line
break is not selected, and is left to the rules behind it.
-/

namespace AccessRules.Pattern

open Regex

variable {same : Char → Char → Prop} {ts us : List Token}

/-! ## One more token -/

theorem head?_append_matchAll_ne {cs : List Char} (h : cs.head? ≠ some '*') :
    (cs ++ matchAll.toList).head? ≠ some '*' := by
  cases cs with
  | nil => decide
  | cons c cs => exact h

/-- No subtree starts at a letter only because the pattern is longer. -/
theorem startsSubtree_of_append_matchAll {cs : List Char}
    (hne : cs ≠ []) (h : StartsSubtree (cs ++ matchAll.toList)) :
    StartsSubtree cs := by
  obtain ⟨ds, hds, hend⟩ := h
  match cs, hne with
  | [a], _ => simp [matchAll] at hds
  | [a, b], _ => simp [matchAll] at hds
  | a :: b :: c :: rest, _ =>
    simp only [List.cons_append, List.cons.injEq] at hds
    obtain ⟨rfl, rfl, rfl, rfl⟩ := hds
    refine ⟨rest, rfl, ?_⟩
    cases rest with
    | nil => exact Or.inl rfl
    | cons d rest =>
      rcases hend with hnil | hhead
      · simp at hnil
      · exact Or.inr hhead

/-- The tokens of a pattern stay the same in front of a slash and two stars. -/
theorem Tokenised.append_matchAll {cs : List Char} (h : Tokenised cs ts) :
    Tokenised (cs ++ matchAll.toList) (ts ++ [.subtree]) := by
  induction h with
  | nil => exact .subtree (Or.inl rfl) .nil
  | @subtree cs ts hend h ih =>
    have hslash : (cs ++ matchAll.toList).head? = some '/' := by
      rcases hend with rfl | hhead
      · rfl
      · rw [List.head?_append, hhead]
        rfl
    exact .subtree (Or.inr hslash) ih
  | anything h ih => exact .anything ih
  | run hstar h ih => exact .run (head?_append_matchAll_ne hstar) ih
  | one h ih => exact .one ih
  | letter hstar hquestion hsubtree h ih =>
    refine .letter hstar hquestion ?_ ih
    intro hstarts
    exact hsubtree (startsSubtree_of_append_matchAll (by simp) hstarts)

theorem tokens_append_matchAll (cs : List Char) :
    tokens (cs ++ matchAll.toList) = tokens cs ++ [.subtree] :=
  (tokenised_tokens cs).append_matchAll.eq_tokens.symm

/-- A path for one more token is a path for the others and a piece for that one
behind it. -/
theorem splits_concat_iff {t : Token} {path : List Char} :
    Splits same (ts ++ [t]) path ↔
      ∃ u v, path = u ++ v ∧ Splits same ts u ∧ t.Accepts same v := by
  constructor
  · rintro ⟨pieces, rfl, hpieces⟩
    have hfront := (List.forall₂_take_append _ ts [t] hpieces.flip).flip
    have hlast := (List.forall₂_drop_append _ ts [t] hpieces.flip).flip
    obtain ⟨v, rest, hv, hrest, hdrop⟩ := List.forall₂_cons_left_iff.mp hlast
    obtain rfl := List.forall₂_nil_left_iff.mp hrest
    refine ⟨(pieces.take ts.length).flatten, v, ?_, ⟨_, rfl, hfront⟩, hv⟩
    calc
      pieces.flatten =
          (pieces.take ts.length ++ pieces.drop ts.length).flatten := by
        rw [List.take_append_drop]
      _ = (pieces.take ts.length).flatten ++ v := by
        rw [hdrop, List.flatten_append, List.flatten_singleton]
  · rintro ⟨_, v, rfl, ⟨pieces, rfl, hpieces⟩, hv⟩
    refine ⟨pieces ++ [v], by simp, ?_⟩
    exact List.rel_append hpieces (.cons hv .nil)

/-! ## Selected paths -/

/-- A pattern other than the two that select everything selects the paths that
split into pieces for its tokens. -/
theorem selects_iff_splits {caseSensitive : Bool} {pattern : String}
    (hall : pattern ≠ "/**") (hanything : pattern ≠ "**") (path : String) :
    selects caseSensitive pattern path = true ↔
      Splits (SameLetter (folding caseSensitive)) (tokens pattern.toList)
        path.toList := by
  rw [selects_eq_matchesAll hall hanything, node_matchesAll_iff]

theorem append_matchAll_ne {q s : String} (hne : q ≠ "")
    (hs : s.toList.length ≤ 3) :
    q ++ "/**" ≠ s := by
  rintro rfl
  apply hne
  have hnil : q.toList = [] := by simpa using hs
  exact String.toList_inj.mp hnil

/-- The pattern of a subtree selects the paths of the pattern in front of it,
and those that go on with a slash and any characters but a line break. -/
theorem selects_append_matchAll_iff {caseSensitive : Bool} {q : String}
    (hne : q ≠ "") (hall : q ≠ "/**") (hanything : q ≠ "**") (path : String) :
    selects caseSensitive (q ++ "/**") path = true ↔
      ∃ s, selects caseSensitive q s = true ∧
        (path = s ∨ ∃ rest, path = s ++ "/" ++ rest ∧ '\n' ∉ rest.toList) := by
  have hall' : q ++ "/**" ≠ "/**" := append_matchAll_ne hne (by decide)
  have hanything' : q ++ "/**" ≠ "**" := append_matchAll_ne hne (by decide)
  have htokens :
      tokens (q ++ "/**").toList = tokens q.toList ++ [.subtree] := by
    rw [String.toList_append]
    exact tokens_append_matchAll q.toList
  rw [selects_iff_splits hall' hanything', htokens, splits_concat_iff]
  constructor
  · rintro ⟨u, v, hpath, hu, hv⟩
    refine ⟨String.ofList u, ?_, ?_⟩
    · rw [selects_iff_splits hall hanything, String.toList_ofList]
      exact hu
    · rcases hv with rfl | ⟨rest, rfl, hrest⟩
      · left
        apply String.toList_inj.mp
        simpa using hpath
      · right
        refine ⟨String.ofList rest, ?_, by simpa using hrest⟩
        apply String.toList_inj.mp
        simpa using hpath
  · rintro ⟨s, hs, hpath⟩
    rw [selects_iff_splits hall hanything] at hs
    rcases hpath with rfl | ⟨rest, rfl, hrest⟩
    · exact ⟨path.toList, [], by simp, hs, Or.inl rfl⟩
    · exact ⟨s.toList, '/' :: rest.toList, by simp, hs, Or.inr ⟨_, rfl, hrest⟩⟩

theorem antMatcher_selects_append_matchAll_iff {q : String}
    {method : Option String} {caseSensitive : Bool}
    (hne : q ≠ "") (hall : q ≠ "/**") (hanything : q ≠ "**") (r : Request) :
    AntMatcher.selects ⟨q ++ "/**", method, caseSensitive⟩ r = true ↔
      ∃ s, AntMatcher.selects ⟨q, method, caseSensitive⟩
          { r with path := s } = true ∧
        (r.path = s ∨
          ∃ rest, r.path = s ++ "/" ++ rest ∧ '\n' ∉ rest.toList) := by
  have hmethod : ∀ s, admitsMethod method { r with path := s } =
      admitsMethod method r := by
    intro s
    cases method <;> rfl
  simp only [AntMatcher.selects, Bool.and_eq_true, hmethod,
    selects_append_matchAll_iff hne hall hanything, and_assoc,
    exists_and_left]

/-! ## Requests below a path -/

/-- The path of a request has no query. -/
theorem notMem_withoutQuery (path : String) :
    '?' ∉ (Request.withoutQuery path).toList := by
  rw [Request.withoutQuery]
  cases hkept : path.toList.takeWhile (· ≠ '?') with
  | nil => decide
  | cons c cs =>
    intro hmem
    rw [String.toList_ofList, ← hkept] at hmem
    simpa using List.mem_takeWhile_imp hmem

/-- A path without a query is the path of its request. -/
theorem withoutQuery_eq_self {path : String} (hne : path ≠ "")
    (hquery : '?' ∉ path.toList) :
    Request.withoutQuery path = path := by
  have htake : path.toList.takeWhile (· ≠ '?') = path.toList := by
    rw [List.takeWhile_eq_self_iff]
    intro c hc
    simp only [decide_eq_true_eq]
    rintro rfl
    exact hquery hc
  rw [Request.withoutQuery, htake]
  cases hpath : path.toList with
  | nil => exact absurd (String.toList_inj.mp hpath) hne
  | cons c cs =>
    change String.ofList (c :: cs) = path
    rw [← hpath, String.ofList_toList]

theorem path_make_below {sent rest : String} (path : String)
    (address : Option String) (hrest : '?' ∉ rest.toList) :
    (Request.make sent ((Request.make sent path address).path ++ "/" ++ rest)
      address).path = (Request.make sent path address).path ++ "/" ++ rest := by
  apply withoutQuery_eq_self
  · intro h
    have hnil := congrArg String.toList h
    simp at hnil
  · simp only [String.toList_append, List.mem_append, not_or]
    exact ⟨⟨notMem_withoutQuery path, by decide⟩, hrest⟩

/-! ## Rules for a subtree -/

/-- A pattern with a slash and two stars behind it selects the requests of the
pattern without them, and all requests below one of these whose further path has
no line break.  It governs them unless a pattern that was registered before it
selects them. -/
theorem antMatcher_selects_below {q : String} {method : Option String}
    {caseSensitive : Bool} {m : AntMatcher}
    (hm : AntMatcher.make q method caseSensitive = .ok m)
    (hall : q ≠ "/**") (hanything : q ≠ "**") :
    ∃ m' : AntMatcher,
      AntMatcher.make (q ++ "/**") method caseSensitive = .ok m' ∧
      (∀ r : Request, m'.selects r = true ↔
        ∃ s, m.selects { r with path := s } = true ∧
          (r.path = s ∨
            ∃ rest, r.path = s ++ "/" ++ rest ∧ '\n' ∉ rest.toList)) ∧
      ∀ sent path address,
        let r := Request.make sent path address
        m.selects r = true →
          m'.selects r = true ∧ Matcher.Governs (.ant m') r ∧
          ∀ rest : String, '?' ∉ rest.toList → '\n' ∉ rest.toList →
            let below := Request.make sent (r.path ++ "/" ++ rest) address
            below.path = r.path ++ "/" ++ rest ∧
              m'.selects below = true ∧ Matcher.Governs (.ant m') below := by
  have hne : q ≠ "" := by
    rintro rfl
    cases hm
  have hne' : q ++ "/**" ≠ "" := append_matchAll_ne hne (by decide)
  rw [AntMatcher.make, if_neg hne, Except.ok.injEq] at hm
  subst hm
  let m' : AntMatcher := ⟨q ++ "/**", normalMethod method, caseSensitive⟩
  have hiff : ∀ r : Request, m'.selects r = true ↔ _ :=
    antMatcher_selects_append_matchAll_iff hne hall hanything
  refine ⟨m', if_neg hne', hiff, ?_⟩
  intro sent path address r hr
  have hself : m'.selects r = true := (hiff r).mpr ⟨r.path, hr, Or.inl rfl⟩
  refine ⟨hself, Matcher.governs_of_selects hself, ?_⟩
  intro rest hquery hline below
  have hpath : below.path = r.path ++ "/" ++ rest :=
    path_make_below path address hquery
  have hbelow : m'.selects below = true :=
    (hiff below).mpr ⟨r.path, hr, Or.inr ⟨rest, hpath, hline⟩⟩
  exact ⟨hpath, hbelow, Matcher.governs_of_selects hbelow⟩

/-- A pattern that ends with a star, without regard to letter case, and a path
below that holds a carriage return. -/
theorem antMatcher_selects_below_star :
    let m : AntMatcher := ⟨"/a/*", some "GET", false⟩
    AntMatcher.make "/a/*" (some "get") false = .ok m ∧
      "/a/*" ≠ "/**" ∧ "/a/*" ≠ "**" ∧
      ∃ m' : AntMatcher,
        AntMatcher.make ("/a/*" ++ "/**") (some "get") false = .ok m' ∧
        m.selects (.make "get" "/A/b?x" none) = true ∧
        '?' ∉ "c\r".toList ∧ '\n' ∉ "c\r".toList ∧
        m'.selects (.make "get" "/A/b/c\r" none) = true := by
  intro m
  have hm : AntMatcher.make "/a/*" (some "get") false = .ok m := by
    decide +kernel
  have hr : m.selects (.make "get" "/A/b?x" none) = true := by decide +kernel
  obtain ⟨m', hm', -, hbelow⟩ :=
    antMatcher_selects_below hm (by decide) (by decide)
  obtain ⟨-, -, hrest⟩ := hbelow "get" "/A/b?x" none hr
  obtain ⟨-, hselects, -⟩ := hrest "c\r" (by decide) (by decide)
  exact ⟨hm, by decide, by decide, m', hm', hr, by decide, by decide,
    hselects⟩

/-- A path that goes on with a line break is not selected, and is left to a rule
behind the one for the subtree. -/
theorem not_antMatcher_selects_newline :
    let directory : AntMatcher := ⟨"/admin", none, true⟩
    let subtree : AntMatcher := ⟨"/admin/**", none, true⟩
    let below := Request.make "GET" ("/admin" ++ "/" ++ "\n") none
    let registry : Registry :=
      ⟨[⟨[.ant subtree], [.requirement .denyAll]⟩,
        ⟨[.any], [.requirement .permitAll]⟩], none⟩
    AntMatcher.make "/admin" none true = .ok directory ∧
      AntMatcher.make ("/admin" ++ "/**") none true = .ok subtree ∧
      directory.selects (.make "GET" "/admin" none) = true ∧
      '?' ∉ "\n".toList ∧
      subtree.selects below = false ∧
      (Source.lookup ⟨registry.compile.value.1.entries, .make .standard []⟩
        below).value = some [.requirement .permitAll] := by
  decide +kernel

end AccessRules.Pattern
