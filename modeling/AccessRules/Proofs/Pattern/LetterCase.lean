import AccessRules.Proofs.Pattern.Subtree
import AccessRules.Proofs.Text.Fold

/-!
# Path patterns up to letter case

A pattern that ignores letter case selects the paths that are letter by letter
the same as a path that it selects where letter case counts.  This path is found
piece by piece: the piece of a letter is replaced by the letter of the pattern,
and the pieces of the other tokens stay as they are.

The other direction needs that a slash and a line break are the same letter as
themselves only, so that every wildcard accepts the same pieces whether letter
case counts or not.
-/

namespace AccessRules.Pattern

open Regex

variable {ts : List Token} {t : Token} {u path : List Char} {c d : Char}

/-! ## Same letters -/

theorem sameLetter_full_iff :
    SameLetter .full c d ↔ Text.foldCode c.toNat = Text.foldCode d.toNat := by
  rw [SameLetter, CharTest.isLetter]
  by_cases hcased : Folding.full.isCased c.toNat = true
  · rw [if_pos hcased, List.contains_iff_mem]
    exact Text.lowerCode_mem_foldClass_iff
  · rw [if_neg hcased, beq_iff_eq, eq_comm]
    exact (Text.foldCode_eq_iff (eq_false_of_ne_true hcased)).symm

theorem equivalence_sameLetter : Equivalence (SameLetter .full) where
  refl _ := sameLetter_full_iff.mpr rfl
  symm h := sameLetter_full_iff.mpr (sameLetter_full_iff.mp h).symm
  trans h h' := sameLetter_full_iff.mpr
    ((sameLetter_full_iff.mp h).trans (sameLetter_full_iff.mp h'))

/-- A character without letter case is the same letter as itself only. -/
theorem sameLetter_iff_eq (h : Text.isCased c.toNat = false) :
    SameLetter .full c d ↔ c = d := by
  rw [sameLetter_full_iff, Text.foldCode_eq_iff h]
  exact Char.toNat_inj

theorem sameLetter_iff_eq_of_right (h : Text.isCased d.toNat = false) :
    SameLetter .full c d ↔ c = d := by
  constructor
  · intro hsame
    exact ((sameLetter_iff_eq h).mp (equivalence_sameLetter.symm hsame)).symm
  · rintro rfl
    exact equivalence_sameLetter.refl c

theorem forall₂_sameLetter_refl (u : List Char) :
    List.Forall₂ (SameLetter .full) u u :=
  List.forall₂_same.mpr fun c _ => equivalence_sameLetter.refl c

/-- A character without letter case stands in a text if it stands in a text with
the same letters. -/
theorem mem_iff_of_sameLetter (hc : Text.isCased c.toNat = false)
    {u' : List Char} (h : List.Forall₂ (SameLetter .full) u' u) :
    c ∈ u' ↔ c ∈ u := by
  induction h with
  | nil => rfl
  | @cons a b _ _ hab _ ih =>
    have hhead : c = a ↔ c = b := by
      constructor
      · rintro rfl
        exact (sameLetter_iff_eq hc).mp hab
      · rintro rfl
        exact ((sameLetter_iff_eq_of_right hc).mp hab).symm
    rw [List.mem_cons, List.mem_cons, hhead, ih]

/-! ## Pieces and paths -/

theorem isCased_slash : Text.isCased '/'.toNat = false := by decide +kernel

theorem isCased_newline : Text.isCased '\n'.toNat = false := by decide +kernel

theorem isCased_question : Text.isCased '?'.toNat = false := by decide +kernel

/-- The pieces that a token accepts up to letter case have the same letters as
those that it accepts exactly. -/
theorem Token.accepts_iff_exists :
    t.Accepts (SameLetter .full) u ↔
      ∃ u', List.Forall₂ (SameLetter .full) u' u ∧ t.Accepts Eq u' := by
  constructor
  · intro h
    cases t with
    | letter c =>
      obtain ⟨d, rfl, hsame⟩ := h
      exact ⟨[c], .cons hsame .nil, c, rfl, rfl⟩
    | _ => exact ⟨u, forall₂_sameLetter_refl u, h⟩
  · rintro ⟨u', hsame, h⟩
    cases t with
    | subtree =>
      rcases h with rfl | ⟨v', rfl, hv'⟩
      · exact Or.inl (List.forall₂_nil_left_iff.mp hsame)
      · obtain ⟨d, v, hd, hv, rfl⟩ := List.forall₂_cons_left_iff.mp hsame
        obtain rfl := (sameLetter_iff_eq isCased_slash).mp hd
        exact Or.inr
          ⟨v, rfl, (mem_iff_of_sameLetter isCased_newline hv).not.mp hv'⟩
    | anything => exact (mem_iff_of_sameLetter isCased_newline hsame).not.mp h
    | run => exact (mem_iff_of_sameLetter isCased_slash hsame).not.mp h
    | one =>
      obtain ⟨d', rfl, hslash⟩ := h
      obtain ⟨d, v, hd, hv, rfl⟩ := List.forall₂_cons_left_iff.mp hsame
      obtain rfl := List.forall₂_nil_left_iff.mp hv
      refine ⟨d, rfl, ?_⟩
      rintro rfl
      exact hslash ((sameLetter_iff_eq_of_right isCased_slash).mp hd)
    | letter c =>
      obtain ⟨_, rfl, rfl⟩ := h
      obtain ⟨d, v, hd, hv, rfl⟩ := List.forall₂_cons_left_iff.mp hsame
      obtain rfl := List.forall₂_nil_left_iff.mp hv
      exact ⟨d, rfl, hd⟩

theorem splits_nil_iff {same : Char → Char → Prop} :
    Splits same [] path ↔ path = [] := by
  constructor
  · rintro ⟨pieces, rfl, hpieces⟩
    rw [List.forall₂_nil_left_iff.mp hpieces, List.flatten_nil]
  · rintro rfl
    exact ⟨[], rfl, .nil⟩

theorem splits_cons_iff {same : Char → Char → Prop} :
    Splits same (t :: ts) path ↔
      ∃ u v, path = u ++ v ∧ t.Accepts same u ∧ Splits same ts v := by
  constructor
  · rintro ⟨_, rfl, hpieces⟩
    obtain ⟨u, pieces, hu, hrest, rfl⟩ := List.forall₂_cons_left_iff.mp hpieces
    exact ⟨u, pieces.flatten, List.flatten_cons, hu, pieces, rfl, hrest⟩
  · rintro ⟨u, _, rfl, hu, pieces, rfl, hpieces⟩
    exact ⟨u :: pieces, List.flatten_cons.symm, .cons hu hpieces⟩

/-- The paths that split into pieces up to letter case have the same letters as
those that split exactly. -/
theorem splits_iff_exists :
    Splits (SameLetter .full) ts path ↔
      ∃ path', List.Forall₂ (SameLetter .full) path' path ∧
        Splits Eq ts path' := by
  induction ts generalizing path with
  | nil =>
    simp only [splits_nil_iff]
    constructor
    · rintro rfl
      exact ⟨[], .nil, rfl⟩
    · rintro ⟨_, hsame, rfl⟩
      exact List.forall₂_nil_left_iff.mp hsame
  | cons t ts ih =>
    simp only [splits_cons_iff]
    constructor
    · rintro ⟨u, v, rfl, hu, hv⟩
      obtain ⟨u', hsameu, hu'⟩ := Token.accepts_iff_exists.mp hu
      obtain ⟨v', hsamev, hv'⟩ := ih.mp hv
      exact ⟨u' ++ v', List.rel_append hsameu hsamev, u', v', rfl, hu', hv'⟩
    · rintro ⟨_, hsame, u', v', rfl, hu', hv'⟩
      have hsameu := (List.forall₂_take_append path u' v' hsame.flip).flip
      have hsamev := (List.forall₂_drop_append path u' v' hsame.flip).flip
      exact ⟨path.take u'.length, path.drop u'.length,
        (List.take_append_drop _ _).symm,
        Token.accepts_iff_exists.mpr ⟨u', hsameu, hu'⟩,
        ih.mpr ⟨v', hsamev, hv'⟩⟩

/-! ## Tokens without letter case -/

/-- A token that is no letter with letter case. -/
def Token.IsCaseless (t : Token) : Prop :=
  ∀ c, t = .letter c → Text.isCased c.toNat = false

theorem Token.IsCaseless.accepts_iff (h : t.IsCaseless) :
    t.Accepts (SameLetter .full) u ↔ t.Accepts Eq u := by
  cases t with
  | letter c =>
    simp only [Token.Accepts, sameLetter_iff_eq (h c rfl)]
  | _ => rfl

theorem splits_iff_of_isCaseless (h : ∀ t ∈ ts, t.IsCaseless) :
    Splits (SameLetter .full) ts path ↔ Splits Eq ts path := by
  induction ts generalizing path with
  | nil => rw [splits_nil_iff, splits_nil_iff]
  | cons t ts ih =>
    rw [List.forall_mem_cons] at h
    simp only [splits_cons_iff, h.1.accepts_iff, ih h.2]

/-- The letters among the tokens stand in the pattern. -/
theorem Tokenised.mem_of_letter {cs : List Char} (h : Tokenised cs ts)
    (hc : .letter c ∈ ts) : c ∈ cs := by
  induction h with
  | nil => cases hc
  | subtree _ _ ih | anything _ ih | run _ _ ih | one _ ih =>
    simp only [List.mem_cons, reduceCtorEq, false_or] at hc
    simp [ih hc]
  | letter _ _ _ _ ih =>
    rw [List.mem_cons, Token.letter.injEq] at hc
    exact List.mem_cons.mpr (hc.imp_right ih)

/-! ## Selected paths -/

theorem selects_iff_exists {pattern path : String} :
    selects false pattern path = true ↔
      ∃ path' : String,
        List.Forall₂ (SameLetter .full) path'.toList path.toList ∧
          selects true pattern path' = true := by
  by_cases hall : pattern = "/**" ∨ pattern = "**"
  · have hselects : ∀ caseSensitive path,
        selects caseSensitive pattern path = true := by
      intro caseSensitive path
      rcases hall with rfl | rfl <;> rfl
    simp only [hselects, and_true, true_iff]
    exact ⟨path, forall₂_sameLetter_refl path.toList⟩
  · rw [not_or] at hall
    have hexact : ∀ path' : String, selects true pattern path' = true ↔
        Splits Eq (tokens pattern.toList) path'.toList := by
      intro path'
      rw [selects_iff_splits hall.1 hall.2]
      exact splits_sameLetter_exact_iff _ _
    have hfull : selects false pattern path = true ↔
        Splits (SameLetter .full) (tokens pattern.toList) path.toList :=
      selects_iff_splits hall.1 hall.2 path
    rw [hfull, splits_iff_exists]
    simp only [hexact]
    constructor
    · rintro ⟨path', hsame, hpath'⟩
      refine ⟨String.ofList path', ?_, ?_⟩
      · rwa [String.toList_ofList]
      · rwa [String.toList_ofList]
    · rintro ⟨path', hsame, hpath'⟩
      exact ⟨path'.toList, hsame, hpath'⟩

theorem selects_eq_of_not_isCased {pattern : String}
    (h : ∀ c ∈ pattern.toList, Text.isCased c.toNat = false) (path : String) :
    selects false pattern path = selects true pattern path := by
  have htokens : ∀ t ∈ tokens pattern.toList, t.IsCaseless := by
    rintro _ ht c rfl
    exact h c ((tokenised_tokens _).mem_of_letter ht)
  rw [selects, selects, Bool.eq_iff_iff, Bool.or_eq_true, Bool.or_eq_true,
    node_matchesAll_iff, node_matchesAll_iff]
  apply or_congr_right
  exact (splits_iff_of_isCaseless htokens).trans
    (splits_sameLetter_exact_iff _ _).symm

/-! ## Matchers -/

/-- A matcher that ignores letter case selects a path if one with letter case
selects a path with the same letters, of the same length.  Being the same letter
is an equivalence; a slash, a line break and a question mark are the same as
themselves only.

The tokens of a pattern that are not letters with letter case match the same
texts in both matchers, and so does a pattern without such letters. -/
theorem antMatcher_selects_ignoring_case {pattern : String}
    (method : Option String) (hne : pattern ≠ "") :
    ∃ exact full : AntMatcher,
      AntMatcher.make pattern method true = .ok exact ∧
      AntMatcher.make pattern method false = .ok full ∧
      (∀ r : Request, full.selects r = true ↔ ∃ path : String,
        List.Forall₂ (SameLetter .full) path.toList r.path.toList ∧
          exact.selects { r with path } = true) ∧
      (∀ r : Request, exact.selects r = true → full.selects r = true) ∧
      Equivalence (SameLetter .full) ∧
      (∀ c ∈ ['/', '\n', '?'], ∀ d, SameLetter .full c d ↔ c = d) ∧
      (∀ t : Token, t.IsCaseless → ∀ u,
        (t.node (folding false)).matchesAll u =
          (t.node (folding true)).matchesAll u) ∧
      ((∀ c ∈ pattern.toList, Text.isCased c.toNat = false) →
        ∀ r : Request, full.selects r = exact.selects r) := by
  have hiff : ∀ r : Request,
      AntMatcher.selects ⟨pattern, normalMethod method, false⟩ r = true ↔
        ∃ path : String,
          List.Forall₂ (SameLetter .full) path.toList r.path.toList ∧
            AntMatcher.selects ⟨pattern, normalMethod method, true⟩
              { r with path } = true := by
    intro r
    have hmethod : ∀ path, admitsMethod (normalMethod method) { r with path } =
        admitsMethod (normalMethod method) r := by
      intro path
      cases normalMethod method <;> rfl
    simp only [AntMatcher.selects, Bool.and_eq_true, hmethod,
      selects_iff_exists, and_left_comm, exists_and_left]
  refine ⟨⟨pattern, normalMethod method, true⟩,
    ⟨pattern, normalMethod method, false⟩, if_neg hne, if_neg hne, hiff, ?_,
    equivalence_sameLetter, ?_, ?_, ?_⟩
  · intro r hr
    exact (hiff r).mpr ⟨r.path, forall₂_sameLetter_refl _, hr⟩
  · have huncased : ∀ c ∈ ['/', '\n', '?'], Text.isCased c.toNat = false := by
      simp only [List.forall_mem_cons]
      exact ⟨isCased_slash, isCased_newline, isCased_question, by simp⟩
    intro c hc d
    exact sameLetter_iff_eq (huncased c hc)
  · intro t ht u
    rw [Bool.eq_iff_iff, (denotes_node _ t).matchesAll_iff,
      (denotes_node _ t).matchesAll_iff]
    change t.Accepts (SameLetter .full) u ↔ t.Accepts (SameLetter .exact) u
    rw [sameLetter_exact]
    exact ht.accepts_iff
  · intro huncased r
    rw [AntMatcher.selects, AntMatcher.selects,
      selects_eq_of_not_isCased huncased]

/-- The dotless i of a pattern and the dotted capital of a path are the same
letter. -/
theorem antMatcher_selects_ignoring_case_dotless :
    let full : AntMatcher := ⟨"/ı/*", some "GET", false⟩
    let r := Request.make "get" "/İ/K" none
    "/ı/*" ≠ "" ∧ AntMatcher.make "/ı/*" (some "get") false = .ok full ∧
      List.Forall₂ (SameLetter .full) "/ı/K".toList r.path.toList ∧
      full.selects r = true ∧
      AntMatcher.selects ⟨"/ı/*", some "GET", true⟩ r = false := by
  intro full r
  have hne : "/ı/*" ≠ "" := by decide
  have hfull : AntMatcher.make "/ı/*" (some "get") false = .ok full := by
    decide +kernel
  have hexact : AntMatcher.make "/ı/*" (some "get") true =
      .ok ⟨"/ı/*", some "GET", true⟩ := by decide +kernel
  have hsame : List.Forall₂ (SameLetter .full) "/ı/K".toList r.path.toList := by
    decide +kernel
  obtain ⟨_, _, he, hf, hiff, -⟩ :=
    antMatcher_selects_ignoring_case (some "get") hne
  rw [hexact, Except.ok.injEq] at he
  rw [hfull, Except.ok.injEq] at hf
  subst he hf
  have hselects : full.selects r = true :=
    (hiff r).mpr ⟨"/ı/K", hsame, by decide +kernel⟩
  exact ⟨hne, hfull, hsame, hselects, by decide +kernel⟩

end AccessRules.Pattern
