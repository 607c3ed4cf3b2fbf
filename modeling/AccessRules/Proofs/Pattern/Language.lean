import AccessRules.Matcher
import AccessRules.Proofs.Pattern.Translation
import AccessRules.Proofs.Regex.Denotation

/-!
# The paths that a path pattern selects

A path pattern is cut into tokens from the left, and every token accepts some
pieces of a path.  The pattern selects the paths that are made of one piece for
each of its tokens, in order.

Which pieces a letter accepts depends on how letter case counts; all other
tokens accept the same pieces in either case.
-/

namespace AccessRules.Pattern

open Regex

/-! ## Cutting a pattern into tokens -/

/-- A slash with two stars behind it, up to the end of a segment. -/
def StartsSubtree (cs : List Char) : Prop :=
  ∃ ds, cs = '/' :: '*' :: '*' :: ds ∧ (ds = [] ∨ ds.head? = some '/')

/-- The tokens of a pattern, from the left. -/
inductive Tokenised : List Char → List Token → Prop
  | nil : Tokenised [] []
  | subtree {cs : List Char} {ts : List Token}
      (hend : cs = [] ∨ cs.head? = some '/') (h : Tokenised cs ts) :
      Tokenised ('/' :: '*' :: '*' :: cs) (.subtree :: ts)
  | anything {cs : List Char} {ts : List Token} (h : Tokenised cs ts) :
      Tokenised ('*' :: '*' :: cs) (.anything :: ts)
  | run {cs : List Char} {ts : List Token}
      (hstar : cs.head? ≠ some '*') (h : Tokenised cs ts) :
      Tokenised ('*' :: cs) (.run :: ts)
  | one {cs : List Char} {ts : List Token} (h : Tokenised cs ts) :
      Tokenised ('?' :: cs) (.one :: ts)
  | letter {c : Char} {cs : List Char} {ts : List Token}
      (hstar : c ≠ '*') (hquestion : c ≠ '?')
      (hsubtree : ¬ StartsSubtree (c :: cs)) (h : Tokenised cs ts) :
      Tokenised (c :: cs) (.letter c :: ts)

theorem tokenised_tokens (cs : List Char) : Tokenised cs (tokens cs) := by
  fun_induction tokens cs with
  | case1 => exact .nil
  | case2 cs hend ih => exact .subtree hend ih
  | case3 cs hend ih =>
    refine .letter (by decide) (by decide) ?_ (.anything ih)
    rintro ⟨ds, hds, hsubtree⟩
    simp only [List.cons.injEq, true_and] at hds
    exact hend (hds ▸ hsubtree)
  | case4 cs ih => exact .anything ih
  | case5 cs hcs ih =>
    refine .run ?_ ih
    intro hstar
    obtain ⟨ds, rfl⟩ := List.head?_eq_some_iff.mp hstar
    exact hcs ds rfl
  | case6 cs ih => exact .one ih
  | case7 c cs hsubtree hanything hrun hone ih =>
    refine .letter hrun hone ?_ ih
    rintro ⟨ds, hds, -⟩
    obtain ⟨hslash, hcs⟩ := List.cons.inj hds
    exact hsubtree ds hslash hcs

theorem tokens_run {cs : List Char} (hstar : cs.head? ≠ some '*') :
    tokens ('*' :: cs) = .run :: tokens cs := by
  cases cs with
  | nil => rfl
  | cons c cs =>
    have hc : c ≠ '*' := by simpa using hstar
    rw [tokens]
    rintro ds hds
    exact hc (List.cons.inj hds).1

theorem tokens_letter {c : Char} {cs : List Char} (hstar : c ≠ '*')
    (hquestion : c ≠ '?') (hsubtree : ¬ StartsSubtree (c :: cs)) :
    tokens (c :: cs) = .letter c :: tokens cs := by
  by_cases hslash : ∃ ds, c = '/' ∧ cs = '*' :: '*' :: ds
  · obtain ⟨ds, rfl, rfl⟩ := hslash
    have hend : ¬ (ds = [] ∨ ds.head? = some '/') :=
      fun hend => hsubtree ⟨ds, rfl, hend⟩
    rw [tokens, if_neg hend, tokens]
  · rw [tokens]
    · intro ds hc hds
      exact hslash ⟨ds, hc, hds⟩
    · exact fun ds hc hds => hstar hc
    · exact hstar
    · exact hquestion

/-- A pattern is cut into tokens in one way only. -/
theorem Tokenised.eq_tokens {cs : List Char} {ts : List Token}
    (h : Tokenised cs ts) :
    ts = tokens cs := by
  induction h with
  | nil => rfl
  | subtree hend h ih => rw [tokens, if_pos hend, ih]
  | anything h ih => rw [tokens, ih]
  | run hstar h ih => rw [tokens_run hstar, ih]
  | one h ih => rw [tokens, ih]
  | letter hstar hquestion hsubtree h ih =>
    rw [tokens_letter hstar hquestion hsubtree, ih]

/-- Every token takes at least one character of the pattern. -/
theorem Tokenised.length_le {cs : List Char} {ts : List Token}
    (h : Tokenised cs ts) :
    ts.length ≤ cs.length := by
  induction h with
  | nil => exact Nat.le_refl 0
  | subtree _ _ ih | anything _ ih | run _ _ ih | one _ ih
  | letter _ _ _ _ ih =>
    simp only [List.length_cons]
    omega

/-! ## Accepted pieces -/

/-- The pieces of a path that a token accepts.  The relation says which
characters a letter stands for. -/
def Token.Accepts (same : Char → Char → Prop) : Token → List Char → Prop
  | subtree, u => u = [] ∨ ∃ v, u = '/' :: v ∧ '\n' ∉ v
  | anything, u => '\n' ∉ u
  | run, u => '/' ∉ u
  | one, u => ∃ d, u = [d] ∧ d ≠ '/'
  | letter c, u => ∃ d, u = [d] ∧ same c d

/-- A path is made of one piece for each token, in order. -/
def Splits (same : Char → Char → Prop) (ts : List Token) (path : List Char) :
    Prop :=
  ∃ pieces : List (List Char), path = pieces.flatten ∧
    List.Forall₂ (Token.Accepts same) ts pieces

/-- The characters that a letter stands for under a folding. -/
def SameLetter (f : Folding) (c d : Char) : Prop :=
  CharTest.isLetter f c.toNat d = true

instance (f : Folding) : DecidableRel (SameLetter f) :=
  fun _ _ => inferInstanceAs (Decidable (_ = true))

theorem sameLetter_exact_iff (c d : Char) :
    SameLetter .exact c d ↔ c = d := by
  rw [SameLetter, CharTest.isLetter_exact, beq_iff_eq]
  exact ⟨fun h => Char.toNat_inj.mp h.symm, fun h => h ▸ rfl⟩

theorem sameLetter_exact : SameLetter .exact = Eq := by
  funext c d
  exact propext (sameLetter_exact_iff c d)

/-- The slash stands for itself under every folding. -/
theorem isLetter_slash_iff (f : Folding) (d : Char) :
    CharTest.isLetter f '/'.toNat d = true ↔ d = '/' := by
  have hcased : f.isCased '/'.toNat = false := by
    cases f
    · rfl
    · rfl
    · decide
  rw [CharTest.isLetter, hcased]
  simp only [Bool.false_eq_true, ↓reduceIte, beq_iff_eq]
  exact Char.toNat_inj

theorem accepts_slash_iff (f : Folding) (d : Char) :
    (CharTest.letter false '/'.toNat f).accepts d = true ↔ d = '/' := by
  rw [CharTest.accepts, ← isLetter_slash_iff f d]
  simp

theorem accepts_inSegment_iff (f : Folding) (d : Char) :
    (CharTest.letter true '/'.toNat f).accepts d = true ↔ d ≠ '/' := by
  rw [CharTest.accepts, ne_eq, ← isLetter_slash_iff f d]
  simp

theorem accepts_notNewline_iff (d : Char) :
    CharTest.notNewline.accepts d = true ↔ d ≠ '\n' := by
  simp [CharTest.accepts]

theorem forall_mem_ne_iff (u : List Char) (c : Char) :
    (∀ d ∈ u, d ≠ c) ↔ c ∉ u := by
  constructor
  · exact fun h hc => h c hc rfl
  · rintro h d hd rfl
    exact h hd

/-- The regular expression of a token stands for the pieces that the token
accepts. -/
theorem denotes_node (f : Folding) (t : Token) :
    (t.node f).Denotes (t.Accepts (SameLetter f)) := by
  have hlines : (many (.test .notNewline)).Denotes fun u => '\n' ∉ u :=
    (denotes_many .notNewline).congr fun u => by
      simp only [accepts_notNewline_iff, forall_mem_ne_iff]
  cases t with
  | subtree =>
    refine (((denotes_test (.letter false '/'.toNat f)).cat
      hlines).optional).congr fun u => ?_
    simp only [accepts_slash_iff, Token.Accepts]
    apply or_congr_right
    constructor
    · rintro ⟨_, v, rfl, ⟨c, rfl, rfl⟩, hv⟩
      exact ⟨v, rfl, hv⟩
    · rintro ⟨v, rfl, hv⟩
      exact ⟨['/'], v, rfl, ⟨'/', rfl, rfl⟩, hv⟩
  | anything => exact hlines
  | run =>
    refine (denotes_many (.letter true '/'.toNat f)).congr fun u => ?_
    simp only [accepts_inSegment_iff, forall_mem_ne_iff]
    rfl
  | one =>
    refine (denotes_test (.letter true '/'.toNat f)).congr fun u => ?_
    simp only [accepts_inSegment_iff]
    rfl
  | letter c =>
    refine (denotes_test (.letter false c.toNat f)).congr fun u => ?_
    simp only [CharTest.accepts, Bool.bne_false]
    rfl

/-- The regular expression of a pattern matches the paths that split into pieces
for its tokens. -/
theorem node_matchesAll_iff (caseSensitive : Bool) (pattern : String)
    (path : List Char) :
    (node caseSensitive pattern).matchesAll path = true ↔
      Splits (SameLetter (folding caseSensitive))
        (tokens pattern.toList) path :=
  (denotes_sequence (denotes_node (folding caseSensitive))
    (tokens pattern.toList)).matchesAll_iff path

theorem splits_sameLetter_exact_iff (ts : List Token) (path : List Char) :
    Splits (SameLetter .exact) ts path ↔ Splits Eq ts path := by
  rw [sameLetter_exact]

/-- Apart from the two patterns that select everything, the regular expression
of a pattern decides. -/
theorem selects_eq_matchesAll {pattern : String} (hall : pattern ≠ "/**")
    (hanything : pattern ≠ "**") (caseSensitive : Bool) (path : String) :
    selects caseSensitive pattern path =
      (node caseSensitive pattern).matchesAll path.toList := by
  have hfast : selectsAll pattern = false := by
    simp [selectsAll, matchAll, hall, hanything]
  rw [selects, hfast, Bool.false_or]

/-! ## Matchers -/

/-- A matcher for a path pattern selects exactly the paths that are made of one
piece for each token of the pattern.  A pattern has one list of tokens, with no
more tokens than characters.  The regular expression that they are translated to
is well-formed and decides which paths the matcher selects. -/
theorem antMatcher_selects_iff_splits {pattern : String} (hne : pattern ≠ "")
    (hall : pattern ≠ "/**") (hanything : pattern ≠ "**") :
    ∃ (m : AntMatcher) (ts : List Token) (n : Node),
      AntMatcher.make pattern none true = .ok m ∧
      Tokenised pattern.toList ts ∧
      (∀ us, Tokenised pattern.toList us → us = ts) ∧
      ts.length ≤ pattern.toList.length ∧
      regexText pattern = String.ofList (ts.flatMap Token.regexText) ∧
      Regex.read false (regexText pattern).toList = .ok n ∧
      ∀ request : Request,
        m.selects request = n.matchesAll request.path.toList ∧
        (m.selects request = true ↔ Splits Eq ts request.path.toList) := by
  have htokens := tokenised_tokens pattern.toList
  have hselects : ∀ request : Request,
      (⟨pattern, none, true⟩ : AntMatcher).selects request =
        (node true pattern).matchesAll request.path.toList := by
    intro request
    have hfast : selectsAll pattern = false := by
      simp [selectsAll, matchAll, hall, hanything]
    simp [AntMatcher.selects, admitsMethod, selects, hfast]
  refine ⟨⟨pattern, none, true⟩, tokens pattern.toList, node true pattern,
    if_neg hne, htokens, fun us hus => hus.eq_tokens, htokens.length_le, rfl,
    read_regexText true pattern, fun request => ⟨hselects request, ?_⟩⟩
  rw [hselects, node_matchesAll_iff, ← splits_sameLetter_exact_iff]
  rfl

/-- A pattern in which a subtree, a run of stars and a character of regular
expressions meet. -/
theorem antMatcher_selects_iff_splits_mixed :
    ∃ (m : AntMatcher) (ts : List Token) (n : Node),
      AntMatcher.make "/a/**/***.?" none true = .ok m ∧
      Tokenised "/a/**/***.?".toList ts ∧
      (∀ us, Tokenised "/a/**/***.?".toList us → us = ts) ∧
      ts.length ≤ "/a/**/***.?".toList.length ∧
      regexText "/a/**/***.?" = String.ofList (ts.flatMap Token.regexText) ∧
      Regex.read false (regexText "/a/**/***.?").toList = .ok n ∧
      ∀ request : Request,
        m.selects request = n.matchesAll request.path.toList ∧
        (m.selects request = true ↔ Splits Eq ts request.path.toList) :=
  antMatcher_selects_iff_splits (by decide) (by decide) (by decide)

end AccessRules.Pattern
