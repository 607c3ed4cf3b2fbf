import AccessRules.Proofs.Pattern.Language
import Mathlib.Data.List.Forall2

/-!
# Path patterns as regular expressions

A path pattern can be written as a regular expression.  Its written form is
always well-formed, and the matcher for it selects the requests that the matcher
for the pattern selects, in either letter case and for any method.

The written form is made of one fragment for each token of the pattern.  A
fragment means the same in front of any others as it means alone, and a letter
is written as a fragment that means this letter.
-/

namespace AccessRules.Pattern

open Regex

/-! ## Fragments -/

/-- Fragments of a regular expression do not run into each other: each of them
can be read by itself, and the text of all of them is read as the row of what
they are read as. -/
def ReadApart (ignoreCase : Bool) (fragments : List (List Char)) : Prop :=
  ∃ ns, List.Forall₂ (fun fragment n => Regex.read ignoreCase fragment = .ok n)
    fragments ns ∧
    Regex.read ignoreCase fragments.flatten = .ok (Node.sequence ns)

/-- The written form of a token, read by itself. -/
theorem read_regexText_token (caseSensitive : Bool) (t : Token) :
    Regex.read (!caseSensitive) t.regexText =
      .ok (t.node (folding caseSensitive)) := by
  have hread := read_flatMap_regexText caseSensitive [t]
  rwa [List.flatMap_singleton] at hread

theorem readApart_regexText (caseSensitive : Bool) (ts : List Token) :
    ReadApart (!caseSensitive) (ts.map Token.regexText) := by
  refine ⟨ts.map (Token.node (folding caseSensitive)), ?_, ?_⟩
  · rw [List.forall₂_map_left_iff, List.forall₂_map_right_iff,
      List.forall₂_same]
    exact fun t _ => read_regexText_token caseSensitive t
  · rw [← List.flatMap_def]
    exact read_flatMap_regexText caseSensitive ts

/-! ## Matchers -/

theorem ofPattern_regexText (caseSensitive : Bool) (pattern : String) :
    Regex.ofPattern (regexText pattern) (!caseSensitive) =
      .ok (node caseSensitive pattern) := by
  rw [Regex.ofPattern, read_regexText]
  rfl

theorem regexMatcher_make_regexText (caseSensitive : Bool) (pattern : String)
    (method : Option String) :
    RegexMatcher.make (regexText pattern) method (!caseSensitive) =
      .ok ⟨regexText pattern, normalMethod method, !caseSensitive⟩ := by
  rw [RegexMatcher.make, ofPattern_regexText]
  rfl

/-- The written form of a pattern is a well-formed regular expression.  As a
matcher it selects exactly the requests that the pattern selects, for every
method and in either letter case.  Its fragments do not run into each other, and
the fragment of a letter of the pattern means this letter. -/
theorem regexMatcher_selects_regexText {pattern : String} (hne : pattern ≠ "")
    (hall : pattern ≠ "/**") (hanything : pattern ≠ "**")
    (method : Option String) (caseSensitive : Bool) :
    ∃ (a : AntMatcher) (m : RegexMatcher) (ts : List Token),
      AntMatcher.make pattern method caseSensitive = .ok a ∧
      RegexMatcher.make (regexText pattern) method (!caseSensitive) = .ok m ∧
      (∀ request : Request, m.selects request = a.selects request) ∧
      Tokenised pattern.toList ts ∧
      (regexText pattern).toList = (ts.map Token.regexText).flatten ∧
      ReadApart (!caseSensitive) (ts.map Token.regexText) ∧
      ∀ c, .letter c ∈ ts →
        Regex.read (!caseSensitive) (Token.letter c).regexText =
          .ok (.test (.letter false c.toNat (folding caseSensitive))) := by
  refine ⟨⟨pattern, normalMethod method, caseSensitive⟩,
    ⟨regexText pattern, normalMethod method, !caseSensitive⟩,
    tokens pattern.toList, if_neg hne,
    regexMatcher_make_regexText caseSensitive pattern method, ?_,
    tokenised_tokens pattern.toList, ?_,
    readApart_regexText caseSensitive (tokens pattern.toList),
    fun c _ => read_regexText_token caseSensitive (.letter c)⟩
  · intro request
    rw [RegexMatcher.selects, AntMatcher.selects, ofPattern_regexText,
      selects_eq_matchesAll hall hanything]
  · rw [regexText, String.toList_ofList, List.flatMap_def]

/-- The two patterns that select everything are no such regular expressions:
these leave out line breaks. -/
example : AntMatcher.selects ⟨"/**", none, true⟩ ⟨"GET", "/\n", none⟩ = true ∧
    RegexMatcher.selects ⟨regexText "/**", none, false⟩ ⟨"GET", "/\n", none⟩ =
      false := by
  decide +kernel

/-- Letters that have a meaning in regular expressions stand next to
wildcards. -/
theorem regexMatcher_selects_regexText_special :
    "/(a|b)+**?\x7b2\x7d" ≠ "" ∧ "/(a|b)+**?\x7b2\x7d" ≠ "/**" ∧
      "/(a|b)+**?\x7b2\x7d" ≠ "**" ∧
      ∃ (a : AntMatcher) (m : RegexMatcher),
        AntMatcher.make "/(a|b)+**?\x7b2\x7d" (some "get") false = .ok a ∧
        RegexMatcher.make (regexText "/(a|b)+**?\x7b2\x7d") (some "get")
          (!false) = .ok m ∧
        (∀ request : Request, m.selects request = a.selects request) ∧
        m.selects (.make "Get" "/(A|b)+/x\x7b2\x7d" none) = true := by
  have hne : "/(a|b)+**?\x7b2\x7d" ≠ "" := by decide
  have hall : "/(a|b)+**?\x7b2\x7d" ≠ "/**" := by decide
  have hanything : "/(a|b)+**?\x7b2\x7d" ≠ "**" := by decide
  obtain ⟨a, m, -, ha, hm, hselects, -⟩ :=
    regexMatcher_selects_regexText hne hall hanything (some "get") false
  refine ⟨hne, hall, hanything, a, m, ha, hm, hselects, ?_⟩
  have hmatcher : a = ⟨"/(a|b)+**?\x7b2\x7d", some "GET", false⟩ := by
    have hmake : AntMatcher.make "/(a|b)+**?\x7b2\x7d" (some "get") false =
        .ok ⟨"/(a|b)+**?\x7b2\x7d", some "GET", false⟩ := by
      decide +kernel
    exact Except.ok.inj (ha.symm.trans hmake)
  rw [hselects, hmatcher]
  decide +kernel

end AccessRules.Pattern
