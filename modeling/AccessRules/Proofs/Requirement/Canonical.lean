import AccessRules.Attribute
import AccessRules.Proofs.Expression.Printing

/-!
# Canonical expressions of requirements

The expression of a requirement names a function and puts its texts between
quotes, with a backslash before every quote in a text.  Nothing else is escaped.
So the expression is a call with exactly these texts as long as none of them
holds a backslash, a line break or a null character.

A backslash in a text escapes the character behind it, which may be the one that
was put there to escape a quote.  The rest of the text is then read as part of
the expression.
-/

namespace AccessRules

open Expression

/-! ## Texts -/

/-- Whether a text has no character that would need an escape, its quotes
apart. -/
def isPlainText (s : String) : Bool :=
  s.toList.all fun c => c != '\\' && !isHidden c

theorem quotedChar_of_isPlainText {s : String} (h : isPlainText s = true)
    {c : Char} (hc : c ∈ s.toList) :
    quotedChar c = if c = '\'' then ['\\', c] else [c] := by
  have hplain := List.all_eq_true.mp h c hc
  rcases cases_isUnescaped c with rfl | rfl | rfl | rfl | rfl | hunescaped
  case inr.inr.inr.inr.inr =>
    rw [quotedChar_of_isUnescaped hunescaped, if_neg hunescaped.2.1]
  case inr.inl => rfl
  all_goals cases hplain

/-- In a plain text, only quotes are escaped. -/
theorem toList_escapeQuotes {s : String} (h : isPlainText s = true) :
    (escapeQuotes s).toList = s.toList.flatMap quotedChar := by
  rw [escapeQuotes, String.toList_ofList]
  exact List.flatMap_congr fun c hc => (quotedChar_of_isPlainText h hc).symm

theorem toList_inQuotes {s : String} (h : isPlainText s = true) :
    (inQuotes s).toList = quotedText s.toList := by
  simp [inQuotes, toList_escapeQuotes h, quotedText]

/-! ## Calls with texts -/

/-- The call of a function with texts as arguments. -/
def textCall (f : String) (ss : List String) : Tree :=
  .call (.name f) (ss.map fun s => .constant (.text s)) false

theorem printable_textCall {f : String} (hf : isPlainName f = true)
    (ss : List String) :
    (textCall f ss).Printable := by
  refine .call hf (List.forall_mem_map.mpr ?_)
  exact fun s _ => ⟨.text s, rfl, rfl⟩

/-- The tokens of a call with texts, with a comma before each but the first. -/
def textCallTokens (f s : String) (ss : List String) : List Token :=
  .name f :: .symbol .openRound :: .text s ::
    (ss.flatMap (fun s => [.symbol .comma, .text s]) ++ [.symbol .closeRound])

theorem tokensAt_textCall (f s : String) (ss : List String) :
    (textCall f (s :: ss)).tokensAt .disj = textCallTokens f s ss := by
  have hargs :
      Tree.tokensOfAll .disj ((s :: ss).map fun s => .constant (.text s)) =
      [.text s] :: ss.map fun s => [.text s] := by
    rw [Tree.tokensOfAll_eq_map, List.map_map]
    rfl
  have hcall : (textCall f (s :: ss)).tokensAt .disj =
      [.name f] ++ .symbol .openRound ::
        ([.symbol .comma].intercalate (Tree.tokensOfAll .disj
          ((s :: ss).map fun s => .constant (.text s))) ++
            [.symbol .closeRound]) := rfl
  rw [hcall, hargs, intercalate_cons, List.flatMap_map]
  rfl

/-- The text of a call with texts, without blanks. -/
theorem spaced_textCall (f s : String) (ss : List String) :
    Spaced (textCallTokens f s ss)
      (f.toList ++ '(' :: ([','].intercalate
        ((s :: ss).map fun s => quotedText s.toList) ++ [')'])) := by
  have hargs : Spaced
      (.text s :: (ss.flatMap (fun s => [.symbol .comma, .text s]) ++
        [.symbol .closeRound]))
      (quotedText s.toList ++
        (ss.flatMap (fun s => ',' :: quotedText s.toList) ++ [')'])) := by
    induction ss generalizing s with
    | nil => exact .next 0 (Or.inr (Or.inr rfl)) (.last _)
    | cons s' ss ih =>
      have hcomma :=
        Spaced.next (t := .symbol .comma) 0 (Or.inr (Or.inl rfl)) (ih s')
      have htext := Spaced.next (t := .text s) 0 (Or.inr (Or.inr rfl)) hcomma
      rw [List.flatMap_cons, List.flatMap_cons, List.append_assoc,
        List.append_assoc]
      exact htext
  have hopen :=
    Spaced.next (t := .symbol .openRound) 0 (Or.inr (Or.inl rfl)) hargs
  have hname := Spaced.next (t := .name f) 0 (Or.inr (Or.inr rfl)) hopen
  rw [List.map_cons, intercalate_cons, List.flatMap_map, List.append_assoc]
  exact hname

/-- A call is compiled from its name and its quoted arguments. -/
theorem compile_textCall {f s : String} {ss : List String}
    (hf : isPlainName f = true) {text : String}
    (htext : text.toList = f.toList ++ '(' :: ([','].intercalate
      ((s :: ss).map fun s => quotedText s.toList) ++ [')'])) :
    compile (some text) = .ok (textCall f (s :: ss)) := by
  have hprintable := printable_textCall hf (s :: ss)
  have hwrites := hprintable.writes_tokensAt .disj
  rw [tokensAt_textCall] at hwrites
  have hcompile := hwrites.compile_eq (spaced_textCall f s ss) hprintable
  rwa [← htext, String.ofList_toList] at hcompile

theorem compile_inQuotes {f opening s : String} (hf : isPlainName f = true)
    (hopening : opening.toList = f.toList ++ ['('])
    (hs : isPlainText s = true) :
    compile (some (opening ++ inQuotes s ++ ")")) = .ok (textCall f [s]) := by
  apply compile_textCall hf
  have hclose : ")".toList = [')'] := rfl
  simp [hopening, hclose, toList_inQuotes hs]

/-- Quotes between texts are the closing quote of one and the opening quote of
the next. -/
theorem intercalate_quotes (cs : List Char) (rest : List (List Char)) :
    '\'' :: (['\'', ',', '\''].intercalate (cs :: rest) ++ ['\'']) =
      [','].intercalate
        ((cs :: rest).map fun ds => '\'' :: (ds ++ ['\''])) := by
  induction rest generalizing cs with
  | nil => simp
  | cons ds rest ih =>
    have hmore := ih ds
    rw [List.map_cons] at hmore
    rw [List.map_cons, List.map_cons, List.intercalate_cons_cons,
      List.intercalate_cons_cons, ← hmore]
    simp

theorem compile_expression_anyAuthority {s : String} {ss : List String}
    (hss : ∀ r ∈ s :: ss, isPlainText r = true) :
    compile (some (Requirement.anyAuthority (s :: ss)).expression) =
      .ok (textCall "hasAnyAuthority" (s :: ss)) := by
  have hescaped : ((s :: ss).map escapeQuotes).map String.toList =
      (s :: ss).map fun r => r.toList.flatMap quotedChar := by
    rw [List.map_map]
    exact List.map_congr_left fun r hr => toList_escapeQuotes (hss r hr)
  have hquoted : '\'' :: (['\'', ',', '\''].intercalate
      ((s :: ss).map fun r => r.toList.flatMap quotedChar) ++ ['\'']) =
      [','].intercalate ((s :: ss).map fun r => quotedText r.toList) := by
    rw [List.map_cons, intercalate_quotes, List.map_cons, List.map_map]
    rfl
  have hopen : "hasAnyAuthority('".toList =
      "hasAnyAuthority".toList ++ ['(', '\''] := by
    decide +kernel
  have hbetween : "','".toList = ['\'', ',', '\''] := rfl
  have hclose : "')".toList = ['\'', ')'] := rfl
  have hexpression : (Requirement.anyAuthority (s :: ss)).expression.toList =
      "hasAnyAuthority".toList ++ '(' :: ('\'' :: (['\'', ',', '\''].intercalate
        ((s :: ss).map fun r => r.toList.flatMap quotedChar) ++ ['\'']) ++
          [')']) := by
    have hparts : (Requirement.anyAuthority (s :: ss)).expression =
        "hasAnyAuthority('" ++ "','".intercalate ((s :: ss).map escapeQuotes) ++
          "')" := rfl
    rw [hparts, String.toList_append, String.toList_append,
      String.toList_intercalate, hescaped]
    simp only [hopen, hbetween, hclose, List.append_assoc, List.cons_append,
      List.nil_append]
  rw [hquoted] at hexpression
  exact compile_textCall (by decide +kernel) hexpression

/-! ## Requirements -/

/-- The call that the expression of a requirement is meant to be: its function
and its texts. -/
def Requirement.call? : Requirement → Option (String × List String)
  | .role r p => some ("hasRole", [p ++ r])
  | .authority a => some ("hasAuthority", [a])
  | .anyAuthority (a :: as) => some ("hasAnyAuthority", a :: as)
  | .ipAddress m => some ("hasIpAddress", [m.expression])
  | _ => none

/-- The expression of a requirement with plain texts is the call that it is
meant to be. -/
theorem Requirement.compile_expression {r : Requirement} {f : String}
    {ss : List String} (hr : r.call? = some (f, ss))
    (hss : ∀ s ∈ ss, isPlainText s = true) :
    compile (some r.expression) = .ok (textCall f ss) := by
  cases r with
  | role r p =>
    obtain ⟨rfl, rfl⟩ := Prod.mk.inj (Option.some.inj hr)
    exact compile_inQuotes (by decide +kernel) (by decide +kernel)
      (hss _ (List.mem_singleton_self _))
  | authority a =>
    obtain ⟨rfl, rfl⟩ := Prod.mk.inj (Option.some.inj hr)
    exact compile_inQuotes (by decide +kernel) (by decide +kernel)
      (hss _ (List.mem_singleton_self _))
  | ipAddress m =>
    obtain ⟨rfl, rfl⟩ := Prod.mk.inj (Option.some.inj hr)
    exact compile_inQuotes (by decide +kernel) (by decide +kernel)
      (hss _ (List.mem_singleton_self _))
  | anyAuthority as =>
    cases as with
    | nil => cases hr
    | cons a as =>
      obtain ⟨rfl, rfl⟩ := Prod.mk.inj (Option.some.inj hr)
      exact compile_expression_anyAuthority hss
  | raw | permitAll | denyAll | anonymous | authenticated | fullyAuthenticated
  | rememberMe | custom => cases hr

theorem isPlainText_append {s t : String} (hs : isPlainText s = true)
    (ht : isPlainText t = true) :
    isPlainText (s ++ t) = true := by
  rw [isPlainText, String.toList_append, List.all_append, Bool.and_eq_true]
  exact ⟨hs, ht⟩

/-- Requirements of authorities are written as single calls with exactly these
authorities, quotes included. -/
theorem compile_expression_of_isPlainText {s p : String} {ss : List String}
    (hs : isPlainText s = true) (hp : isPlainText p = true)
    (hss : ∀ r ∈ ss, isPlainText r = true) (hne : ss ≠ []) :
    compile (some (Requirement.authority s).expression) =
      .ok (textCall "hasAuthority" [s]) ∧
      compile (some (Requirement.role s p).expression) =
        .ok (textCall "hasRole" [p ++ s]) ∧
      compile (some (Requirement.anyAuthority ss).expression) =
        .ok (textCall "hasAnyAuthority" ss) := by
  refine ⟨?_, ?_, ?_⟩
  · exact Requirement.compile_expression rfl (List.forall_mem_singleton.mpr hs)
  · have hplain := isPlainText_append hp hs
    exact Requirement.compile_expression rfl
      (List.forall_mem_singleton.mpr hplain)
  · obtain ⟨r, ss, rfl⟩ := List.exists_cons_of_ne_nil hne
    exact Requirement.compile_expression rfl hss

/-- Quotes and operators inside the texts stay there. -/
theorem compile_expression_of_isPlainText_quotes :
    let s := "x') or true #"
    isPlainText s = true ∧
      compile (some (Requirement.authority s).expression) =
        .ok (textCall "hasAuthority" [s]) ∧
      compile (some (Requirement.role s "'").expression) =
        .ok (textCall "hasRole" ["'" ++ s]) ∧
      compile (some (Requirement.anyAuthority [s, "", "'"]).expression) =
        .ok (textCall "hasAnyAuthority" [s, "", "'"]) := by
  intro s
  have hs : isPlainText s = true := by decide +kernel
  exact ⟨hs, compile_expression_of_isPlainText hs (by decide +kernel)
    (by decide +kernel) (List.cons_ne_nil _ _)⟩

/-- A backslash before a quote ends the text early, and what follows is read as
an operator and its operand. -/
theorem compile_expression_backslash :
    let s := "x\\') or true #"
    compile (some (Requirement.authority s).expression) =
        .ok (.disj [textCall "hasAuthority" ["x\\"], .name "true"]) ∧
      compile (some (Requirement.authority s).expression) ≠
        .ok (textCall "hasAuthority" [s]) := by
  intro s
  have hcompile : compile (some (Requirement.authority s).expression) =
      .ok (.disj [textCall "hasAuthority" ["x\\"], .name "true"]) := by
    decide +kernel
  refine ⟨hcompile, ?_⟩
  rw [hcompile]
  intro heq
  cases Except.ok.inj heq

end AccessRules
