import AccessRules.Expression.Lexer
import Mathlib.Data.List.Basic

/-!
# Texts between quotes

A text is written between single quotes.  The quote, the backslash, line breaks
and the null character are escaped; all other characters stand for themselves.
Reading the quoted text gives the text back, whatever it contains.
-/

namespace AccessRules.Expression

/-- A character as it is written between single quotes. -/
def quotedChar (c : Char) : List Char :=
  if c = '\\' then ['\\', '\\']
  else if c = '\'' then ['\\', '\'']
  else if c = '\n' then ['\\', 'n']
  else if c = '\r' then ['\\', 'r']
  else if c = '\x00' then ['\\', 'x', '0', '0']
  else [c]

/-- A text as it is written, with its quotes. -/
def quotedText (cs : List Char) : List Char :=
  '\'' :: (cs.flatMap quotedChar ++ ['\''])

/-! ## Single characters -/

/-- Characters that stand for themselves between single quotes. -/
def IsUnescaped (c : Char) : Prop :=
  c ≠ '\\' ∧ c ≠ '\'' ∧ c ≠ '\n' ∧ c ≠ '\r' ∧ c ≠ '\x00'

theorem quotedChar_of_isUnescaped {c : Char} (h : IsUnescaped c) :
    quotedChar c = [c] := by
  obtain ⟨hbackslash, hquote, hnewline, hreturn, hnull⟩ := h
  rw [quotedChar, if_neg hbackslash, if_neg hquote, if_neg hnewline,
    if_neg hreturn, if_neg hnull]

theorem cases_isUnescaped (c : Char) :
    c = '\\' ∨ c = '\'' ∨ c = '\n' ∨ c = '\r' ∨ c = '\x00' ∨ IsUnescaped c := by
  rw [IsUnescaped]
  tauto

theorem quotedContent_close (rest : List Char) :
    quotedContent '\'' ('\'' :: rest) = some ([], rest) := by
  rw [quotedContent.eq_def]
  rfl

theorem quotedContent_backslash (d : Char) (cs : List Char) :
    quotedContent '\'' ('\\' :: d :: cs) =
      (quotedContent '\'' cs).map fun (content, rest) =>
        ('\\' :: d :: content, rest) := by
  rw [quotedContent.eq_def]
  rfl

theorem quotedContent_plain {c : Char} (hquote : c ≠ '\'') (hnewline : c ≠ '\n')
    (hbackslash : c ≠ '\\') (cs : List Char) :
    quotedContent '\'' (c :: cs) =
      (quotedContent '\'' cs).map fun (content, rest) =>
        (c :: content, rest) := by
  rw [quotedContent.eq_def]
  simp only [if_neg hquote, if_neg hnewline, if_neg hbackslash]

/-- A quoted character does not end the text around it. -/
theorem quotedContent_quotedChar (c : Char) {cs content rest : List Char}
    (h : quotedContent '\'' cs = some (content, rest)) :
    quotedContent '\'' (quotedChar c ++ cs) =
      some (quotedChar c ++ content, rest) := by
  rcases cases_isUnescaped c with rfl | rfl | rfl | rfl | rfl | hc
  case inr.inr.inr.inr.inl =>
    change quotedContent '\'' ('\\' :: 'x' :: '0' :: '0' :: cs) = _
    rw [quotedContent_backslash,
      quotedContent_plain (by decide) (by decide) (by decide),
      quotedContent_plain (by decide) (by decide) (by decide), h]
    rfl
  case inr.inr.inr.inr.inr =>
    rw [quotedChar_of_isUnescaped hc, List.singleton_append,
      quotedContent_plain hc.2.1 hc.2.2.1 hc.1, h]
    rfl
  all_goals
    refine (quotedContent_backslash _ cs).trans ?_
    rw [h]
    rfl

theorem decodeFrom_plain {c : Char} (hbackslash : c ≠ '\\') (cs : List Char) :
    decodeFrom 0 (c :: cs) = (decodeFrom 0 cs).map (c :: ·) := by
  rw [decodeFrom.eq_def]
  simp only [if_neg hbackslash]

/-- An escape of three characters at most is decoded into one character. -/
theorem decodeFrom_escape (d : Char) (ds : List Char) {cs : List Char} {n : Nat}
    (h : Escape.read true d (ds ++ cs) = .character n (ds.length + 1)) :
    decodeFrom 0 ('\\' :: d :: (ds ++ cs)) =
      (decodeFrom 0 cs).map (characterOf n :: ·) := by
  have hskip : ∀ es : List Char, decodeFrom es.length (es ++ cs) =
      decodeFrom 0 cs := by
    intro es
    induction es with
    | nil => rfl
    | cons e es ih =>
      rw [List.length_cons, List.cons_append, decodeFrom, ih]
  rw [decodeFrom.eq_def]
  simp only [↓reduceIte, h]
  rw [← List.length_cons (a := d), ← List.cons_append, hskip]

/-- Decoding undoes the escape of a character. -/
theorem decodeFrom_quotedChar (c : Char) (cs : List Char) :
    decodeFrom 0 (quotedChar c ++ cs) = (decodeFrom 0 cs).map (c :: ·) := by
  rcases cases_isUnescaped c with rfl | rfl | rfl | rfl | rfl | hc
  · exact decodeFrom_escape '\\' [] rfl
  · exact decodeFrom_escape '\'' [] rfl
  · exact decodeFrom_escape 'n' [] rfl
  · exact decodeFrom_escape 'r' [] rfl
  · exact decodeFrom_escape 'x' ['0', '0'] rfl
  · rw [quotedChar_of_isUnescaped hc]
    exact decodeFrom_plain hc.1 cs

/-! ## Whole texts -/

/-- The content of a quoted text ends with the text. -/
theorem quotedContent_flatMap (cs rest : List Char) :
    quotedContent '\'' (cs.flatMap quotedChar ++ '\'' :: rest) =
      some (cs.flatMap quotedChar, rest) := by
  induction cs with
  | nil => exact quotedContent_close rest
  | cons c cs ih =>
    rw [List.flatMap_cons, List.append_assoc]
    exact quotedContent_quotedChar c ih

/-- Decoding undoes all escapes. -/
theorem decodeText_flatMap (cs : List Char) :
    decodeText (cs.flatMap quotedChar) = some cs := by
  rw [decodeText]
  induction cs with
  | nil => rfl
  | cons c cs ih =>
    rw [List.flatMap_cons, decodeFrom_quotedChar, ih]
    rfl

theorem exists_quotedChar_eq_cons (c : Char) :
    ∃ d ds, quotedChar c = d :: ds ∧ d ≠ '\'' := by
  rcases cases_isUnescaped c with rfl | rfl | rfl | rfl | rfl | hc
  case inr.inr.inr.inr.inr =>
    exact ⟨c, [], quotedChar_of_isUnescaped hc, hc.2.1⟩
  all_goals exact ⟨'\\', _, rfl, by decide⟩

/-- The quotes around a text are not tripled, unless another quote follows. -/
theorem quotation_quotedText {cs rest : List Char}
    (hrest : rest.head? ≠ some '\'') :
    quotation (quotedText cs ++ rest) = some (cs.flatMap quotedChar, rest) := by
  have hsingle : ∀ ds : List Char,
      (ds.take 2 ≠ ['\'', '\'']) →
        quotation ('\'' :: ds) = quotedContent '\'' ds := by
    intro ds hds
    match ds with
    | [] => rfl
    | [_] => rfl
    | a :: b :: ds =>
      have hnot : ¬ (a = '\'' ∧ b = '\'') := by
        rintro ⟨rfl, rfl⟩
        exact hds rfl
      rw [quotation, if_neg hnot]
  rw [quotedText, List.cons_append, List.append_assoc,
    List.singleton_append, hsingle]
  · exact quotedContent_flatMap cs rest
  · cases cs with
    | nil =>
      cases rest with
      | nil => decide
      | cons c rest => simpa using hrest
    | cons c cs =>
      obtain ⟨d, ds, hc, hd⟩ := exists_quotedChar_eq_cons c
      rw [List.flatMap_cons, hc]
      intro htake
      exact hd (List.cons.inj htake).1

/-- A quoted text is one token. -/
theorem scanToken_quotedText {cs rest : List Char}
    (hrest : rest.head? ≠ some '\'') :
    scanToken (quotedText cs ++ rest) =
      some (.text (String.ofList cs), rest) := by
  have hmarks : quoteMarks? (quotedText cs ++ rest) =
      some (⟨false, false, false⟩, quotedText cs ++ rest) := rfl
  rw [scanToken, hmarks]
  simp only [quotation_quotedText hrest]
  simp [quotedToken, decodeText_flatMap]

/-- Characters that no text between quotes shows as they are. -/
def isHidden (c : Char) : Bool :=
  c == '\n' || c == '\r' || c == '\x00'

theorem isHidden_eq_false_of_mem_quotedText {cs : List Char} {d : Char}
    (hd : d ∈ quotedText cs) :
    isHidden d = false := by
  rw [quotedText, List.mem_cons, List.mem_append, List.mem_singleton,
    List.mem_flatMap] at hd
  rcases hd with rfl | ⟨c, -, hd⟩ | rfl
  · rfl
  · rcases cases_isUnescaped c with rfl | rfl | rfl | rfl | rfl | hc
    case inr.inr.inr.inr.inr =>
      rw [quotedChar_of_isUnescaped hc, List.mem_singleton] at hd
      obtain ⟨-, -, hnewline, hreturn, hnull⟩ := hc
      simp [hd, isHidden, hnewline, hreturn, hnull]
    all_goals
      have hshown :=
        (List.all_eq_true (p := fun e => !isHidden e)).mp (by decide) d hd
      simpa using hshown
  · rfl

end AccessRules.Expression
