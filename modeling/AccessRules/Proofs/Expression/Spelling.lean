import AccessRules.Proofs.Expression.Quotation
import AccessRules.Proofs.Text.Numeral
import AccessRules.Text.Blank
import Mathlib

/-!
# Writing tokens

Every token of an access expression has a spelling, and is read from it again.
A token ends where its spelling ends if a blank, a bracket or a comma follows,
because no word and no number goes on with one of these.
-/

namespace AccessRules.Expression

/-! ## Spellings -/

/-- The spelling of a reserved word. -/
def Keyword.spelling (k : Keyword) : List Char :=
  match spellings.find? (·.2 = k) with
  | some (word, _) => word.toList
  | none => []

/-- The spelling of a sign. -/
def Symbol.spelling (s : Symbol) : List Char :=
  match spellings.find? (·.2 = s) with
  | some (sign, _) => sign
  | none => []

/-- The spelling of a token; empty for tokens that no access expression has. -/
def Token.spelling : Token → List Char
  | .name s => s.toList
  | .keyword k => k.spelling
  | .constant (.integer n) => Nat.toDigits 10 n
  | .text s => quotedText s.toList
  | .symbol s => s.spelling
  | _ => []

/-- Whether a text is a plain name: an ASCII identifier that is not reserved. -/
def isPlainName (s : String) : Bool :=
  s.toList.all (·.toNat < 128) && Text.isIdentifier s.toList &&
    (Keyword.ofSpelling? s).isNone

/-- Brackets and the comma, which keep their neighbours apart. -/
def Symbol.marks : List Symbol := [.openRound, .closeRound, .comma]

/-- Whether a token is of a kind that access expressions are made of. -/
def Token.isUsed : Token → Bool
  | .name _ | .constant _ | .text _ => true
  | .keyword k => k ∈ [.conj, .disj, .neg, .truth, .falsity, .nothing]
  | .symbol s => s ∈ Symbol.marks ++ [.equal, .unequal]
  | _ => false

/-- Whether a token can be written as it is: names must be plain, and numbers
readable. -/
def Token.isWritable : Token → Bool
  | .name s => isPlainName s
  | .constant (.integer n) => (Nat.toDigits 10 n).length ≤ Text.mostDigits
  | .constant _ => false
  | t => t.isUsed

/-- Whether a token keeps its neighbours apart. -/
def Token.isMark : Token → Bool
  | .symbol s => s ∈ Symbol.marks
  | _ => false

/-- A text that begins with a character that belongs to no word and no
number. -/
def BeginsApart (cs : List Char) : Prop :=
  ∀ c ∈ cs.head?, c ∈ [' ', '(', ')', ',']

theorem BeginsApart.eq_of_mem_head? {c : Char} {cs : List Char}
    (h : BeginsApart cs) (hc : c ∈ cs.head?) :
    c = ' ' ∨ c = '(' ∨ c = ')' ∨ c = ',' := by
  simpa using h c hc

theorem BeginsApart.head {c : Char} {cs : List Char}
    (h : BeginsApart (c :: cs)) :
    isNameCharacter c = false ∧ isQuote c = false ∧ c ≠ '.' := by
  rcases h.eq_of_mem_head? rfl with rfl | rfl | rfl | rfl
  all_goals decide

theorem ne_of_isNameCharacter {c d : Char} (hc : isNameCharacter c = false)
    (hd : isNameCharacter d = true) :
    c ≠ d := by
  rintro rfl
  rw [hc] at hd
  cases hd

/-! ## Words -/

/-- Letters, digits and the underscore. -/
def isWordChar (c : Char) : Bool :=
  c.isAlphanum || c == '_'

theorem toNat_of_isWordChar {c : Char} (h : isWordChar c = true) :
    (48 ≤ c.toNat ∧ c.toNat ≤ 57) ∨ (65 ≤ c.toNat ∧ c.toNat ≤ 90) ∨
      c.toNat = 95 ∨ (97 ≤ c.toNat ∧ c.toNat ≤ 122) := by
  simp only [isWordChar, Char.isAlphanum, Char.isAlpha, Char.isUpper,
    Char.isLower, Char.isDigit, Bool.or_eq_true, Bool.and_eq_true,
    decide_eq_true_eq, beq_iff_eq, ge_iff_le, UInt32.le_iff_toNat_le] at h
  change ((((65 ≤ c.toNat ∧ c.toNat ≤ 90) ∨ (97 ≤ c.toNat ∧ c.toNat ≤ 122)) ∨
    (48 ≤ c.toNat ∧ c.toNat ≤ 57)) ∨ c = '_') at h
  rcases h with ((h | h) | h) | rfl
  · omega
  · omega
  · omega
  · decide

theorem isBlank_of_isWordChar {c : Char} (h : isWordChar c = true) :
    Text.isBlank c = false := by
  have hc := toNat_of_isWordChar h
  simp only [Text.isBlank, Bool.or_eq_false_iff, Bool.and_eq_false_iff,
    decide_eq_false_iff_not, beq_eq_false_iff_ne]
  omega

/-- What is no letter, digit or underscore differs from all of these. -/
theorem ne_of_isWordChar {c d : Char} (h : isWordChar c = true)
    (hd : isWordChar d = false) :
    c ≠ d := by
  rintro rfl
  rw [h] at hd
  cases hd

theorem isNameCharacter_of_isWordChar {c : Char} (h : isWordChar c = true) :
    isNameCharacter c = true := by
  rw [isNameCharacter]
  rw [isWordChar] at h
  rw [h, Bool.true_or]

theorem isQuote_of_isWordChar {c : Char} (h : isWordChar c = true) :
    isQuote c = false := by
  have hsingle := ne_of_isWordChar h (d := '\'') rfl
  have hdouble := ne_of_isWordChar h (d := '"') rfl
  simp [isQuote, hsingle, hdouble]

/-- Letters before anything but a quote mark no literal. -/
theorem quoteMarks?_eq_none {cs : List Char}
    (h : ∀ c ∈ (cs.dropWhile Char.isAlpha).head?, isQuote c = false) :
    quoteMarks? cs = none := by
  have hdrop : cs.drop (cs.takeWhile Char.isAlpha).length =
      cs.dropWhile Char.isAlpha := by
    conv_lhs =>
      arg 2
      rw [← List.takeWhile_append_dropWhile (p := Char.isAlpha) (l := cs)]
    exact List.drop_left
  rw [quoteMarks?, hdrop]
  cases hrest : cs.dropWhile Char.isAlpha with
  | nil => rfl
  | cons c rest =>
    have hc : isQuote c = false := h c (by rw [hrest]; rfl)
    simp [hc]

theorem quoteMarks?_append_eq_none {word rest : List Char}
    (hword : ∀ c ∈ word, isWordChar c = true) (hrest : BeginsApart rest) :
    quoteMarks? (word ++ rest) = none := by
  apply quoteMarks?_eq_none
  induction word with
  | nil =>
    cases rest with
    | nil => simp
    | cons c rest =>
      obtain ⟨hname, hquote, -⟩ := hrest.head
      have halpha : c.isAlpha = false := by
        simp only [isNameCharacter, Char.isAlphanum,
          Bool.or_eq_false_iff] at hname
        exact hname.1.1.1
      simp [halpha, hquote]
  | cons c word ih =>
    rw [List.forall_mem_cons] at hword
    rw [List.cons_append, List.dropWhile_cons]
    split
    · exact ih hword.2
    · simpa using isQuote_of_isWordChar hword.1

theorem takeWhile_isNameCharacter {word rest : List Char}
    (hword : ∀ c ∈ word, isWordChar c = true) (hrest : BeginsApart rest) :
    (word ++ rest).takeWhile isNameCharacter = word ∧
      (word ++ rest).dropWhile isNameCharacter = rest := by
  have hname : ∀ c ∈ word, isNameCharacter c = true := by
    intro c hc
    exact isNameCharacter_of_isWordChar (hword c hc)
  have hstop : rest.takeWhile isNameCharacter = [] ∧
      rest.dropWhile isNameCharacter = rest := by
    cases rest with
    | nil => exact ⟨rfl, rfl⟩
    | cons c rest =>
      obtain ⟨hc, -, -⟩ := hrest.head
      simp [hc]
  rw [List.takeWhile_append_of_pos hname, List.dropWhile_append_of_pos hname,
    hstop.1, hstop.2, List.append_nil]
  exact ⟨rfl, rfl⟩

theorem beginsNumber_eq_isDigit {c : Char} (hdot : c ≠ '.') (cs : List Char) :
    beginsNumber (c :: cs) = c.isDigit := by
  rw [beginsNumber.eq_def]
  split
  · rename_i h
    exact absurd (List.cons.inj h).1 hdot
  · rename_i h
    rw [(List.cons.inj h).1]
  · rename_i h
    cases h

/-- A word is one token. -/
theorem scanToken_word {c : Char} {word rest : List Char} {t : Token}
    (hdigit : c.isDigit = false) (hword : ∀ d ∈ c :: word, isWordChar d = true)
    (ht : wordToken (c :: word) = some t) (hrest : BeginsApart rest) :
    scanToken (c :: word ++ rest) = some (t, rest) := by
  have hc := hword c List.mem_cons_self
  have hmarks := quoteMarks?_append_eq_none hword hrest
  have hnumber : beginsNumber (c :: word ++ rest) = false := by
    rw [List.cons_append, beginsNumber_eq_isDigit (ne_of_isWordChar hc rfl),
      hdigit]
  have hbegins : ((c :: word ++ rest).head?.map beginsWord).getD false =
      true := by
    simp only [isWordChar, Char.isAlphanum, hdigit, Bool.or_false] at hc
    simp [beginsWord, hc]
  obtain ⟨htake, hdrop⟩ := takeWhile_isNameCharacter hword hrest
  rw [scanToken, hmarks]
  simp only [hnumber, hbegins, htake, hdrop, ht]
  rfl

/-! ## Numbers -/

theorem isWordChar_of_isDigit {c : Char} (h : c.isDigit = true) :
    isWordChar c = true := by
  rw [isWordChar, Char.isAlphanum, h, Bool.or_true, Bool.true_or]

theorem isDigit_eq_false_of_isNameCharacter {c : Char}
    (h : isNameCharacter c = false) :
    c.isDigit = false := by
  cases hdigit : c.isDigit with
  | false => rfl
  | true =>
    rw [isNameCharacter_of_isWordChar (isWordChar_of_isDigit hdigit)] at h
    cases h

theorem digitPart_append {ds rest : List Char} (hne : ds ≠ [])
    (hds : ∀ d ∈ ds, d.isDigit = true) (hrest : BeginsApart rest) :
    digitPart Char.isDigit (ds ++ rest) = some (ds, rest) := by
  induction ds with
  | nil => exact absurd rfl hne
  | cons d ds ih =>
    rw [List.forall_mem_cons] at hds
    rw [List.cons_append, digitPart.eq_def]
    simp only [if_pos hds.1]
    cases ds with
    | nil =>
      cases rest with
      | nil => rfl
      | cons c rest =>
        obtain ⟨hc, -, -⟩ := hrest.head
        have hunderscore : c ≠ '_' := ne_of_isNameCharacter hc rfl
        simp [hunderscore, isDigit_eq_false_of_isNameCharacter hc]
    | cons e ds =>
      have he : e.isDigit = true := hds.2 e List.mem_cons_self
      have hunderscore : e ≠ '_' := by
        rintro rfl
        cases he
      have hmore := ih (by simp) hds.2
      rw [List.cons_append] at hmore
      simp only [List.cons_append, if_neg hunderscore, if_pos he, hmore]
      rfl

theorem isDigit_of_mem_toDigits {n : Nat} {d : Char}
    (hd : d ∈ Nat.toDigits 10 n) :
    d.isDigit = true :=
  Nat.isDigit_of_mem_toDigits (by decide) (by decide) hd

theorem head?_toDigits_ne {n : Nat} (hn : n ≠ 0) :
    (Nat.toDigits 10 n).head? ≠ some '0' := by
  induction n using Nat.strongRecOn with
  | _ n ih =>
    rw [Nat.toDigits_eq_if (by decide)]
    split
    case isTrue hlt =>
      have hall : ∀ m < 10, m ≠ 0 → [Nat.digitChar m].head? ≠ some '0' := by
        decide
      exact hall n hlt hn
    case isFalse hge =>
      have hhead := ih (n / 10) (by omega) (by omega)
      rw [List.head?_append_of_ne_nil _ Nat.toDigits_ne_nil]
      exact hhead

/-- A whole decimal number ends before a text that begins apart. -/
theorem scanExponent_whole {ds rest : List Char} (hrest : BeginsApart rest)
    (hzero : Text.ofDigits 10 ds ≠ 0 → ds.head? ≠ some '0')
    (hlength : ds.length ≤ Text.mostDigits) :
    scanExponent ⟨ds, [], 0, false⟩ rest =
      some (.integer (Text.ofDigits 10 ds), rest) := by
  have hwhole : finishDecimal.finishWhole ⟨ds, [], 0, false⟩ rest =
      finishNumber (.integer (Text.ofDigits 10 ds)) rest := by
    rw [finishDecimal.finishWhole, if_neg]
    rintro ⟨hne, hhead | hlong⟩
    · exact hzero hne hhead
    · exact absurd hlength (Nat.not_le.mpr hlong)
  have hends : endsNumber rest = true := by
    cases rest with
    | nil => rfl
    | cons c rest =>
      obtain ⟨hc, -, -⟩ := hrest.head
      simp [endsNumber, hc]
  have hfinish : finishNumber (.integer (Text.ofDigits 10 ds)) rest =
      some (.integer (Text.ofDigits 10 ds), rest) := by
    rw [finishNumber, if_pos hends]
  cases rest with
  | nil => exact hwhole.trans hfinish
  | cons c rest =>
    obtain ⟨hc, -, -⟩ := hrest.head
    have hexponent : ¬ (c = 'e' ∨ c = 'E') := by
      rw [not_or]
      exact ⟨ne_of_isNameCharacter hc rfl, ne_of_isNameCharacter hc rfl⟩
    have himaginary : ¬ (c = 'j' ∨ c = 'J') := by
      rw [not_or]
      exact ⟨ne_of_isNameCharacter hc rfl, ne_of_isNameCharacter hc rfl⟩
    rw [scanExponent.eq_def]
    simp only [if_neg hexponent]
    rw [finishDecimal.eq_def]
    simp only [if_neg himaginary]
    exact hwhole.trans hfinish

theorem scanDecimal_toDigits {n : Nat} {rest : List Char}
    (hlength : (Nat.toDigits 10 n).length ≤ Text.mostDigits)
    (hrest : BeginsApart rest) :
    scanDecimal (Nat.toDigits 10 n ++ rest) = some (.integer n, rest) := by
  have hexponent : scanExponent ⟨Nat.toDigits 10 n, [], 0, false⟩ rest =
      some (.integer n, rest) := by
    rw [scanExponent_whole hrest,
      Text.ofDigits_toDigits (by decide) (by decide)]
    · rw [Text.ofDigits_toDigits (by decide) (by decide)]
      exact head?_toDigits_ne
    · exact hlength
  rw [scanDecimal, digitPart_append Nat.toDigits_ne_nil
    (fun d => isDigit_of_mem_toDigits) hrest]
  cases rest with
  | nil => exact hexponent
  | cons c rest =>
    obtain ⟨-, -, hdot⟩ := hrest.head
    split
    case h_1 ds rest' heq =>
      cases heq
      exact absurd rfl hdot
    case h_2 ds rest' hnot heq =>
      cases heq
      exact hexponent
    case h_3 heq => cases heq

/-- A number that begins with a digit is decimal unless a letter follows this
digit. -/
theorem scanNumber_eq_scanDecimal {d : Char} {cs : List Char}
    (hd : d.isDigit = true)
    (hcs : ∀ c ∈ cs.head?, c ∉ ['x', 'X', 'o', 'O', 'b', 'B']) :
    scanNumber (d :: cs) = scanDecimal (d :: cs) := by
  rw [scanNumber.eq_def]
  split
  case h_1 c cs' heq =>
    obtain ⟨rfl, rfl⟩ := List.cons.inj heq
    have hc := hcs c rfl
    simp only [List.mem_cons, List.not_mem_nil, or_false, not_or] at hc
    simp [hc]
  case h_2 cs' heq =>
    obtain ⟨rfl, rfl⟩ := List.cons.inj heq
    cases hd
  case h_3 => rfl

/-- A number is one token. -/
theorem scanToken_toDigits {n : Nat} {rest : List Char}
    (hlength : (Nat.toDigits 10 n).length ≤ Text.mostDigits)
    (hrest : BeginsApart rest) :
    scanToken (Nat.toDigits 10 n ++ rest) =
      some (.constant (.integer n), rest) := by
  have hdigits : ∀ d ∈ Nat.toDigits 10 n, d.isDigit = true :=
    fun d => isDigit_of_mem_toDigits
  have hmarks := quoteMarks?_append_eq_none
    (fun d hd => isWordChar_of_isDigit (hdigits d hd)) hrest
  have hdecimal := scanDecimal_toDigits hlength hrest
  obtain ⟨d, ds, hcons⟩ :=
    List.exists_cons_of_ne_nil (Nat.toDigits_ne_nil (n := n) (b := 10))
  rw [hcons] at hdigits hmarks hdecimal ⊢
  have hd := hdigits d List.mem_cons_self
  have hnumber : beginsNumber (d :: ds ++ rest) = true := by
    rw [List.cons_append, beginsNumber_eq_isDigit, hd]
    exact ne_of_isWordChar (isWordChar_of_isDigit hd) rfl
  have hsecond :
      ∀ c ∈ (ds ++ rest).head?, c ∉ ['x', 'X', 'o', 'O', 'b', 'B'] := by
    intro c hc
    cases ds with
    | nil =>
      rcases hrest.eq_of_mem_head? hc with rfl | rfl | rfl | rfl
      all_goals decide
    | cons e ds =>
      obtain rfl : e = c := by simpa using hc
      have he := hdigits e (by simp)
      intro hmem
      simp only [List.mem_cons, List.not_mem_nil, or_false] at hmem
      rcases hmem with rfl | rfl | rfl | rfl | rfl | rfl
      all_goals cases he
  have hscan : scanNumber (d :: ds ++ rest) = some (.integer n, rest) :=
    (scanNumber_eq_scanDecimal hd hsecond).trans hdecimal
  rw [scanToken, hmarks]
  simp only [hnumber, hscan]
  rfl

/-! ## Tokens -/

/-- A text that is one word with a meaning of its own. -/
def IsWord (cs : List Char) (t : Token) : Prop :=
  ∃ c word, cs = c :: word ∧ c.isDigit = false ∧
    (∀ d ∈ c :: word, isWordChar d = true) ∧ wordToken (c :: word) = some t

theorem isWord_spelling (k : Keyword) : IsWord k.spelling (.keyword k) := by
  cases k
  all_goals
    exact ⟨_, _, rfl, by decide, List.all_eq_true.mp (by decide), by decide⟩

theorem isDigit_eq_false_of_isAlpha {c : Char} (h : c.isAlpha = true) :
    c.isDigit = false := by
  simp only [Char.isAlpha, Char.isUpper, Char.isLower, Bool.or_eq_true,
    Bool.and_eq_true, decide_eq_true_eq, ge_iff_le, UInt32.le_iff_toNat_le] at h
  simp only [Char.isDigit, Bool.and_eq_false_iff, decide_eq_false_iff_not,
    ge_iff_le, UInt32.le_iff_toNat_le]
  change (65 ≤ c.toNat ∧ c.toNat ≤ 90) ∨ (97 ≤ c.toNat ∧ c.toNat ≤ 122) at h
  change ¬ 48 ≤ c.toNat ∨ ¬ c.toNat ≤ 57
  omega

theorem isWord_of_isPlainName {s : String} (h : isPlainName s = true) :
    IsWord s.toList (.name s) := by
  simp only [isPlainName, Bool.and_eq_true, List.all_eq_true,
    decide_eq_true_eq, Option.isNone_iff_eq_none] at h
  obtain ⟨⟨hascii, hidentifier⟩, hreserved⟩ := h
  have htoken : wordToken s.toList = some (.name s) := by
    have hnormal : Text.normalForm s.toList = s.toList := by
      rw [Text.normalForm, if_pos]
      simpa using hascii
    rw [wordToken, String.ofList_toList, hreserved]
    simp [hidentifier, hnormal]
  cases hs : s.toList with
  | nil =>
    rw [hs] at hidentifier
    cases hidentifier
  | cons c word =>
    rw [hs] at hidentifier hascii htoken
    rw [List.forall_mem_cons] at hascii
    simp only [Text.isIdentifier, Bool.and_eq_true, List.all_eq_true,
      Text.isIdentifierStart, if_pos hascii.1] at hidentifier
    obtain ⟨hstart, hcontinue⟩ := hidentifier
    have hdigit : c.isDigit = false := by
      rcases Bool.or_eq_true _ _ ▸ hstart with halpha | hunderscore
      · exact isDigit_eq_false_of_isAlpha halpha
      · rw [beq_iff_eq.mp hunderscore]
        rfl
    refine ⟨c, word, rfl, hdigit, ?_, htoken⟩
    intro d hd
    rcases List.mem_cons.mp hd with rfl | hd
    · rw [isWordChar, Char.isAlphanum, hdigit, Bool.or_false]
      exact hstart
    · have hd' := hcontinue d hd
      rw [Text.isIdentifierContinue, if_pos (hascii.2 d hd)] at hd'
      exact hd'

/-- A token is read from its spelling, if what follows does not belong to it. -/
theorem scanToken_spelling {t : Token} {rest : List Char}
    (ht : t.isWritable = true) (hrest : t.isMark = true ∨ BeginsApart rest) :
    scanToken (t.spelling ++ rest) = some (t, rest) := by
  cases t with
  | name s =>
    have hapart := hrest.resolve_left (by simp [Token.isMark])
    obtain ⟨c, word, hs, hdigit, hword, htoken⟩ := isWord_of_isPlainName ht
    rw [Token.spelling, hs]
    exact scanToken_word hdigit hword htoken hapart
  | keyword k =>
    have hapart := hrest.resolve_left (by simp [Token.isMark])
    obtain ⟨c, word, hk, hdigit, hword, htoken⟩ := isWord_spelling k
    rw [Token.spelling, hk]
    exact scanToken_word hdigit hword htoken hapart
  | constant v =>
    have hapart := hrest.resolve_left (by simp [Token.isMark])
    cases v with
    | integer n => exact scanToken_toDigits (of_decide_eq_true ht) hapart
    | _ => cases ht
  | text s =>
    have hapart := hrest.resolve_left (by simp [Token.isMark])
    have hquote : rest.head? ≠ some '\'' := by
      intro hhead
      exact absurd (hapart '\'' hhead) (by decide)
    rw [Token.spelling, scanToken_quotedText hquote, String.ofList_toList]
  | symbol s =>
    have hs : s ∈ Symbol.marks ++ [.equal, .unequal] := of_decide_eq_true ht
    simp only [Symbol.marks, List.cons_append, List.nil_append, List.mem_cons,
      List.not_mem_nil, or_false] at hs
    rcases hs with rfl | rfl | rfl | rfl | rfl
    all_goals rfl
  | bytes b | formatted fields | newline => cases ht

end AccessRules.Expression
