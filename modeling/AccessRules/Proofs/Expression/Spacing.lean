import AccessRules.Proofs.Expression.Spelling

/-!
# Writing texts

A text is written from tokens by putting their spellings one behind the other,
with blanks between them: at least one, unless a bracket or a comma keeps the
two tokens apart anyway.  Cutting such a text gives the tokens back.
-/

namespace AccessRules.Expression

/-- A text that is written from tokens. -/
inductive Spaced : List Token → List Char → Prop
  | last (t : Token) : Spaced [t] t.spelling
  | next {t u : Token} {ts : List Token} {cs : List Char} (blanks : Nat)
      (happart : 0 < blanks ∨ t.isMark = true ∨ u.isMark = true)
      (h : Spaced (u :: ts) cs) :
      Spaced (t :: u :: ts) (t.spelling ++ (List.replicate blanks ' ' ++ cs))

/-! ## Characters of spellings -/

/-- A spelling is a word, a number, a text between quotes, or a sign. -/
theorem spelling_cases {t : Token} (ht : t.isWritable = true) :
    (t.spelling ≠ [] ∧ ∀ c ∈ t.spelling, isWordChar c = true) ∨
      (∃ cs, t.spelling = quotedText cs) ∨
      t.spelling ∈ [['('], [')'], [','], ['=', '='], ['!', '=']] := by
  have hsigns : ∀ s ∈ Symbol.marks ++ [.equal, .unequal],
      s.spelling ∈ [['('], [')'], [','], ['=', '='], ['!', '=']] := by
    decide
  have hword : ∀ {cs : List Char} {u : Token}, IsWord cs u →
      cs ≠ [] ∧ ∀ c ∈ cs, isWordChar c = true := by
    rintro cs u ⟨c, word, rfl, -, hchars, -⟩
    exact ⟨by simp, hchars⟩
  cases t with
  | name s => exact Or.inl (hword (isWord_of_isPlainName ht))
  | keyword k => exact Or.inl (hword (isWord_spelling k))
  | constant v =>
    cases v with
    | integer n =>
      refine Or.inl ⟨Nat.toDigits_ne_nil, ?_⟩
      intro c hc
      exact isWordChar_of_isDigit (isDigit_of_mem_toDigits hc)
    | _ => cases ht
  | text s => exact Or.inr (Or.inl ⟨s.toList, rfl⟩)
  | symbol s => exact Or.inr (Or.inr (hsigns s (of_decide_eq_true ht)))
  | bytes b | formatted fields | newline => cases ht

/-- A character that begins a token: no blank, comment or joined line begins
with it. -/
def OpensToken (c : Char) : Prop :=
  Text.isBlank c = false ∧ c ≠ '\\' ∧ c ≠ '#'

theorem opensToken_of_isWordChar {c : Char} (h : isWordChar c = true) :
    OpensToken c :=
  ⟨isBlank_of_isWordChar h, ne_of_isWordChar h rfl, ne_of_isWordChar h rfl⟩

theorem exists_spelling_eq_cons {t : Token} (ht : t.isWritable = true) :
    ∃ c cs, t.spelling = c :: cs ∧ OpensToken c := by
  rcases spelling_cases ht with ⟨hne, hword⟩ | ⟨ds, hquoted⟩ | hsign
  · obtain ⟨c, cs, hcons⟩ := List.exists_cons_of_ne_nil hne
    rw [hcons] at hword
    exact ⟨c, cs, hcons, opensToken_of_isWordChar (hword c List.mem_cons_self)⟩
  · exact ⟨'\'', _, hquoted, by decide, by decide, by decide⟩
  · have hall : ∀ cs ∈ [['('], [')'], [','], ['=', '='], ['!', '=']],
        ∃ c ds, cs = c :: ds ∧ OpensToken c := by
      simp [OpensToken, Text.isBlank]
    exact hall _ hsign

theorem exists_spelling_eq_concat {t : Token} (ht : t.isWritable = true) :
    ∃ cs c, t.spelling = cs ++ [c] ∧ Text.isBlank c = false := by
  rcases spelling_cases ht with ⟨hne, hword⟩ | ⟨ds, hquoted⟩ | hsign
  · refine ⟨_, _, (List.dropLast_concat_getLast hne).symm, ?_⟩
    exact isBlank_of_isWordChar (hword _ (List.getLast_mem hne))
  · exact ⟨'\'' :: ds.flatMap quotedChar, '\'', hquoted, by decide⟩
  · have hall : ∀ cs ∈ [['('], [')'], [','], ['=', '='], ['!', '=']],
        cs.getLast?.any (!Text.isBlank ·) = true := by
      decide
    obtain ⟨c, hlast, hc⟩ := (Option.any_eq_true ..).mp (hall _ hsign)
    exact ⟨_, c, (List.dropLast_append_getLast? c hlast).symm,
      by simpa using hc⟩

theorem isHidden_eq_false_of_mem_spelling {t : Token} (ht : t.isWritable = true)
    {c : Char} (hc : c ∈ t.spelling) :
    isHidden c = false := by
  rcases spelling_cases ht with ⟨-, hword⟩ | ⟨ds, hquoted⟩ | hsign
  · have hchar := hword c hc
    have hnewline := ne_of_isWordChar hchar (d := '\n') rfl
    have hreturn := ne_of_isWordChar hchar (d := '\r') rfl
    have hnull := ne_of_isWordChar hchar (d := '\x00') rfl
    simp [isHidden, hnewline, hreturn, hnull]
  · rw [hquoted] at hc
    exact isHidden_eq_false_of_mem_quotedText hc
  · have hall : ∀ cs ∈ [['('], [')'], [','], ['=', '='], ['!', '=']],
        cs.all (!isHidden ·) = true := by
      decide
    simpa using List.all_eq_true.mp (hall _ hsign) c hc

/-! ## Cutting -/

theorem tokensFrom_token {fuel depth depth' : Nat} {c : Char}
    {cs rest : List Char} {t : Token} (hc : OpensToken c)
    (hscan : scanToken (c :: cs) = some (t, rest))
    (hdepth : depthAfter depth t = some depth') :
    tokensFrom (fuel + 1) depth false (c :: cs) =
      (tokensFrom fuel depth' false rest).map (t :: ·) := by
  obtain ⟨hblank, hbackslash, hhash⟩ := hc
  have hspace : ¬ (c = ' ' ∨ c = '\t' ∨ c = '\x0c') := by
    rintro (rfl | rfl | rfl)
    all_goals cases hblank
  have hnewline : c ≠ '\n' := by
    rintro rfl
    cases hblank
  rw [tokensFrom.eq_def]
  simp only [if_neg hspace, if_neg hhash, if_neg hnewline, if_neg hbackslash,
    hscan, hdepth]

theorem tokensFrom_blanks (fuel depth blanks : Nat) (cs : List Char) :
    tokensFrom (blanks + fuel) depth false (List.replicate blanks ' ' ++ cs) =
      tokensFrom fuel depth false cs := by
  induction blanks with
  | zero => simp
  | succ blanks ih =>
    rw [Nat.add_right_comm, List.replicate_succ, List.cons_append]
    exact ih

theorem Spaced.exists_eq_append {t : Token} {ts : List Token} {cs : List Char}
    (h : Spaced (t :: ts) cs) :
    ∃ rest, cs = t.spelling ++ rest := by
  cases h with
  | last => exact ⟨[], (List.append_nil _).symm⟩
  | next blanks happart h => exact ⟨_, rfl⟩

theorem Spaced.exists_eq_cons {ts : List Token} {cs : List Char}
    (h : Spaced ts cs) (hts : ∀ t ∈ ts, t.isWritable = true) :
    ∃ c rest, cs = c :: rest ∧ OpensToken c := by
  obtain ⟨t, ts, rfl⟩ : ∃ t us, ts = t :: us := by
    cases h with
    | last t => exact ⟨t, [], rfl⟩
    | next => exact ⟨_, _, rfl⟩
  obtain ⟨rest, rfl⟩ := h.exists_eq_append
  obtain ⟨c, word, hcons, hc⟩ :=
    exists_spelling_eq_cons (hts t List.mem_cons_self)
  exact ⟨c, word ++ rest, by rw [hcons]; rfl, hc⟩

/-- What follows a token in a text is kept apart from it. -/
theorem isMark_or_beginsApart {t u : Token} {ts : List Token} {cs : List Char}
    {blanks : Nat} (happart : 0 < blanks ∨ t.isMark = true ∨ u.isMark = true)
    (h : Spaced (u :: ts) cs) :
    t.isMark = true ∨ BeginsApart (List.replicate blanks ' ' ++ cs) := by
  cases blanks with
  | succ blanks =>
    right
    intro c hc
    obtain rfl : ' ' = c := by simpa [List.replicate_succ] using hc
    decide
  | zero =>
    rcases happart.resolve_left (Nat.lt_irrefl 0) with ht | hu
    · exact Or.inl ht
    · right
      obtain ⟨rest, rfl⟩ := h.exists_eq_append
      cases u with
      | symbol s =>
        have hs : s ∈ Symbol.marks := of_decide_eq_true hu
        simp only [Symbol.marks, List.mem_cons, List.not_mem_nil,
          or_false] at hs
        intro c hc
        rcases hs with rfl | rfl | rfl
        all_goals
          obtain rfl := Option.some.inj hc
          decide
      | _ => cases hu

/-- A text written from tokens is cut into these tokens. -/
theorem tokensFrom_of_spaced {ts : List Token} {cs : List Char}
    (h : Spaced ts cs) (hts : ∀ t ∈ ts, t.isWritable = true)
    {depth depth' : Nat} (hdepth : ts.foldlM depthAfter depth = some depth')
    {fuel : Nat} (hfuel : cs.length < fuel) :
    tokensFrom fuel depth false cs = some ts := by
  induction h generalizing depth fuel with
  | last t =>
    have ht := hts t (List.mem_singleton_self t)
    have hscan : scanToken (t.spelling ++ []) = some (t, []) :=
      scanToken_spelling ht (Or.inr (by simp [BeginsApart]))
    obtain ⟨c, cs, hcons, hc⟩ := exists_spelling_eq_cons ht
    obtain ⟨fuel, rfl⟩ : ∃ f, fuel = f + 2 := by
      rw [hcons, List.length_cons] at hfuel
      exact ⟨fuel - 2, by omega⟩
    have ht' : depthAfter depth t = some depth' := by
      simpa using hdepth
    rw [List.append_nil, hcons] at hscan
    rw [hcons, tokensFrom_token hc hscan ht']
    rfl
  | @next t u ts cs blanks happart h ih =>
    obtain ⟨ht, hts⟩ := List.forall_mem_cons.mp hts
    have hscan := scanToken_spelling ht (isMark_or_beginsApart happart h)
    obtain ⟨middle, hmiddle, hrest⟩ : ∃ d, depthAfter depth t = some d ∧
        (u :: ts).foldlM depthAfter d = some depth' := by
      simpa [List.foldlM_cons, Option.bind_eq_some_iff] using hdepth
    obtain ⟨c, word, hcons, hc⟩ := exists_spelling_eq_cons ht
    rw [hcons, List.cons_append] at hscan
    rw [hcons] at hfuel ⊢
    simp only [List.cons_append, List.length_cons, List.length_append,
      List.length_replicate] at hfuel
    obtain ⟨fuel, rfl⟩ : ∃ f, fuel = blanks + f + 1 :=
      ⟨fuel - 1 - blanks, by omega⟩
    rw [List.cons_append, tokensFrom_token hc hscan hmiddle, tokensFrom_blanks,
      ih hts hrest (by omega)]
    rfl

/-! ## Whole texts -/

theorem isHidden_eq_false_of_spaced {ts : List Token} {cs : List Char}
    (h : Spaced ts cs) (hts : ∀ t ∈ ts, t.isWritable = true) {c : Char}
    (hc : c ∈ cs) :
    isHidden c = false := by
  induction h with
  | last t =>
    exact isHidden_eq_false_of_mem_spelling
      (hts t (List.mem_singleton_self t)) hc
  | next blanks happart h ih =>
    obtain ⟨ht, hts⟩ := List.forall_mem_cons.mp hts
    simp only [List.mem_append, List.mem_replicate] at hc
    rcases hc with hc | ⟨-, rfl⟩ | hc
    · exact isHidden_eq_false_of_mem_spelling ht hc
    · rfl
    · exact ih hts hc

theorem unifyLineBreaks_eq_self {cs : List Char}
    (h : ∀ c ∈ cs, isHidden c = false) :
    unifyLineBreaks cs = cs := by
  induction cs with
  | nil => rfl
  | cons c cs ih =>
    obtain ⟨hc, hcs⟩ := List.forall_mem_cons.mp h
    have hreturn : c ≠ '\r' := by
      rintro rfl
      cases hc
    rw [unifyLineBreaks.eq_def]
    split
    case h_1 heq => cases heq
    case h_2 ds heq => exact absurd (List.cons.inj heq).1 hreturn
    case h_3 d ds hnot heq =>
      obtain ⟨rfl, rfl⟩ := List.cons.inj heq
      rw [if_neg hreturn, ih hcs]

/-- A line that begins with a token is not indented. -/
theorem tokensFrom_line {fuel depth : Nat} {c : Char} {cs : List Char}
    (hc : OpensToken c) :
    tokensFrom (fuel + 1) depth true (c :: cs) =
      tokensFrom fuel depth false (c :: cs) := by
  obtain ⟨hblank, hbackslash, hhash⟩ := hc
  have hspace : ¬ (c = ' ' ∨ c = '\t') := by
    rintro (rfl | rfl)
    all_goals cases hblank
  have hfeed : c ≠ '\x0c' := by
    rintro rfl
    cases hblank
  have hnewline : c ≠ '\n' := by
    rintro rfl
    cases hblank
  have hindent : passIndentation false false (c :: cs) =
      some (false, c :: cs) := by
    rw [passIndentation.eq_def]
    simp only [if_neg hspace, if_neg hfeed, if_neg hbackslash]
    rfl
  rw [tokensFrom.eq_def]
  simp only [hindent, if_neg hnewline, if_neg hhash]
  rfl

/-- The tokens of a text are those that it was written from. -/
theorem tokens_of_spaced {ts : List Token} {cs : List Char} (h : Spaced ts cs)
    (hts : ∀ t ∈ ts, t.isWritable = true) {depth : Nat}
    (hdepth : ts.foldlM depthAfter 0 = some depth) :
    tokens cs = some ts := by
  have hunify :=
    unifyLineBreaks_eq_self fun c => isHidden_eq_false_of_spaced h hts
  have hbody : tokensFrom (2 * cs.length + 1) 0 false cs = some ts :=
    tokensFrom_of_spaced h hts hdepth (by omega)
  obtain ⟨c, rest, rfl, hc⟩ := h.exists_eq_cons hts
  rw [tokens]
  simp only [hunify]
  rw [tokensFrom_line hc, hbody]

/-! ## Blanks around a text -/

theorem Spaced.isBlank_of_mem_getLast? {ts : List Token} {cs : List Char}
    (h : Spaced ts cs) (hts : ∀ t ∈ ts, t.isWritable = true) :
    ∀ c ∈ cs.getLast?, Text.isBlank c = false := by
  induction h with
  | last t =>
    obtain ⟨cs, c, hconcat, hc⟩ :=
      exists_spelling_eq_concat (hts t (List.mem_singleton_self t))
    intro d hd
    obtain rfl : c = d := by simpa [hconcat] using hd
    exact hc
  | @next t u ts cs blanks happart h ih =>
    obtain ⟨-, hts⟩ := List.forall_mem_cons.mp hts
    obtain ⟨c, rest, hcs, -⟩ := h.exists_eq_cons hts
    have hne : cs ≠ [] := by
      rw [hcs]
      exact List.cons_ne_nil c rest
    rw [List.getLast?_append_of_ne_nil _
        (List.append_ne_nil_of_right_ne_nil _ hne),
      List.getLast?_append_of_ne_nil _ hne]
    exact ih hts

/-- A text that is written from tokens has no blanks around it. -/
theorem strip_of_spaced {ts : List Token} {cs : List Char} (h : Spaced ts cs)
    (hts : ∀ t ∈ ts, t.isWritable = true) :
    Text.strip cs = cs := by
  apply Text.strip_eq_self _ (h.isBlank_of_mem_getLast? hts)
  obtain ⟨c, rest, rfl, hc⟩ := h.exists_eq_cons hts
  intro d hd
  obtain rfl := Option.some.inj hd
  exact hc.1

end AccessRules.Expression
