import AccessRules.Pattern.Ant
import Mathlib.Data.List.Basic

/-!
# Reading translated path patterns

The tokens of a path pattern are written one after the other as the text of a
regular expression.  Reading this text gives the regular expression of the
pattern back, so the translation of a pattern is always well-formed.

The reader takes the items of a text from the front.  No token is written with a
quantifier at its front, so what stands behind a token is never read as a part
of it.
-/

namespace AccessRules.Regex

/-! ## Taking items -/

namespace Reader

variable {α β : Type} {s s' : Progress} {items : List Item} {c : Char}

theorem bind_apply {x : Reader α} {f : α → Reader β} {a : α}
    (h : x s = .ok (a, s')) :
    (x >>= f) s = f a s' := by
  change (x s >>= fun r => f r.1 r.2) = _
  rw [h]
  rfl

theorem get_apply (s : Progress) : (get : Reader Progress) s = .ok (s, s) := rfl

theorem rest_apply (s : Progress) : rest s = .ok (s.rest, s) := rfl

theorem proceed_apply (h : items.head? ≠ some .dangling) (s : Progress) :
    proceed items s = .ok ((), { s with rest := items }) := by
  match items, h with
  | [], _ => rfl
  | .plain _ :: _, _ => rfl
  | .escaped _ :: _, _ => rfl
  | .dangling :: _, h => exact absurd rfl h

theorem accept_apply (h : s.rest = .plain c :: items)
    (hitems : items.head? ≠ some .dangling) :
    accept c s = .ok (true, { s with rest := items }) := by
  rw [accept, bind_apply (rest_apply s), h]
  simp only [↓reduceIte]
  rw [bind_apply (proceed_apply hitems s)]
  rfl

theorem accept_apply_of_head?_ne (h : s.rest.head? ≠ some (.plain c)) :
    accept c s = .ok (false, s) := by
  rw [accept, bind_apply (rest_apply s)]
  cases hrest : s.rest with
  | nil => rfl
  | cons i is =>
    have hi : i ≠ .plain c := by
      rintro rfl
      exact h (by rw [hrest]; rfl)
    simp only [if_neg hi]
    rfl

theorem next_apply {i : Item} (h : s.rest = i :: items)
    (hitems : items.head? ≠ some .dangling) :
    next s = .ok (i, { s with rest := items }) := by
  rw [next, bind_apply (rest_apply s), h]
  simp only
  rw [bind_apply (proceed_apply hitems s)]
  rfl

theorem require_apply {condition : Bool} (h : condition = true) (s : Progress) :
    require condition s = .ok ((), s) := by
  rw [require, if_pos h]
  rfl

theorem expect_apply (h : s.rest = .plain c :: items)
    (hitems : items.head? ≠ some .dangling) :
    expect c s = .ok ((), { s with rest := items }) := by
  rw [expect, bind_apply (accept_apply h hitems)]
  exact require_apply rfl _

end Reader

/-! ## Taking pieces -/

/-- Characters that a sequence does not take for themselves. -/
def syntaxChars : List Char := ['|', ')', '(', '[', '*', '+', '?', '\x7b']

/-- Items that can stand behind a repetition without changing its preference. -/
def LeavesGreedy (items : List Item) : Prop :=
  items.head? ≠ some .dangling ∧ items.head? ≠ some (.plain '?') ∧
    items.head? ≠ some (.plain '+')

section Sequences

variable {fuel : Nat} {o : Options} {isFirst : Bool} {pieces : List Piece}
  {s : Progress} {items : List Item}

theorem isIgnored_of_not_verbose (ho : o.verbose = false) (i : Item) :
    isIgnored o i = false := by
  simp [isIgnored, ho]

/-- A sequence ends with the pattern. -/
theorem readSequence_nil (h : s.rest = []) :
    readSequence (fuel + 1) o isFirst pieces s =
      .ok (pieces.reverse.flatMap (·.parts), s) := by
  rw [readSequence, Reader.bind_apply (Reader.rest_apply s), h]
  rfl

/-- A sequence ends with the group around it. -/
theorem readSequence_close (h : s.rest = .plain ')' :: items) :
    readSequence (fuel + 1) o isFirst pieces s =
      .ok (pieces.reverse.flatMap (·.parts), s) := by
  rw [readSequence, Reader.bind_apply (Reader.rest_apply s), h]
  rfl

theorem readSequence_plain (ho : o.verbose = false) {c : Char}
    (h : s.rest = .plain c :: items) (hitems : items.head? ≠ some .dangling)
    (hc : c ∉ syntaxChars) :
    readSequence (fuel + 1) o isFirst pieces s =
      readSequence fuel o isFirst (Piece.ofChar o c :: pieces)
        { s with rest := items } := by
  simp only [syntaxChars, List.mem_cons, List.not_mem_nil, or_false,
    not_or] at hc
  rw [readSequence, Reader.bind_apply (Reader.rest_apply s), h]
  simp only [Item.plain.injEq, hc, decide_false, Bool.or_self,
    Bool.false_eq_true, ↓reduceIte]
  rw [Reader.bind_apply (Reader.proceed_apply hitems s),
    isIgnored_of_not_verbose ho, ho]
  rfl

/-- The escaped form of a special character stands for that character. -/
theorem escape_read_special {c : Char} (hc : c ∈ Pattern.Token.special)
    (s : Progress) :
    Escape.read false c s = .ok (.letter c.toNat, s) := by
  have hplain : Pattern.Token.special.all fun d =>
      Escape.anchor? false d = none ∧ d ≠ '0' ∧ d.isDigit = false ∧
        Escape.category? d = none ∧ Escape.control? d = none ∧
        Escape.hexLength? d = none ∧ d.isAlphanum = false := by
    decide
  obtain ⟨hanchor, hzero, hdigit, hcategory, hcontrol, hhex, halnum⟩ :=
    of_decide_eq_true (List.all_eq_true.mp hplain c hc)
  rw [Escape.read, hanchor]
  simp only [if_neg hzero, hdigit, Bool.false_eq_true, ↓reduceIte]
  rw [Escape.readCommon, hcategory, hcontrol, hhex]
  simp only
  rw [Reader.bind_apply (Reader.require_apply (by rw [halnum]; rfl) s)]
  rfl

theorem readSequence_escaped (ho : o.verbose = false)
    (hascii : o.asciiOnly = false) {c : Char}
    (h : s.rest = .escaped c :: items) (hitems : items.head? ≠ some .dangling)
    (hc : c ∈ Pattern.Token.special) :
    readSequence (fuel + 1) o isFirst pieces s =
      readSequence fuel o isFirst
        (.simple (.test (.letter false c.toNat o.folding)) :: pieces)
        { s with rest := items } := by
  rw [readSequence, Reader.bind_apply (Reader.rest_apply s), h]
  simp only [reduceCtorEq, decide_false, Bool.or_self, Bool.false_eq_true,
    ↓reduceIte]
  rw [Reader.bind_apply (Reader.proceed_apply hitems s),
    isIgnored_of_not_verbose ho, ho, hascii]
  simp only [Bool.false_eq_true, ↓reduceIte, Bool.false_and]
  rw [Reader.bind_apply (escape_read_special hc _)]
  rfl

theorem Member.readAll_plain {asciiOnly : Bool} {members : List Member}
    {c : Char} (h : s.rest = .plain c :: items) (hc : c ≠ ']')
    (hitems : items.head? ≠ some .dangling)
    (hhyphen : items.head? ≠ some (.plain '-')) :
    Member.readAll asciiOnly (fuel + 1) members s =
      Member.readAll asciiOnly fuel (members ++ [.single c.toNat])
        { s with rest := items } := by
  rw [Member.readAll, Reader.bind_apply (Reader.next_apply h hitems)]
  simp only [Item.plain.injEq, hc, decide_false, Bool.false_and,
    Bool.false_eq_true, ↓reduceIte]
  have hread : Member.read asciiOnly (.plain c) { s with rest := items } =
      .ok (.single c.toNat, { s with rest := items }) := rfl
  rw [Reader.bind_apply hread,
    Reader.bind_apply (Reader.accept_apply_of_head?_ne hhyphen)]
  rfl

theorem Member.readAll_close {asciiOnly : Bool} {members : List Member}
    (h : s.rest = .plain ']' :: items) (hmembers : members.isEmpty = false)
    (hitems : items.head? ≠ some .dangling) :
    Member.readAll asciiOnly (fuel + 1) members s =
      .ok (members, { s with rest := items }) := by
  rw [Member.readAll, Reader.bind_apply (Reader.next_apply h hitems)]
  simp only [hmembers, decide_true, Bool.not_false, Bool.and_self,
    ↓reduceIte]
  rfl

/-- The set of all characters but the slash. -/
theorem readSet_notSlash
    (h : s.rest = .plain '^' :: .plain '/' :: .plain ']' :: items)
    (hitems : items.head? ≠ some .dangling) :
    CharTest.readSet o s =
      .ok (.letter true '/'.toNat o.folding, { s with rest := items }) := by
  rw [CharTest.readSet, Reader.bind_apply (Reader.accept_apply h (by simp)),
    Reader.bind_apply (Reader.rest_apply _)]
  have hmembers : Member.readAll o.asciiOnly
      ((Item.plain '/' :: .plain ']' :: items).length + 1) []
      { s with rest := .plain '/' :: .plain ']' :: items } =
        .ok ([.single '/'.toNat], { s with rest := items }) := by
    rw [Member.readAll_plain rfl (by simp) (by simp) (by simp)]
    exact Member.readAll_close rfl rfl hitems
  rw [Reader.bind_apply hmembers]
  rfl

theorem readSequence_notSlash (ho : o.verbose = false)
    (h : s.rest = .plain '[' :: .plain '^' :: .plain '/' :: .plain ']' :: items)
    (hitems : items.head? ≠ some .dangling) :
    readSequence (fuel + 1) o isFirst pieces s =
      readSequence fuel o isFirst
        (.simple (.test (.letter true '/'.toNat o.folding)) :: pieces)
        { s with rest := items } := by
  rw [readSequence, Reader.bind_apply (Reader.rest_apply s), h]
  simp only [Item.plain.injEq, Char.reduceEq, decide_false, Bool.or_self,
    Bool.false_eq_true, ↓reduceIte]
  rw [Reader.bind_apply (Reader.proceed_apply (by simp) s),
    isIgnored_of_not_verbose ho, ho]
  simp only [Bool.false_eq_true, ↓reduceIte, Bool.false_and]
  rw [Reader.bind_apply (readSet_notSlash rfl hitems)]

theorem readGreed_apply (h : LeavesGreedy s.rest) :
    readGreed s = .ok (.greedy, s) := by
  rw [readGreed, Reader.bind_apply (Reader.accept_apply_of_head?_ne h.2.1)]
  simp only [Bool.false_eq_true, ↓reduceIte]
  rw [Reader.bind_apply (Reader.accept_apply_of_head?_ne h.2.2)]
  rfl

theorem repeatLast_apply {least : Nat} {most : Option Nat} {p : Piece}
    (hp : p.kind = .plain) (h : LeavesGreedy s.rest) :
    repeatLast least most (p :: pieces) s =
      .ok (⟨.repeated, [⟨false, .loop least most .greedy p.node⟩]⟩ :: pieces,
        s) := by
  rw [repeatLast, Reader.bind_apply (Reader.require_apply (by simp [hp]) s),
    Reader.bind_apply (readGreed_apply h)]
  rfl

/-- A star or a question mark behind a piece. -/
theorem readSequence_quantifier (ho : o.verbose = false) {p : Piece}
    {q : Char} {most : Option Nat}
    (hq : q = '*' ∧ most = none ∨ q = '?' ∧ most = some 1)
    (hp : p.kind = .plain) (h : s.rest = .plain q :: items)
    (hitems : LeavesGreedy items) :
    readSequence (fuel + 1) o isFirst (p :: pieces) s =
      readSequence fuel o isFirst
        (⟨.repeated, [⟨false, .loop 0 most .greedy p.node⟩]⟩ :: pieces)
        { s with rest := items } := by
  have hlimits : readLimits? q { s with rest := items } =
      .ok (some (0, most), { s with rest := items }) := by
    rcases hq with ⟨rfl, rfl⟩ | ⟨rfl, rfl⟩
    · rfl
    · rfl
  have hchar : (q = '|') = False ∧ (q = ')') = False ∧ (q = '(') = False ∧
      (q = '[') = False ∧ (q = '*' ∨ q = '?') := by
    rcases hq with ⟨rfl, -⟩ | ⟨rfl, -⟩
    · simp
    · simp
  obtain ⟨hbar, hclose, hopen, hbracket, hstar⟩ := hchar
  rw [readSequence, Reader.bind_apply (Reader.rest_apply s), h]
  simp only [Item.plain.injEq, hbar, hclose, decide_false, Bool.or_self,
    Bool.false_eq_true, ↓reduceIte]
  rw [Reader.bind_apply (Reader.proceed_apply hitems.1 s),
    isIgnored_of_not_verbose ho, ho]
  simp only [Bool.false_eq_true, ↓reduceIte, Bool.false_and, hopen, hbracket]
  rw [if_pos (by rcases hstar with rfl | rfl <;> rfl),
    Reader.bind_apply hlimits]
  simp only
  rw [Reader.bind_apply (repeatLast_apply hp hitems)]

/-! ## Groups without a number -/

theorem opening_read_bare (h : s.rest = .plain '?' :: .plain ':' :: items)
    (hitems : items.head? ≠ some .dangling) :
    Opening.read o s = .ok (.bare, { s with rest := items }) := by
  rw [Opening.read, Reader.bind_apply (Reader.accept_apply h (by simp))]
  simp only [Bool.not_true, Bool.false_eq_true, ↓reduceIte]
  rw [Reader.bind_apply (Reader.accept_apply_of_head?_ne (by simp))]
  simp only [Bool.false_eq_true, ↓reduceIte]
  rw [Reader.bind_apply (Reader.accept_apply rfl hitems)]
  rfl

/-- A choice of one sequence is that sequence. -/
theorem readChoice_of_readSequence {isWhole : Bool} {s' : Progress}
    {parts : List Part}
    (h : readSequence (fuel + 1) o isWhole [] s = .ok (parts, s'))
    (hbar : s'.rest.head? ≠ some (.plain '|')) :
    readChoice (fuel + 2) o isWhole s = .ok (parts, s') := by
  rw [readChoice, Reader.bind_apply h, readOthers, bind_assoc,
    Reader.bind_apply (Reader.accept_apply_of_head?_ne hbar)]
  rfl

/-- A group without a number is one piece. -/
theorem readSequence_bare (ho : o.verbose = false)
    (h : s.rest = .plain '(' :: .plain '?' :: .plain ':' :: items)
    {parts : List Part} {s' : Progress} {more : List Item}
    (hitems : items.head? ≠ some .dangling)
    (hbody : readSequence (fuel + 1) o false [] { s with rest := items } =
      .ok (parts, s'))
    (hclose : s'.rest = .plain ')' :: more)
    (hmore : more.head? ≠ some .dangling) :
    readSequence (fuel + 4) o isFirst pieces s =
      readSequence (fuel + 3) o isFirst (⟨.plain, parts⟩ :: pieces)
        { s' with rest := more } := by
  have hgroup : readGroup (fuel + 3) o .bare { s with rest := items } =
      .ok (⟨.plain, parts⟩, { s' with rest := more }) := by
    rw [readGroup,
      Reader.bind_apply (readChoice_of_readSequence hbody (by simp [hclose])),
      Reader.bind_apply (Reader.expect_apply hclose hmore)]
    rfl
  rw [readSequence, Reader.bind_apply (Reader.rest_apply s), h]
  simp only [Item.plain.injEq, Char.reduceEq, decide_false, Bool.or_self,
    Bool.false_eq_true, ↓reduceIte]
  rw [Reader.bind_apply (Reader.proceed_apply (by simp) s),
    isIgnored_of_not_verbose ho, ho]
  simp only [Bool.false_eq_true, ↓reduceIte, Bool.false_and]
  rw [Reader.bind_apply (opening_read_bare rfl hitems)]
  simp only [reduceCtorEq, ↓reduceIte]
  rw [Reader.bind_apply hgroup]

end Sequences

end AccessRules.Regex

namespace AccessRules.Pattern

open Regex

/-! ## Tokens -/

namespace Token

/-- The items of the written form of a token. -/
def items : Token → List Item
  | subtree => ['(', '?', ':', '/', '.', '*', ')', '?'].map .plain
  | anything => ['.', '*'].map .plain
  | run => ['[', '^', '/', ']', '*'].map .plain
  | one => ['[', '^', '/', ']'].map .plain
  | letter c => if special.contains c then [.escaped c] else [.plain c]

/-- How many steps a sequence takes to read the written form of a token. -/
def steps : Token → Nat
  | one | letter _ => 1
  | subtree | anything | run => 2

theorem steps_le_length_items (t : Token) : t.steps ≤ t.items.length := by
  cases t with
  | letter c =>
    rw [items]
    split <;> exact Nat.le_refl 1
  | _ => simp [steps, items]

/-- The piece that is read from the written form of a token. -/
def piece (f : Folding) : Token → Piece
  | one => .simple (node f one)
  | letter c => .simple (node f (letter c))
  | t => ⟨.repeated, [⟨false, node f t⟩]⟩

theorem map_node_piece (f : Folding) (t : Token) :
    (t.piece f).parts.map (·.node) = [t.node f] := by
  cases t <;> rfl

theorem items_letter_of_mem {c : Char} (hc : c ∈ special) :
    items (letter c) = [.escaped c] :=
  if_pos (List.contains_iff_mem.mpr hc)

theorem items_letter_of_notMem {c : Char} (hc : c ∉ special) :
    items (letter c) = [.plain c] :=
  if_neg (mt List.contains_iff_mem.mp hc)

theorem regexText_letter_of_mem {c : Char} (hc : c ∈ special) :
    regexText (letter c) = ['\\', c] :=
  if_pos (List.contains_iff_mem.mpr hc)

theorem regexText_letter_of_notMem {c : Char} (hc : c ∉ special) :
    regexText (letter c) = [c] :=
  if_neg (mt List.contains_iff_mem.mp hc)

/-- A character that is no special one differs from all of them. -/
theorem ne_of_notMem_special {c d : Char} (hc : c ∉ special)
    (hd : d ∈ special) : c ≠ d := by
  rintro rfl
  exact hc hd

theorem ofChars_regexText (t : Token) (cs : List Char) :
    Item.ofChars (t.regexText ++ cs) = t.items ++ Item.ofChars cs := by
  cases t with
  | letter c =>
    by_cases hc : c ∈ special
    · rw [regexText_letter_of_mem hc, items_letter_of_mem hc]
      simp [Item.ofChars]
    · have hne : c ≠ '\\' := ne_of_notMem_special hc (by decide)
      rw [regexText_letter_of_notMem hc, items_letter_of_notMem hc]
      simp [Item.ofChars, hne]
  | _ => rfl

theorem ofChars_flatMap_regexText (ts : List Token) :
    Item.ofChars (ts.flatMap regexText) = ts.flatMap items := by
  induction ts with
  | nil => rfl
  | cons t ts ih =>
    rw [List.flatMap_cons, ofChars_regexText, ih, List.flatMap_cons]

/-- No token is written with a quantifier at its front. -/
theorem leavesGreedy_items (ts : List Token) :
    LeavesGreedy (ts.flatMap items) := by
  cases ts with
  | nil => simp [LeavesGreedy]
  | cons t ts =>
    cases t with
    | letter c =>
      by_cases hc : c ∈ special
      · rw [List.flatMap_cons, items_letter_of_mem hc]
        simp [LeavesGreedy]
      · have hquestion : c ≠ '?' := ne_of_notMem_special hc (by decide)
        have hplus : c ≠ '+' := ne_of_notMem_special hc (by decide)
        rw [List.flatMap_cons, items_letter_of_notMem hc]
        simp [LeavesGreedy, hquestion, hplus]
    | _ => simp [LeavesGreedy, items]

/-- A character that is no special one is a piece of its own. -/
theorem pieceOfChar_of_notMem_special (o : Options) {c : Char}
    (hc : c ∉ special) :
    Piece.ofChar o c = (letter c).piece o.folding := by
  have hdot : c ≠ '.' := ne_of_notMem_special hc (by decide)
  have hcaret : c ≠ '^' := ne_of_notMem_special hc (by decide)
  have hdollar : c ≠ '$' := ne_of_notMem_special hc (by decide)
  rw [Piece.ofChar, if_neg hdot, if_neg hcaret, if_neg hdollar]
  rfl

end Token

section Sequences

variable {fuel : Nat} {o : Options} {isFirst : Bool} {pieces : List Piece}
  {s : Progress} {more : List Item}

/-- Reading the written form of a subtree. -/
theorem readSequence_subtree (ho : o.verbose = false)
    (hdot : o.dotAll = false) (hfuel : 5 ≤ fuel)
    (h : s.rest = Token.subtree.items ++ more) (hmore : LeavesGreedy more) :
    readSequence (fuel + 2) o isFirst pieces s =
      readSequence fuel o isFirst (Token.subtree.piece o.folding :: pieces)
        { s with rest := more } := by
  obtain ⟨left, rfl⟩ := Nat.exists_eq_add_of_le' hfuel
  have hbody : readSequence (left + 4) o false []
      { s with rest := ['/', '.', '*', ')', '?'].map .plain ++ more } =
        .ok ([⟨true, .test (.letter false '/'.toNat o.folding)⟩,
            ⟨false, many (.test .notNewline)⟩],
          { s with rest := [')', '?'].map .plain ++ more }) := by
    rw [readSequence_plain ho rfl (by simp) (by decide),
      readSequence_plain ho rfl (by simp) (by decide),
      readSequence_quantifier ho (Or.inl ⟨rfl, rfl⟩)
        (by simp [Piece.ofChar, Piece.simple]) rfl (by simp [LeavesGreedy]),
      readSequence_close rfl]
    simp [Piece.ofChar, Piece.simple, Piece.node, Node.sequence, hdot, many]
  rw [readSequence_bare ho h (by simp) hbody rfl (by simp),
    readSequence_quantifier ho (Or.inr ⟨rfl, rfl⟩) rfl rfl hmore]
  rfl

/-- Reading the written form of a token. -/
theorem readSequence_token (ho : o.verbose = false) (hdot : o.dotAll = false)
    (hascii : o.asciiOnly = false) (t : Token)
    (hfuel : t.items.length ≤ fuel + t.steps)
    (h : s.rest = t.items ++ more) (hmore : LeavesGreedy more) :
    readSequence (fuel + t.steps) o isFirst pieces s =
      readSequence fuel o isFirst (t.piece o.folding :: pieces)
        { s with rest := more } := by
  cases t with
  | subtree =>
    have hlength : Token.subtree.items.length = 8 := rfl
    have hsteps : Token.subtree.steps = 2 := rfl
    exact readSequence_subtree ho hdot (by omega) h hmore
  | anything =>
    rw [Token.steps, readSequence_plain ho h (by simp) (by decide),
      readSequence_quantifier ho (Or.inl ⟨rfl, rfl⟩)
        (by simp [Piece.ofChar, Piece.simple]) rfl hmore]
    simp [Piece.ofChar, hdot]
    rfl
  | run =>
    rw [Token.steps, readSequence_notSlash ho h (by simp),
      readSequence_quantifier ho (Or.inl ⟨rfl, rfl⟩) rfl rfl hmore]
    rfl
  | one =>
    rw [Token.steps, readSequence_notSlash ho h hmore.1]
    rfl
  | letter c =>
    by_cases hc : c ∈ Token.special
    · rw [Token.items_letter_of_mem hc, List.singleton_append] at h
      rw [Token.steps, readSequence_escaped ho hascii h hmore.1 hc]
      rfl
    · rw [Token.items_letter_of_notMem hc, List.singleton_append] at h
      have hsyntax : c ∉ syntaxChars := by
        intro hmem
        have hspecial : syntaxChars.all (· ∈ Token.special) := by decide
        exact hc (of_decide_eq_true (List.all_eq_true.mp hspecial c hmem))
      rw [Token.steps, readSequence_plain ho h hmore.1 hsyntax,
        Token.pieceOfChar_of_notMem_special o hc]

/-- Reading the written forms of tokens, up to the end of the pattern. -/
theorem readSequence_tokens (ho : o.verbose = false) (hdot : o.dotAll = false)
    (hascii : o.asciiOnly = false) (ts : List Token)
    (hfuel : (ts.flatMap Token.items).length < fuel)
    (h : s.rest = ts.flatMap Token.items) :
    readSequence fuel o isFirst pieces s =
      .ok ((pieces.reverse ++ ts.map (Token.piece o.folding)).flatMap (·.parts),
        { s with rest := [] }) := by
  induction ts generalizing fuel pieces s with
  | nil =>
    obtain ⟨left, rfl⟩ := Nat.exists_eq_succ_of_ne_zero (Nat.ne_of_gt hfuel)
    have hs : s = { s with rest := [] } := by
      rw [← show s.rest = [] from h]
    rw [readSequence_nil h, ← hs, List.map_nil, List.append_nil]
  | cons t ts ih =>
    rw [List.flatMap_cons, List.length_append] at hfuel
    have hsteps : t.steps ≤ t.items.length := t.steps_le_length_items
    obtain ⟨left, rfl⟩ :=
      Nat.exists_eq_add_of_le' (show t.steps ≤ fuel by omega)
    rw [readSequence_token ho hdot hascii t (by omega)
        (by rw [h, List.flatMap_cons]) (Token.leavesGreedy_items ts),
      ih (by omega) rfl]
    simp

end Sequences

/-! ## Translated patterns -/

theorem looksBehindEvenly_node (groups : Nat → Width) (f : Folding)
    (t : Token) :
    (t.node f).looksBehindEvenly groups = true := by
  cases t <;> rfl

theorem looksBehindEvenly_sequence (groups : Nat → Width) {ns : List Node}
    (h : ∀ n ∈ ns, n.looksBehindEvenly groups = true) :
    (Node.sequence ns).looksBehindEvenly groups = true := by
  induction ns with
  | nil => rfl
  | cons n ns ih =>
    rw [List.forall_mem_cons] at h
    cases ns with
    | nil => exact h.1
    | cons m ms =>
      rw [Node.sequence, Node.looksBehindEvenly, h.1, ih h.2]
      · rfl
      · simp

theorem map_node_flatMap_piece (f : Folding) (ts : List Token) :
    ((ts.map (Token.piece f)).flatMap (·.parts)).map (·.node) =
      ts.map (Token.node f) := by
  induction ts with
  | nil => rfl
  | cons t ts ih =>
    rw [List.map_cons, List.flatMap_cons, List.map_append, ih,
      Token.map_node_piece, List.map_cons, List.singleton_append]

/-- The written forms of tokens, one after the other, are well-formed and read
as the regular expressions of the tokens in a row. -/
theorem read_flatMap_regexText (caseSensitive : Bool) (ts : List Token) :
    Regex.read (!caseSensitive) (ts.flatMap Token.regexText) =
      .ok (Node.sequence (ts.map (Token.node (folding caseSensitive)))) := by
  let options : Options := ⟨!caseSensitive, false, false, false, false⟩
  let start : Progress :=
    ⟨ts.flatMap Token.items, options, false, false, [], [], [], none⟩
  have hitems : Item.ofChars (ts.flatMap Token.regexText) = start.rest :=
    Token.ofChars_flatMap_regexText ts
  have hfolding : options.folding = folding caseSensitive := by
    cases caseSensitive <;> rfl
  have hchoice : readChoice (4 * start.rest.length + 4) options true start =
      .ok ((ts.map (Token.piece (folding caseSensitive))).flatMap (·.parts),
        { start with rest := [] }) := by
    apply readChoice_of_readSequence _ (by simp)
    rw [readSequence_tokens rfl rfl rfl ts (by simp [start]; omega) rfl,
      hfolding]
    simp
  let node := Node.sequence (ts.map (Token.node (folding caseSensitive)))
  have hnode : Part.join
      ((ts.map (Token.piece (folding caseSensitive))).flatMap (·.parts)) =
        node := by
    rw [Part.join, map_node_flatMap_piece]
  have heven : node.looksBehindEvenly (Reader.widthOf []) = true := by
    apply looksBehindEvenly_sequence
    intro n hn
    obtain ⟨t, -, rfl⟩ := List.mem_map.mp hn
    exact looksBehindEvenly_node _ _ t
  have hpattern : readPattern start.rest.length start =
      .ok (node, { start with rest := [] }) := by
    rw [readPattern, Reader.bind_apply (Reader.rest_apply start),
      Reader.bind_apply
        (Reader.proceed_apply (Token.leavesGreedy_items ts).1 start),
      Reader.bind_apply (Reader.get_apply start),
      Reader.bind_apply hchoice, Reader.bind_apply (Reader.get_apply _)]
    -- nothing in the text sets an option, opens a numbered group or refers to
    -- one
    simp only [start, options, hnode, heven, Bool.and_self, Bool.false_and,
      Bool.false_eq_true, ↓reduceIte, List.isEmpty_nil, List.all_nil]
    rfl
  rw [Regex.read, hitems, hpattern]
  rfl

/-- The text that a path pattern is translated to is well-formed, and is read as
the regular expression of the pattern. -/
theorem read_regexText (caseSensitive : Bool) (pattern : String) :
    Regex.read (!caseSensitive) (regexText pattern).toList =
      .ok (node caseSensitive pattern) := by
  rw [regexText, String.toList_ofList, read_flatMap_regexText]
  rfl

end AccessRules.Pattern
