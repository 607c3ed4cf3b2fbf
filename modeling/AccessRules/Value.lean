import AccessRules.Number.Shortest
import AccessRules.Text.Quoted

/-!
# Loosely typed values

Values that come from outside: fields of a request or a configuration before
they are checked, and the free-form details of an error report.

A value has a shown form for messages: texts are quoted, lists stand between
brackets and dictionaries between braces, in the order of their entries.
-/

namespace AccessRules

/-- A value of a data format with numbers, texts, lists and dictionaries. -/
inductive Value where
  | null
  | bool (b : Bool)
  | int (n : Int)
  | real (negative : Bool) (x : Number.Binary64)
  | text (s : String)
  | list (xs : List Value)
  | dict (entries : List (String × Value))

namespace Value

instance : Inhabited Value := ⟨.null⟩

mutual

/-- Equality of values, decided entry by entry. -/
def beq : Value → Value → Bool
  | .null, .null => true
  | .bool a, .bool b => a == b
  | .int a, .int b => a == b
  | .real a x, .real b y => a == b && decide (x = y)
  | .text a, .text b => a == b
  | .list xs, .list ys => beqList xs ys
  | .dict xs, .dict ys => beqEntries xs ys
  | _, _ => false

/-- Equality of lists of values. -/
def beqList : List Value → List Value → Bool
  | [], [] => true
  | x :: xs, y :: ys => beq x y && beqList xs ys
  | _, _ => false

/-- Equality of lists of entries. -/
def beqEntries : List (String × Value) → List (String × Value) → Bool
  | [], [] => true
  | (k, x) :: xs, (l, y) :: ys => k == l && beq x y && beqEntries xs ys
  | _, _ => false

end

mutual

theorem beq_self : ∀ v : Value, beq v v = true
  | .null => by simp [beq]
  | .bool _ => by simp [beq]
  | .int _ => by simp [beq]
  | .real _ _ => by simp [beq]
  | .text _ => by simp [beq]
  | .list xs => by simp [beq, beqList_self xs]
  | .dict xs => by simp [beq, beqEntries_self xs]

theorem beqList_self : ∀ xs : List Value, beqList xs xs = true
  | [] => by simp [beqList]
  | x :: xs => by simp [beqList, beq_self x, beqList_self xs]

theorem beqEntries_self : ∀ xs : List (String × Value), beqEntries xs xs = true
  | [] => by simp [beqEntries]
  | (_, x) :: xs => by simp [beqEntries, beq_self x, beqEntries_self xs]

end

mutual

theorem eq_of_beq : ∀ v w : Value, beq v w = true → v = w
  | .null, w, h => by cases w <;> simp_all [beq]
  | .bool _, w, h => by cases w <;> simp_all [beq]
  | .int _, w, h => by cases w <;> simp_all [beq]
  | .real _ _, w, h => by cases w <;> simp_all [beq]
  | .text _, w, h => by cases w <;> simp_all [beq]
  | .list xs, .list ys, h => by
    rw [beq] at h
    rw [eq_of_beqList xs ys h]
  | .dict xs, .dict ys, h => by
    rw [beq] at h
    rw [eq_of_beqEntries xs ys h]
  | .list _, .null, h | .list _, .bool _, h | .list _, .int _, h | .list _,
    .real _ _, h
  | .list _, .text _, h | .list _, .dict _, h => by simp [beq] at h
  | .dict _, .null, h | .dict _, .bool _, h | .dict _, .int _, h | .dict _,
    .real _ _, h
  | .dict _, .text _, h | .dict _, .list _, h => by simp [beq] at h

theorem eq_of_beqList : ∀ xs ys : List Value, beqList xs ys = true → xs = ys
  | [], [], _ => rfl
  | x :: xs, y :: ys, h => by
    rw [beqList, Bool.and_eq_true] at h
    rw [eq_of_beq x y h.1, eq_of_beqList xs ys h.2]
  | [], _ :: _, h | _ :: _, [], h => by simp [beqList] at h

theorem eq_of_beqEntries :
    ∀ xs ys : List (String × Value), beqEntries xs ys = true → xs = ys
  | [], [], _ => rfl
  | (k, x) :: xs, (l, y) :: ys, h => by
    rw [beqEntries, Bool.and_eq_true, Bool.and_eq_true, beq_iff_eq] at h
    rw [h.1.1, eq_of_beq x y h.1.2, eq_of_beqEntries xs ys h.2]
  | [], _ :: _, h | _ :: _, [], h => by simp [beqEntries] at h

end

instance : DecidableEq Value := fun v w =>
  if h : beq v w = true then isTrue (eq_of_beq v w h)
  else isFalse fun e => h (e ▸ beq_self v)

mutual

/-- The form of a value in messages. -/
def shown : Value → String
  | .null => "None"
  | .bool b => if b then "True" else "False"
  | .int n => toString n
  | .real negative x => (if negative then "-" else "") ++ x.text .plain
  | .text s => Text.quoted s
  | .list xs => Text.listed (shownList xs)
  | .dict xs => "\x7b" ++ ", ".intercalate (shownEntries xs) ++ "\x7d"

/-- The forms of the members of a list. -/
def shownList : List Value → List String
  | [] => []
  | x :: xs => shown x :: shownList xs

/-- The forms of the entries of a dictionary. -/
def shownEntries : List (String × Value) → List String
  | [] => []
  | (k, x) :: xs => (Text.quoted k ++ ": " ++ shown x) :: shownEntries xs

end

/-- Equality of numbers, a truth value counting as one or zero. -/
def sameNumber : Value → Value → Bool
  | .int m, .int n => m == n
  | .int n, .real negative x | .real negative x, .int n =>
    if 0 < n then !negative && x.equalsNat n.natAbs
    else if n < 0 then negative && x.equalsNat n.natAbs
    else x.isZero
  | .real a x, .real b y => (x.isZero && y.isZero) || (a == b && decide (x = y))
  | _, _ => false

/-- A truth value as the number it counts as; other values stay as they are. -/
def counted : Value → Value
  | .bool b => .int b.toNat
  | v => v

mutual

/-- Equality up to the kind of numbers and the order of dictionaries. -/
def same : Value → Value → Bool
  | .null, .null => true
  | .text a, .text b => a == b
  | .list xs, .list ys => sameList xs ys
  | .dict xs, .dict ys => xs.length == ys.length && sameEntries xs ys
  | v, w => sameNumber v.counted w.counted

/-- Equality of lists up to the kind of numbers. -/
def sameList : List Value → List Value → Bool
  | [], [] => true
  | x :: xs, y :: ys => same x y && sameList xs ys
  | _, _ => false

/-- Whether a dictionary has all the given entries. -/
def sameEntries : List (String × Value) → List (String × Value) → Bool
  | [], _ => true
  | (k, x) :: xs, ys =>
    (match ys.lookup k with
      | some y => same x y
      | none => false) && sameEntries xs ys

end

/-- The name of the kind of a value. -/
def kindName : Value → String
  | .null => "NoneType"
  | .bool _ => "bool"
  | .int _ => "int"
  | .real _ _ => "float"
  | .text _ => "str"
  | .list _ => "list"
  | .dict _ => "dict"

/-- A list of texts. -/
def texts (xs : List String) : Value := .list (xs.map .text)

/-- An optional text, null when there is none. -/
def ofText? : Option String → Value
  | some s => .text s
  | none => .null

/-- The value under a key of a dictionary. -/
def field? (key : String) : Value → Option Value
  | .dict entries => entries.lookup key
  | _ => none

end Value

end AccessRules
