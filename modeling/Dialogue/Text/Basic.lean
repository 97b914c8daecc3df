/-!
# Texts

A text is the list of its characters, so that every rule on texts is a recursion on a list. This
module holds the cuts that the rest of the library is built on: a text falls into lines at its line
breaks (`lines`, `printedLines`, and `splitOn` for any separator), loses characters at one of its
ends (`trimEndWhile`, `trimWhile`), or has its carriage returns before line breaks removed
(`unifyBreaks`). `ofNat` is the decimal writing of a number.
-/

set_option autoImplicit false
set_option relaxedAutoImplicit false

namespace Dialogue

/-- A text is the list of its characters. -/
abbrev Text := List Char

namespace Text

/-! ### Lines -/

/-- The pieces of a text between its separators. The empty text has one empty piece. -/
def splitOn (separator : Char) : Text → List Text
  | [] => [[]]
  | c :: rest =>
    if c = separator then [] :: splitOn separator rest
    else
      match splitOn separator rest with
      | [] => [[c]]
      | piece :: pieces => (c :: piece) :: pieces

theorem splitOn_ne_nil (separator : Char) (text : Text) : splitOn separator text ≠ [] := by
  cases text with
  | nil => simp [splitOn]
  | cons c rest =>
    simp only [splitOn]
    split
    · simp
    · split <;> simp

theorem head_of_dropWhile_ne {c d : Char} {text rest : Text}
    (h : text.dropWhile (· != c) = d :: rest) : d = c := by
  induction text with
  | nil => simp at h
  | cons e text ih =>
    by_cases he : e = c
    · simp only [List.dropWhile_cons, he, bne_self_eq_false, Bool.false_eq_true, if_false,
        List.cons.injEq] at h
      exact h.1.symm
    · simp only [List.dropWhile_cons, bne_iff_ne, ne_eq, he, not_false_eq_true, if_true] at h
      exact ih h

theorem eq_append_of_dropWhile_ne {c d : Char} {text rest : Text}
    (h : text.dropWhile (· != c) = d :: rest) : text = text.takeWhile (· != c) ++ c :: rest := by
  have heq := List.takeWhile_append_dropWhile (p := (· != c)) (l := text)
  rw [h, head_of_dropWhile_ne h] at heq
  exact heq.symm

/-- The lines of a text, without their line breaks. A final line break starts no further line. -/
def lines : Text → List Text
  | [] => []
  | c :: rest =>
    if c = '\n' then [] :: lines rest
    else
      match lines rest with
      | [] => [[c]]
      | line :: others => (c :: line) :: others

/-- The lines of a text as they are shown: a line break may be written as a carriage return and a
line feed, and then neither belongs to the line. -/
def printedLines : Text → List Text
  | [] => []
  | '\r' :: '\n' :: rest => [] :: printedLines rest
  | c :: rest =>
    if c = '\n' then [] :: printedLines rest
    else
      match printedLines rest with
      | [] => [[c]]
      | line :: others => (c :: line) :: others

/-- The pieces joined with a separator between neighbours. -/
def joinWith (separator : Text) : List Text → Text
  | [] => []
  | [piece] => piece
  | piece :: next :: pieces => piece ++ separator ++ joinWith separator (next :: pieces)

/-- Every carriage return that stands before a line feed is removed. -/
def unifyBreaks : Text → Text
  | [] => []
  | '\r' :: '\n' :: rest => '\n' :: unifyBreaks rest
  | c :: rest => c :: unifyBreaks rest

/-! ### Ends -/

/-- The text without the longest run at its end whose characters all satisfy the test. -/
def trimEndWhile (test : Char → Bool) (text : Text) : Text :=
  (text.reverse.dropWhile test).reverse

/-- The text without the longest runs at either end whose characters all satisfy the test. -/
def trimWhile (test : Char → Bool) (text : Text) : Text :=
  trimEndWhile test (text.dropWhile test)

/-- The text without the carriage returns at its end. -/
def trimReturns (text : Text) : Text :=
  trimEndWhile (· == '\r') text

/-- What follows the given beginning, if the text begins so. -/
def afterStart? : Text → Text → Option Text
  | [], text => some text
  | _ :: _, [] => none
  | b :: start, c :: text => if b = c then afterStart? start text else none

/-- Whether a text ends with another one. -/
def endsWith (ending text : Text) : Bool :=
  ending.reverse.isPrefixOf text.reverse

/-! ### Replacing -/

/-- The text behind its first `skipped` characters, with every occurrence of a part replaced, where
occurrences are looked for from left to right and do not overlap. -/
def replaceBehind (part replacement : Text) (skipped : Nat) : Text → Text
  | [] => []
  | c :: rest =>
    if skipped > 0 then replaceBehind part replacement (skipped - 1) rest
    else if part.isPrefixOf (c :: rest) then
      replacement ++ replaceBehind part replacement (part.length - 1) rest
    else c :: replaceBehind part replacement 0 rest

/-- The text with every occurrence of a part replaced. -/
def replaceAll (part replacement text : Text) : Text :=
  replaceBehind part replacement 0 text

/-! ### Numbers -/

/-- The decimal writing of a number. -/
def ofNat (n : Nat) : Text :=
  Nat.toDigits 10 n

/-- The value of a run of digits of a base, or none if the text is empty or holds anything else. -/
def toNat? (base : Nat) (text : Text) : Option Nat :=
  if text.isEmpty then none
  else text.foldl (fun value c ↦ do
    let value ← value
    let digit ← digitValue? c
    if digit < base then some (value * base + digit) else none) (some 0)
where
  /-- The value of a digit or a letter that stands for one. -/
  digitValue? (c : Char) : Option Nat :=
    if '0' ≤ c ∧ c ≤ '9' then some (c.toNat - '0'.toNat)
    else if 'a' ≤ c ∧ c ≤ 'z' then some (c.toNat - 'a'.toNat + 10)
    else if 'A' ≤ c ∧ c ≤ 'Z' then some (c.toNat - 'A'.toNat + 10)
    else none

/-- A number written with the upper-case digits of base sixteen, filled up with zeros. -/
def hexadecimal (width n : Nat) : Text :=
  let digits := (Nat.toDigits 16 n).map Char.toUpper
  List.replicate (width - digits.length) '0' ++ digits

end Text

end Dialogue
