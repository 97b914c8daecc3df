import Dialogue.Text.Basic

/-!
# Patterns for names

A pattern is matched against a whole name. `?` stands for any character, `*` for any run of
characters, and brackets for one character out of a set, or out of its complement after an
exclamation mark. `**` may stand only as a component of its own, and stands for any run of whole
components. A pattern that breaks these rules matches nothing.
-/

set_option autoImplicit false
set_option relaxedAutoImplicit false

namespace Dialogue.Pattern

/-! ### Patterns -/

/-- A range of characters, its ends included. -/
structure CharRange where
  low : Char
  high : Char
  deriving Repr, DecidableEq

/-- A part of a pattern. -/
inductive Part where
  /-- The character itself. -/
  | char (c : Char)
  | anyChar
  | anyRun
  /-- Any run of whole components. -/
  | anyComponents
  /-- A character of the set. -/
  | oneOf (set : List CharRange)
  /-- A character outside the set. -/
  | noneOf (set : List CharRange)
  deriving Repr, DecidableEq

/-- The set that is written between brackets. -/
def readSet : Text → List CharRange
  | low :: '-' :: high :: rest => ⟨low, high⟩ :: readSet rest
  | c :: rest => ⟨c, c⟩ :: readSet rest
  | [] => []

/-- What stands between brackets and what follows them, read from behind the opening bracket. The
first character of a set is part of it even if it is a closing bracket. -/
def cutSet? : Text → Option (Text × Text)
  | [] => none
  | first :: rest =>
    match rest.dropWhile (· != ']') with
    | [] => none
    | _ :: after => some (first :: rest.takeWhile (· != ']'), after)

theorem length_dropWhile_le (test : Char → Bool) (text : Text) :
    (text.dropWhile test).length ≤ text.length :=
  (List.dropWhile_suffix test).length_le

theorem length_lt_of_cutSet? {text set after : Text} (h : cutSet? text = some (set, after)) :
    after.length < text.length := by
  cases text with
  | nil => simp [cutSet?] at h
  | cons first rest =>
    simp only [cutSet?] at h
    split at h
    · contradiction
    · next _ _ hdrop =>
      simp only [Option.some.injEq, Prod.mk.injEq] at h
      have := length_dropWhile_le (· != ']') rest
      simp only [hdrop, List.length_cons, h.2] at this ⊢
      omega

/-- The parts of a pattern, none if the pattern breaks the rules. `fresh` tells whether a component
begins here. -/
def parts? (fresh : Bool) : Text → Option (List Part)
  | [] => some []
  | '?' :: rest => (parts? false rest).map (.anyChar :: ·)
  | '*' :: '*' :: '*' :: _ => none
  | '*' :: '*' :: '/' :: rest =>
    if fresh then (parts? true rest).map (.anyComponents :: ·) else none
  | ['*', '*'] => if fresh then some [.anyComponents] else none
  | '*' :: '*' :: _ => none
  | '*' :: rest => (parts? false rest).map (.anyRun :: ·)
  | '[' :: '!' :: rest =>
    match _h : cutSet? rest with
    | none => none
    | some (set, after) => (parts? false after).map (.noneOf (readSet set) :: ·)
  | '[' :: rest =>
    match _h : cutSet? rest with
    | none => none
    | some (set, after) => (parts? false after).map (.oneOf (readSet set) :: ·)
  | c :: rest => (parts? (c == '/') rest).map (.char c :: ·)
termination_by text => text.length
decreasing_by
  all_goals simp only [List.length_cons]
  all_goals first
    | omega
    | (have hlt := length_lt_of_cutSet? _h; omega)

/-! ### Matching -/

/-- Whether a character lies in a set. -/
def inSet (set : List CharRange) (c : Char) : Bool :=
  set.any fun range ↦ range.low ≤ c && c ≤ range.high

/-- Whether some end of a text satisfies a test, the whole text and the empty text included. -/
def anySuffix (test : Text → Bool) : Text → Bool
  | [] => test []
  | c :: rest => test (c :: rest) || anySuffix test rest

/-- Whether a text behind some separator satisfies a test, or the empty text at the end does. -/
def anyComponentStart (test : Text → Bool) : Text → Bool
  | [] => test []
  | c :: rest => (c == '/' && test rest) || anyComponentStart test rest

/-- Whether a part that stands for one character stands for this one. -/
def Part.accepts (part : Part) (c : Char) : Bool :=
  match part with
  | char d => c == d
  | anyChar => true
  | oneOf set => inSet set c
  | noneOf set => !inSet set c
  | anyRun | anyComponents => false

/-- Whether the parts of a pattern match a text. -/
def matchParts : List Part → Text → Bool
  | [], text => text.isEmpty
  | .anyRun :: parts, text => anySuffix (matchParts parts) text
  | .anyComponents :: parts, text =>
    matchParts parts text || anyComponentStart (matchParts parts) text
  | _ :: _, [] => false
  | part :: parts, c :: rest => part.accepts c && matchParts parts rest

/-! ### Matching all ends of a text at once

The ends of a text are the text itself, the text without its first character, and so on down to the
empty text. Which of them some parts match is a row of truth values, and the row of one part more is
worked out from it. So no end is matched twice, however many runs a pattern holds. -/

/-- What a test says of each end of a text. -/
def row (test : Text → Bool) : Text → List Bool
  | [] => [test []]
  | c :: rest => test (c :: rest) :: row test rest

/-- What the first of some truth values is. -/
def first (values : List Bool) : Bool :=
  values.headD false

theorem first_row (test : Text → Bool) (text : Text) : first (row test text) = test text := by
  cases text <;> rfl

/-- The row of any run in front of the parts of a row. -/
def rowOfRun : List Bool → List Bool
  | [] => []
  | value :: rest =>
    let others := rowOfRun rest
    (value || first others) :: others

theorem rowOfRun_row (test : Text → Bool) (text : Text) :
    rowOfRun (row test text) = row (anySuffix test) text := by
  induction text with
  | nil => simp [row, rowOfRun, anySuffix, first]
  | cons c rest ih => simp [row, rowOfRun, anySuffix, ih, first_row]

/-- The row of any components in front of the parts of a row, but for no components at all. -/
def rowOfStarts : Text → List Bool → List Bool
  | c :: text, _ :: rest =>
    let others := rowOfStarts text rest
    ((c == '/' && first rest) || first others) :: others
  | _, values => values

theorem rowOfStarts_row (test : Text → Bool) (text : Text) :
    rowOfStarts text (row test text) = row (anyComponentStart test) text := by
  induction text with
  | nil => simp [row, rowOfStarts, anyComponentStart]
  | cons c rest ih => simp [row, rowOfStarts, anyComponentStart, ih, first_row]

/-- The row of a part that stands for one character in front of the parts of a row. -/
def rowOfOne (part : Part) : Text → List Bool → List Bool
  | c :: text, _ :: rest => (part.accepts c && first rest) :: rowOfOne part text rest
  | _, _ => [false]

/-- The row of some parts. -/
def rowOfParts (text : Text) : List Part → List Bool
  | [] => row List.isEmpty text
  | .anyRun :: parts => rowOfRun (rowOfParts text parts)
  | .anyComponents :: parts =>
    let others := rowOfParts text parts
    List.zipWith (· || ·) others (rowOfStarts text others)
  | part :: parts => rowOfOne part text (rowOfParts text parts)

theorem zipWith_row (f g : Text → Bool) (text : Text) :
    List.zipWith (· || ·) (row f text) (row g text) = row (fun t ↦ f t || g t) text := by
  induction text with
  | nil => rfl
  | cons c rest ih => simp [row, ih]

theorem rowOfOne_row (part : Part) (test : Text → Bool) (text : Text) :
    rowOfOne part text (row test text) =
      row (fun | [] => false | c :: rest => part.accepts c && test rest) text := by
  induction text with
  | nil => rfl
  | cons c rest ih => simp [row, rowOfOne, ih, first_row]

theorem row_congr {f g : Text → Bool} (h : ∀ t, f t = g t) (text : Text) :
    row f text = row g text := by
  rw [funext h]

theorem rowOfParts_eq (parts : List Part) (text : Text) :
    rowOfParts text parts = row (matchParts parts) text := by
  induction parts with
  | nil => exact row_congr (fun t ↦ by rw [matchParts]) text
  | cons part parts ih =>
    cases part with
    | anyRun =>
      rw [rowOfParts, ih, rowOfRun_row]
      exact row_congr (fun t ↦ by rw [matchParts]) text
    | anyComponents =>
      simp only [rowOfParts, ih, rowOfStarts_row, zipWith_row]
      exact row_congr (fun t ↦ by rw [matchParts]) text
    | char _ | anyChar | oneOf _ | noneOf _ =>
      rw [rowOfParts, ih, rowOfOne_row]
      · exact row_congr (fun t ↦ by cases t <;> rw [matchParts] <;> simp) text
      all_goals simp

/-- Whether the parts of a pattern match a text, worked out row by row. -/
def matchesParts (parts : List Part) (text : Text) : Bool :=
  first (rowOfParts text parts)

theorem matchesParts_eq (parts : List Part) (text : Text) :
    matchesParts parts text = matchParts parts text := by
  rw [matchesParts, rowOfParts_eq, first_row]

/-- Whether a pattern matches a name. -/
def globMatches (pattern name : Text) : Bool :=
  match parts? true pattern with
  | some parts => matchesParts parts name
  | none => false

end Dialogue.Pattern
