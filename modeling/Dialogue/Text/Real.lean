import Dialogue.Text.Fraction

/-!
# Numbers with a point

A number with a point is read from the start of a text, in base ten or sixteen, and kept as the
nearest binary fraction. It is written with a given number of places behind the point (`fixed`),
with a digit in front of the point and an exponent (`scaled`), or in the shorter one of these ways
with a given number of digits (`general`). The last digit is rounded, a half to the even one.
-/

set_option autoImplicit false
set_option relaxedAutoImplicit false

namespace Dialogue.Text

/-- A binary fraction with a sign, or what lies outside of all of them. -/
inductive Real where
  | finite (negative : Bool) (binary : Binary)
  | infinite (negative : Bool)
  | undefined (negative : Bool)
  deriving Repr, DecidableEq

namespace Real

/-- Zero. -/
def zero : Real := .finite false ⟨0, 0⟩

instance : Inhabited Real := ⟨zero⟩

/-- Whether a number has a minus in front. -/
def isNegative : Real → Bool
  | finite negative _ | infinite negative | undefined negative => negative

/-! ### Reading -/

/-- The number nearest to a quotient. -/
def ofQuotient (negative : Bool) (above below : Nat) : Real :=
  if above = 0 then .finite negative ⟨0, leastExponent⟩
  else
    match nearestQuotient? above below with
    | some binary => .finite negative binary
    | none => .infinite negative

/-- The number nearest to a decimal. -/
def ofDecimal (negative : Bool) (digits : Nat) (exponent : Int) : Real :=
  match nearest? ⟨negative, digits, exponent⟩ with
  | some binary => .finite negative binary
  | none => .infinite negative

/-- Whether a character is a digit of a base. -/
def isDigitOf (base : Nat) (c : Char) : Bool :=
  (toNat? base [c]).isSome

/-- Digits around a point at the start of a text: those in front, those behind, and the rest. -/
def cutDigits (base : Nat) (text : Text) : Text × Text × Text :=
  let whole := text.takeWhile (isDigitOf base)
  match text.drop whole.length with
  | '.' :: behind =>
    let places := behind.takeWhile (isDigitOf base)
    if whole.isEmpty && places.isEmpty then ([], [], text)
    else (whole, places, behind.drop places.length)
  | rest => (whole, [], rest)

/-- The exponent behind one of two letters, and the rest; zero if there is none. -/
def cutExponent (small capital : Char) (text : Text) : Int × Text :=
  match text with
  | c :: rest =>
    if c = small ∨ c = capital then
      let (negative, digits) := readSign rest
      let run := digits.takeWhile Char.isDigit
      match toNat? 10 run with
      | some n => (if negative then -(n : Int) else n, digits.drop run.length)
      | none => (0, text)
    else (0, text)
  | [] => (0, [])

/-- The number at the start of a text without a sign, and the rest. -/
def cutUnsigned? (negative : Bool) (text : Text) : Option (Real × Text) :=
  let lower := text.map Char.toLower
  let hexadecimal : Option (Real × Text) :=
    match text with
    | '0' :: x :: rest =>
      let (whole, places, behind) := cutDigits 16 rest
      if (x = 'x' ∨ x = 'X') ∧ !(whole ++ places).isEmpty then
        let (exponent, behind) := cutExponent 'p' 'P' behind
        let power := exponent - 4 * (places.length : Int)
        let digits := (toNat? 16 (whole ++ places)).getD 0
        some (if power > 5000 ∨ power < -5000 then (ofDecimal negative digits power, behind)
          else (ofQuotient negative (digits * Nat.pow 2 power.toNat) (Nat.pow 2 (-power).toNat),
            behind))
      else none
    | _ => none
  if "infinity".toList.isPrefixOf lower then some (.infinite negative, text.drop 8)
  else if "inf".toList.isPrefixOf lower then some (.infinite negative, text.drop 3)
  else if "nan".toList.isPrefixOf lower then some (.undefined negative, text.drop 3)
  else if hexadecimal.isSome then hexadecimal
  else
    let (whole, places, behind) := cutDigits 10 text
    match toNat? 10 (whole ++ places) with
    | some digits =>
      let (exponent, behind) := cutExponent 'e' 'E' behind
      some (ofDecimal negative digits (exponent - places.length), behind)
    | none => none

/-- The number at the start of a text, behind blanks, and the rest. -/
def cut? (text : Text) : Option (Real × Text) :=
  let (negative, body) := readSign (text.dropWhile fun c ↦ c == ' ' || ('\t' ≤ c && c ≤ '\r'))
  cutUnsigned? negative body

/-! ### Writing -/

/-- What is above and below the line of a binary fraction. -/
def ratio (binary : Binary) : Nat × Nat :=
  (binary.digits * Nat.pow 2 binary.exponent.toNat, Nat.pow 2 (-binary.exponent).toNat)

/-- A binary fraction in units of a power of ten. -/
def inTens (binary : Binary) (exponent : Int) : Nat :=
  let (above, below) := ratio binary
  roundDiv (above * Nat.pow 10 (-exponent).toNat) (below * Nat.pow 10 exponent.toNat)

/-- Digits with a point in front of the last ones. Without places there is a point only on demand.
-/
def pointed (digits : Text) (places : Nat) (always : Bool) : Text :=
  let filled := List.replicate (places + 1 - digits.length) '0' ++ digits
  let whole := filled.take (filled.length - places)
  if places = 0 then (if always then whole ++ ['.'] else whole)
  else whole ++ '.' :: filled.drop (filled.length - places)

/-- A binary fraction with a number of places behind the point. -/
def fixed (binary : Binary) (places : Nat) (always : Bool) : Text :=
  pointed (ofNat (inTens binary (-(places : Int)))) places always

/-- The exponent of the greatest power of ten that is no greater than a binary fraction. -/
def magnitude (binary : Binary) : Int :=
  let (above, below) := ratio binary
  if above = 0 then 0
  else if below ≤ above then (Nat.toDigits 10 (above / below)).length - 1
  else -((Nat.toDigits 10 ((below + above - 1) / above - 1)).length : Int)

/-- The digits of a binary fraction, with a number of places behind the first one, and the exponent
of the first one. -/
def leading (binary : Binary) (places : Nat) : Text × Int :=
  let exponent := magnitude binary
  let digits := ofNat (inTens binary (exponent - places))
  if digits.length > places + 1 then (digits.take (places + 1), exponent + 1)
  else (List.replicate (places + 1 - digits.length) '0' ++ digits, exponent)

/-- An exponent as it is written, with at least two digits. -/
def shownExponent (exponent : Int) : Text :=
  let digits := ofNat exponent.natAbs
  'e' :: (if exponent < 0 then '-' else '+') :: List.replicate (2 - digits.length) '0' ++ digits

/-- A binary fraction with one digit in front of the point, some behind it, and an exponent. -/
def scaled (binary : Binary) (places : Nat) (always : Bool) : Text :=
  let (digits, exponent) := leading binary places
  pointed digits places always ++ shownExponent exponent

/-- The digits behind a point without the zeros at their end. -/
def withoutZeros (text : Text) : Text :=
  if text.contains '.' then trimEndWhile (· == '.') (trimEndWhile (· == '0') text) else text

/-- A binary fraction with a number of digits: in the first way unless the exponent is too small or
too large for that. Zeros at the end are left out. -/
def general (binary : Binary) (precision : Nat) (keep : Bool) : Text :=
  let precision := max precision 1
  let (digits, exponent) := leading binary (precision - 1)
  let tidy (text : Text) : Text := if keep then text else withoutZeros text
  if exponent < -4 ∨ (precision : Int) ≤ exponent then
    tidy (pointed digits (precision - 1) keep) ++ shownExponent exponent
  else tidy (fixed binary ((precision : Int) - 1 - exponent).toNat keep)

/-- A binary fraction with its digits in base sixteen and its exponent in base two. -/
def inSixteens (binary : Binary) : Text :=
  if binary.digits = 0 then "0x0p+0".toList
  else
    let shift := 52 - Nat.log2 binary.digits
    let digits := Nat.toDigits 16 (binary.digits * Nat.pow 2 shift)
    let exponent := binary.exponent - shift + 52
    "0x".toList ++ withoutZeros (pointed digits 13 false)
      ++ 'p' :: (if exponent < 0 then '-' else '+') :: ofNat exponent.natAbs

end Real

end Dialogue.Text
