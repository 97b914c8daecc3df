import Dialogue.Text.Basic

/-!
# Decimal fractions in binary

A decimal fraction is kept as the nearest binary fraction of 53 digits and shown as the shortest
decimal that reads back as the same binary fraction. `nearest?` rounds a decimal, a half going to
the even neighbour; `shortest` finds the decimal: it tries ever finer decimal grids, and on the
first one that meets the interval of values that round to the fraction it takes the point next to
it.
-/

set_option autoImplicit false
set_option relaxedAutoImplicit false

namespace Dialogue.Text

/-- A decimal `digits * 10 ^ exponent`. -/
structure Scientific where
  negative : Bool
  digits : Nat
  exponent : Int
  deriving Repr, DecidableEq

/-- A binary fraction `digits * 2 ^ exponent`. -/
structure Binary where
  digits : Nat
  exponent : Int
  deriving Repr, DecidableEq

/-! ### Reading -/

/-- The sign in front of a number and what follows it. -/
def readSign : Text → Bool × Text
  | '-' :: rest => (true, rest)
  | '+' :: rest => (false, rest)
  | text => (false, text)

/-- The exponent at the end of a number; without a sign `e` it is zero. -/
def readExponent? : Text → Option Int
  | [] => some 0
  | e :: rest =>
    if e = 'e' ∨ e = 'E' then
      let (negative, digits) := readSign rest
      (toNat? 10 digits).map fun n ↦ if negative then -(n : Int) else n
    else none

/-- A number with an optional fraction and an optional exponent; there must be a digit before or
behind the point. -/
def readScientific? (text : Text) : Option Scientific := do
  let (negative, text) := readSign text
  let whole := text.takeWhile Char.isDigit
  let rest := text.dropWhile Char.isDigit
  let (fraction, rest) := match rest with
    | '.' :: more => (more.takeWhile Char.isDigit, more.dropWhile Char.isDigit)
    | _ => ([], rest)
  let digits ← toNat? 10 (whole ++ fraction)
  let exponent ← readExponent? rest
  return ⟨negative, digits, exponent - fraction.length⟩

/-! ### Rounding -/

/-- The quotient rounded to the nearest number, a half to the even one. -/
def roundDiv (a b : Nat) : Nat :=
  let quotient := a / b
  let twice := 2 * (a % b)
  if twice > b ∨ (twice = b ∧ quotient % 2 = 1) then quotient + 1 else quotient

/-- The least exponent of a binary fraction. -/
def leastExponent : Int := -1074

/-- The greatest exponent of a binary fraction. -/
def greatestExponent : Int := 971

/-- The first number that is too long for a binary fraction, the fifty-third power of two. -/
def digitLimit : Nat := 9007199254740992

/-- The quotient of two numbers in units of a power of two. -/
def inUnits (above below : Nat) (exponent : Int) : Nat :=
  roundDiv (above * Nat.pow 2 (-exponent).toNat) (below * Nat.pow 2 exponent.toNat)

/-- Whether a quotient has few enough digits in units of a power of two. -/
def fitsUnits (above below : Nat) (exponent : Int) : Bool :=
  Nat.blt (above * Nat.pow 2 (-exponent).toNat) (digitLimit * (below * Nat.pow 2 exponent.toNat))

/-- The least exponent in whose units a quotient has few enough digits, but not one below the least
exponent of all. It is one of three, by the lengths of the two numbers. -/
def unitsFor (above below : Nat) : Int :=
  let guess : Int := (Nat.log2 above : Int) - Nat.log2 below - 52
  max leastExponent
    (if fitsUnits above below (guess - 1) then guess - 1
      else if fitsUnits above below guess then guess
      else guess + 1)

/-- The binary fraction with digits that may have grown by one place when they were rounded. -/
def carried (digits : Nat) (exponent : Int) : Binary :=
  if Nat.beq digits digitLimit then ⟨digitLimit / 2, exponent + 1⟩ else ⟨digits, exponent⟩

/-- The binary fraction nearest to a quotient, none if all are too small. -/
def nearestQuotient? (above below : Nat) : Option Binary :=
  let exponent := unitsFor above below
  let binary := carried (inUnits above below exponent) exponent
  if binary.exponent > greatestExponent then none else some binary

/-- The binary fraction of 53 digits that is nearest to a decimal, none if all are too small. A
decimal far below the least fraction is zero. -/
def nearest? (decimal : Scientific) : Option Binary :=
  if decimal.digits = 0 then some ⟨0, leastExponent⟩
  else
    let size : Int := (Nat.toDigits 10 decimal.digits).length + decimal.exponent
    if size > 310 then none
    else if size < -330 then some ⟨0, leastExponent⟩
    else
      nearestQuotient? (decimal.digits * Nat.pow 10 decimal.exponent.toNat)
        (Nat.pow 10 (-decimal.exponent).toNat)

/-! ### Showing -/

/-- Whether the decimal `digits * 10 ^ exponent` rounds to a binary fraction. -/
def roundsTo (binary : Binary) (digits : Nat) (exponent : Int) : Bool :=
  nearest? ⟨false, digits, exponent⟩ == some binary

/-- The point of a decimal grid next to a binary fraction, if it rounds to it. -/
def gridPoint? (binary : Binary) (exponent : Int) : Option Nat :=
  let above := binary.digits * Nat.pow 2 binary.exponent.toNat * Nat.pow 10 (-exponent).toNat
  let below := Nat.pow 2 (-binary.exponent).toNat * Nat.pow 10 exponent.toNat
  let point := roundDiv above below
  let other := if point * below > above then point - 1 else point + 1
  if roundsTo binary point exponent then some point
  else if roundsTo binary other exponent then some other
  else none

/-- The first point on ever finer grids, from an exponent downwards. -/
def firstPoint (binary : Binary) (exponent : Int) : Nat → Nat × Int
  | 0 => (0, 0)
  | grids + 1 =>
    match gridPoint? binary exponent with
    | some digits => (digits, exponent)
    | none => firstPoint binary (exponent - 1) grids

/-- The shortest decimal that rounds to a binary fraction. -/
def shortest (binary : Binary) : Nat × Int :=
  if binary.digits = 0 then (0, 0)
  else
    let above := binary.digits * Nat.pow 2 binary.exponent.toNat
    let below := Nat.pow 2 (-binary.exponent).toNat
    let top : Int := ((Nat.log2 above : Int) - Nat.log2 below) * 30103 / 100000 + 2
    firstPoint binary top 30

/-- A decimal without an exponent, and with at least one place behind its point. -/
def positional (negative : Bool) (digits : Nat) (exponent : Int) : Text :=
  let shown := ofNat digits
  let body :=
    if exponent ≥ 0 then
      (if digits = 0 then shown else shown ++ List.replicate exponent.toNat '0') ++ ['.', '0']
    else
      let places := (-exponent).toNat
      let filled := List.replicate (places + 1 - shown.length) '0' ++ shown
      let whole := filled.take (filled.length - places)
      let fraction := trimEndWhile (· == '0') (filled.drop (filled.length - places))
      whole ++ '.' :: if fraction = [] then ['0'] else fraction
  if negative then '-' :: body else body

/-- How a decimal is shown after it has been rounded to a binary fraction, none if it is too large
for one. -/
def showRounded? (decimal : Scientific) : Option Text :=
  (nearest? decimal).map fun binary ↦
    let (digits, exponent) := shortest binary
    positional decimal.negative digits exponent

end Dialogue.Text
