import Dialogue.Text.Basic

/-!
# Durations

A duration is written in the largest unit of which it holds at least one, with as many decimals as
it takes to be exact.
-/

set_option autoImplicit false
set_option relaxedAutoImplicit false

namespace Dialogue

/-- A span of time. -/
structure Duration where
  nanoseconds : Nat
  deriving Repr, DecidableEq, Inhabited

namespace Duration

/-- A number of milliseconds. -/
def ofMilliseconds (n : Nat) : Duration := ⟨n * 1000000⟩

/-- A number of seconds. -/
def ofSeconds (n : Nat) : Duration := ⟨n * 1000000000⟩

/-- A multiple of `10 ^ places`, in units of that size: its whole part, and its decimals without the
zeros at their end. -/
def inUnits (n places : Nat) : Text :=
  let fraction := Nat.toDigits 10 (n % Nat.pow 10 places)
  let decimals := List.replicate (places - fraction.length) '0' ++ fraction
  let kept := Text.trimEndWhile (· == '0') decimals
  Text.ofNat (n / Nat.pow 10 places) ++ if kept = [] then [] else '.' :: kept

/-- A duration with its unit. -/
def text (duration : Duration) : Text :=
  let n := duration.nanoseconds
  if n ≥ 1000000000 then inUnits n 9 ++ ['s']
  else if n ≥ 1000000 then inUnits n 6 ++ ['m', 's']
  else if n ≥ 1000 then inUnits n 3 ++ ['µ', 's']
  else Text.ofNat n ++ ['n', 's']

end Duration

end Dialogue
