import Dialogue.Regex.Parser
import Dialogue.Shell.Format
import Dialogue.Tool.Input
import Dialogue.Tool.Switches

/-!
# Tools that reckon

`seq` counts from one number to another, and `expr` finds the value of an expression that is given
word by word.
-/

set_option autoImplicit false
set_option relaxedAutoImplicit false

namespace Dialogue.Tool

open Dialogue.Machine

/-! ### Counting -/

/-- A decimal number: how often a power of ten it is, and how many decimals are written. -/
structure Decimal where
  /-- The number without its point. -/
  digits : Int
  places : Nat
  deriving Repr, DecidableEq, Inhabited

namespace Decimal

/-- The number of units of some decimal place. -/
def unitsAt (decimal : Decimal) (places : Nat) : Int :=
  decimal.digits * (Nat.pow 10 (places - decimal.places) : Nat)

/-- The decimal number that a word stands for. -/
def ofText? (word : Text) : Option Decimal := do
  let text := word.dropWhile fun c ↦ c == ' ' || c == '\t' || c == '\n'
  let (negative, text) := match text with
    | '-' :: rest => (true, rest)
    | '+' :: rest => (false, rest)
    | _ => (false, text)
  let mantissa := text.takeWhile fun c ↦ c.isDigit || c == '.'
  let whole := mantissa.takeWhile Char.isDigit
  let decimals := mantissa.drop (whole.length + 1)
  if (whole.isEmpty && decimals.isEmpty) || decimals.contains '.' then none
  let n ← Text.toNat? 10 (whole ++ decimals)
  let exponent ← match text.drop mantissa.length with
    | [] => some (0 : Int)
    | c :: more =>
      if c == 'e' || c == 'E' then
        match more with
        | '-' :: digits => (Text.toNat? 10 digits).map fun n ↦ -(n : Int)
        | '+' :: digits => (Text.toNat? 10 digits).map Int.ofNat
        | digits => (Text.toNat? 10 digits).map Int.ofNat
      else none
  if 300 < exponent.natAbs then none
  let sign : Int := if negative then -1 else 1
  let places := decimals.length
  if (places : Int) ≤ exponent then
    return ⟨sign * n * (Nat.pow 10 (exponent.toNat - places) : Nat), 0⟩
  else return ⟨sign * n, ((places : Int) - exponent).toNat⟩

/-- A number of units of some decimal place, as it is written with at least some digits and signs.
-/
def write (places width : Nat) (units : Int) : Text :=
  let digits := Text.ofNat units.natAbs
  let filled := List.replicate (places + 1 - digits.length) '0' ++ digits
  let whole := filled.take (filled.length - places)
  let text := if places = 0 then whole else whole ++ '.' :: filled.drop (filled.length - places)
  let sign : Text := if units < 0 then ['-'] else []
  sign ++ List.replicate (width - sign.length - text.length) '0' ++ text

end Decimal

/-- Whether a word begins like a negative number. -/
def isNegative (word : Text) : Bool :=
  match word with
  | '-' :: c :: _ => c.isDigit || c == '.'
  | _ => false

/-- The words with a mark in front of the first operand. -/
def markOperands : List Text → List Text
  | [] => []
  | word :: rest =>
    if word == ['-', '-'] then word :: rest
    else if isNegative word || word.head? != some '-' then ['-', '-'] :: word :: rest
    else if word == ['-', 's'] || word == ['-', 'f'] then
      match rest with
      | value :: rest => word :: value :: markOperands rest
      | [] => [word]
    else word :: markOperands rest

/-- Counts from one number to another. -/
def seq (words : List Text) : Work Nat := do
  let choices ← Work.choices
    [.value "s" "separator", .flag "w" "equal-width", .value "f" "format"] true
    (markOperands words) 1
  let numbers ← match choices.operands with
    | [] => Work.misused "missing operand".toList 1
    | _ :: _ :: _ :: fourth :: _ => Work.misused ("extra operand ".toList ++ quotedWord fourth) 1
    | operands =>
      match operands.find? fun word ↦ (Decimal.ofText? word).isNone with
      | some word =>
        Work.misused ("invalid floating point argument: ".toList ++ quotedWord word) 1
      | none => pure (operands.filterMap Decimal.ofText?)
  let one : Decimal := ⟨1, 0⟩
  let (first, step, last) := match numbers with
    | [last] => (one, one, last)
    | [first, last] => (first, one, last)
    | [first, step, last] => (first, step, last)
    | _ => (one, one, one)
  if step.digits = 0 then
    Work.misused ("invalid Zero increment value: ".toList
      ++ quotedWord ((choices.operands[1]?).getD [])) 1
  let format ← match choices.last? "format" with
    | none => pure none
    | some format =>
      if format.contains '%' then pure (some format)
      else Work.fail ("format ".toList ++ quotedWord format ++ " has no % directive".toList) 1
  let places := max first.places step.places
  let scale := max places last.places
  let start := first.unitsAt scale
  let stride := step.unitsAt scale
  let stop := last.unitsAt scale
  let factor : Int := (Nat.pow 10 (scale - places) : Nat)
  let width := if !choices.has "equal-width" then 0
    else
      let count := (stop - start) / stride
      let final := if 0 ≤ count then start + count * stride else start
      max (Decimal.write places 0 (start / factor)).length
        (Decimal.write places 0 (final / factor)).length
  let shown (units : Int) : Text :=
    let plain := Decimal.write places width (units / factor)
    match format with
    | none => plain
    | some format => (Shell.Format.formatted format [plain]).1
  let separator := (choices.last? "separator").getD ['\n']
  Work.loop (fun (units, isFirst) ↦ do
    let isOver := if 0 < stride then stop < units else units < stop
    if isOver then
      if !isFirst then Work.put ['\n']
      return .inr 0
    Work.put ((if isFirst then [] else separator) ++ shown units)
    return .inl (units + stride, false)) (start, true)

/-! ### Expressions -/

/-- What is wrong with an expression, and the status for it. -/
structure ExprFlaw where
  message : Text
  status : Nat
  deriving Repr, DecidableEq, Inhabited

namespace Expr

/-- The whole number that a value is. -/
def number? (value : Text) : Option Int :=
  match value with
  | '-' :: digits =>
    if digits.all Char.isDigit then (Text.toNat? 10 digits).map fun n ↦ -(n : Int) else none
  | digits => if digits.all Char.isDigit then (Text.toNat? 10 digits).map Int.ofNat else none

/-- A number as a value. -/
def ofInt (n : Int) : Text :=
  if n < 0 then '-' :: Text.ofNat n.natAbs else Text.ofNat n.natAbs

/-- Whether a value counts as false. -/
def isNull (value : Text) : Bool :=
  value.isEmpty || number? value == some 0

/-- A truth as a value. -/
def ofBool (b : Bool) : Text := if b then ['1'] else ['0']

/-- A complaint about the words of an expression. -/
def misread {α : Type} (message : Text) : Except ExprFlaw α :=
  .error ⟨"syntax error: ".toList ++ message, 2⟩

/-- What the start of a value has in common with an expression: what its first group matches, or how
long the match is. -/
def matchStart (value source : Text) : Except ExprFlaw Text :=
  let value := Text.gather value
  match Regex.parse ⟨false, false⟩ (Text.gather source) with
  | .error message => .error ⟨message, 2⟩
  | .ok regex =>
    let pattern : Regex.Pattern := ⟨regex, false, false⟩
    let found := pattern.longest? (Regex.Pattern.startOf value)
    if 0 < Regex.groupCount regex then .ok (Text.scatter ((found.map (·.group 1)).getD []))
    else .ok (Text.ofNat ((found.map fun one ↦ one.text.length).getD 0))

/-- The value of two numbers joined by a sign. -/
def calculate (sign : String) (a b : Text) : Except ExprFlaw Text :=
  match number? a, number? b with
  | some a, some b =>
    if (sign == "/" || sign == "%") && b == 0 then .error ⟨"division by zero".toList, 2⟩
    else
      .ok (ofInt (match sign with
        | "+" => a + b
        | "-" => a - b
        | "*" => a * b
        | "/" => a.tdiv b
        | _ => a.tmod b))
  | _, _ => .error ⟨"non-integer argument".toList, 2⟩

/-- The value of a comparison. -/
def compare (sign : String) (a b : Text) : Text :=
  let order := match number? a, number? b with
    | some a, some b => if a < b then Ordering.lt else if b < a then .gt else .eq
    | _, _ => if a < b then .lt else if b < a then .gt else .eq
  ofBool (match sign with
    | "<" => order == .lt
    | "<=" => order != .gt
    | "=" | "==" => order == .eq
    | "!=" => order != .eq
    | ">=" => order != .lt
    | _ => order == .gt)

/-- The value of two values joined by a sign. -/
def apply (sign : String) (a b : Text) : Except ExprFlaw Text :=
  match sign with
  | "|" => .ok (if !isNull a then a else if !isNull b then b else ['0'])
  | "&" => .ok (if isNull a || isNull b then ['0'] else a)
  | ":" => matchStart a b
  | "+" | "-" | "*" | "/" | "%" => calculate sign a b
  | _ => .ok (compare sign a b)

/-- The signs between values, those that bind least first. -/
def ranks : List (List String) :=
  [["|"], ["&"], ["<", "<=", "=", "==", "!=", ">=", ">"], ["+", "-"], ["*", "/", "%"], [":"]]

/-- The part of a value from a position on, counted from one, and no longer than a length. -/
def partOf (value position length : Text) : Text :=
  match number? position, number? length with
  | some p, some n =>
    if 0 < p && 0 < n then
      Text.scatter (((Text.gather value).drop (p.toNat - 1)).take n.toNat)
    else []
  | _, _ => []

mutual

/-- Reads values joined by signs of some ranks. The words at work and the word in front of them are
given. -/
def level (ranks : List (List String)) (last : Option Text) (words : List Text) :
    Nat → Except ExprFlaw (Text × Option Text × List Text)
  | 0 => misread "expression too deep".toList
  | fuel + 1 =>
    match ranks with
    | [] => primary last words fuel
    | rank :: stronger => do
      let (value, last, rest) ← level stronger last words fuel
      chain rank stronger value last rest fuel
termination_by structural fuel => fuel

/-- Reads on behind a value. -/
def chain (rank : List String) (stronger : List (List String)) (value : Text) (last : Option Text)
    (words : List Text) : Nat → Except ExprFlaw (Text × Option Text × List Text)
  | 0 => misread "expression too deep".toList
  | fuel + 1 =>
    match words with
    | sign :: rest =>
      if rank.contains (String.ofList sign) then do
        let (other, last, rest) ← level stronger (some sign) rest fuel
        let result ← apply (String.ofList sign) value other
        chain rank stronger result last rest fuel
      else .ok (value, last, words)
    | [] => .ok (value, last, [])
termination_by structural fuel => fuel

/-- Reads a single value. -/
def primary (last : Option Text) (words : List Text) :
    Nat → Except ExprFlaw (Text × Option Text × List Text)
  | 0 => misread "expression too deep".toList
  | fuel + 1 =>
    match words with
    | [] =>
      match last with
      | some word => misread ("missing argument after ".toList ++ quotedWord word)
      | none => .error ⟨"missing operand".toList, 2⟩
    | ['('] :: rest => do
      let (value, last, rest) ← level ranks (some ['(']) rest fuel
      match rest with
      | [')'] :: rest => return (value, some [')'], rest)
      | [] => misread ("expecting ')' after ".toList ++ quotedWord (last.getD []))
      | word :: _ => misread ("expecting ')' instead of ".toList ++ quotedWord word)
    | [')'] :: _ => misread "unexpected ')'".toList
    | name :: rest =>
      let single (last : Text) (rest : List Text) :
          Except ExprFlaw (Text × Option Text × List Text) :=
        primary (some last) rest fuel
      match String.ofList name, rest with
      | "+", word :: rest => .ok (word, some word, rest)
      | "length", _ :: _ => do
        let (value, last, rest) ← single name rest
        return (Text.ofNat (Text.gather value).length, last, rest)
      | "match", _ :: _ => do
        let (value, last, rest) ← single name rest
        let (source, last, rest) ← primary last rest fuel
        return (← matchStart value source, last, rest)
      | "index", _ :: _ => do
        let (value, last, rest) ← single name rest
        let (chars, last, rest) ← primary last rest fuel
        let place := ((Text.gather value).findIdx? (Text.gather chars).contains).map (· + 1)
        return (Text.ofNat (place.getD 0), last, rest)
      | "substr", _ :: _ => do
        let (value, last, rest) ← single name rest
        let (position, last, rest) ← primary last rest fuel
        let (length, last, rest) ← primary last rest fuel
        return (partOf value position length, last, rest)
      | _, _ => .ok (name, some name, rest)
termination_by structural fuel => fuel

end

end Expr

/-- Prints the value of an expression. -/
def expr (words : List Text) : Work Nat := do
  let words := if words.head? == some ['-', '-'] then words.drop 1 else words
  if words.isEmpty then Work.misused "missing operand".toList 2
  let result := do
    let (value, _, rest) ← Expr.level Expr.ranks none words (12 * words.length + 24)
    match rest with
    | [] => pure value
    | word :: _ => Expr.misread ("unexpected argument ".toList ++ quotedWord word)
  match result with
  | .error flaw => Work.fail flaw.message flaw.status
  | .ok value =>
    Work.putLine value
    return if Expr.isNull value then 1 else 0

end Dialogue.Tool
