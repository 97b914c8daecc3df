import Dialogue.Text.Basic

/-!
# Shell arithmetic

Expressions on whole numbers of 64 bits, with the usual operators and their usual order. A name
stands for the value of a variable, which must be a number or blank, and can be assigned to. What is
not needed for the value is read but not evaluated. An expression is wrong if a part is missing or
left over, and it may go wrong in a division.
-/

set_option autoImplicit false
set_option relaxedAutoImplicit false

namespace Dialogue.Shell.Arithmetic

/-! ### Numbers -/

/-- How many numbers there are. -/
def modulus : Nat := 18446744073709551616

/-- The number of 64 bits that agrees with a number. -/
def wrap (n : Int) : Int := Int.bmod n modulus

/-- The bits of a number. -/
def bits (n : Int) : Nat := (n % (modulus : Int)).toNat

/-- The greatest number. -/
def greatest : Int := 9223372036854775807

/-- The least number. -/
def least : Int := -9223372036854775808

/-- A number as it is written. -/
def shown (n : Int) : Text :=
  if n < 0 then '-' :: Text.ofNat n.natAbs else Text.ofNat n.natAbs

/-- A truth value as a number. -/
def truth (b : Bool) : Int := if b then 1 else 0

/-- Whether a character may stand around a number. -/
def isSpace (c : Char) : Bool :=
  c == ' ' || ('\t' ≤ c && c ≤ '\r')

/-- The digits of a number at the start of a text, their base, and what follows. A zero in front of
digits of base eight changes the base, and so does a zero with an `x` in front of digits of base
sixteen, or with a `b` in front of digits of base two. -/
def cutDigits (text : Text) : Nat × Text × Text :=
  let belongs (base : Nat) (c : Char) : Bool := (Text.toNat? base [c]).isSome
  let cut (base : Nat) (text : Text) : Nat × Text × Text :=
    let digits := text.takeWhile (belongs base)
    (base, digits, text.drop digits.length)
  match text with
  | '0' :: x :: c :: rest =>
    if (x == 'x' || x == 'X') && belongs 16 c then cut 16 (c :: rest)
    else if (x == 'b' || x == 'B') && belongs 2 c then cut 2 (c :: rest)
    else cut 8 text
  | '0' :: _ => cut 8 text
  | _ => cut 10 text

/-- The value of digits, without a limit. -/
def valueOf (base : Nat) (digits : Text) : Int :=
  ((Text.toNat? base digits).getD 0 : Nat)

/-- The number that a text is, between blanks; blanks alone are zero. -/
def number? (text : Text) : Option Int :=
  let (negative, body) := match text.dropWhile isSpace with
    | '-' :: rest => (true, rest)
    | '+' :: rest => (false, rest)
    | rest => (false, rest)
  let (base, digits, rest) := cutDigits body
  let value := if negative then -valueOf base digits else valueOf base digits
  if digits.isEmpty then (if text.all isSpace then some 0 else none)
  else if rest.all isSpace && least ≤ value && value ≤ greatest then some value
  else none

/-! ### Tokens -/

/-- A token of an expression. -/
inductive Token where
  | number (n : Int)
  | name (name : Text)
  | sign (sign : String)
  | finish
  /-- What has no meaning. -/
  | senseless
  deriving Repr, DecidableEq, Inhabited

/-- The operators that assign, with the operators that they are built from. -/
def assignments : List (String × String) :=
  [("=", ""), ("+=", "+"), ("-=", "-"), ("*=", "*"), ("/=", "/"), ("%=", "%"), ("<<=", "<<"),
    (">>=", ">>"), ("&=", "&"), ("|=", "|"), ("^=", "^")]

/-- All signs; of two that begin alike the longer one stands first. -/
def signs : List String :=
  ["<<=", ">>=", "||", "&&", "==", "!=", "<=", ">=", "<<", ">>", "+=", "-=", "*=", "/=", "%=", "&=",
    "|=", "^=", "=", "|", "^", "&", "<", ">", "+", "-", "*", "/", "%", "!", "~", "(", ")", "?", ":"]

/-- The first token of a text, and what follows it. -/
def cutToken (text : Text) : Token × Text :=
  let text := text.dropWhile fun c ↦ c == ' ' || c == '\t' || c == '\n'
  match text with
  | [] => (.finish, [])
  | c :: rest =>
    if c.isDigit then
      let (base, digits, rest) := cutDigits text
      (.number (min greatest (valueOf base digits)), rest)
    else if c.isAlpha || c == '_' then
      let name := text.takeWhile fun d ↦ d.isAlphanum || d == '_'
      (.name name, text.drop name.length)
    else
      match signs.find? fun sign ↦ sign.toList.isPrefixOf text with
      | some sign => (.sign sign, text.drop sign.length)
      | none => (.senseless, rest)

/-! ### Evaluation -/

/-- What goes wrong in an evaluation. -/
inductive Trouble where
  | complaint (message : Text)
  /-- A quotient is too large for a number. -/
  | overflow
  deriving Repr, DecidableEq, Inhabited

/-- What an expression is about: the values of variables, those that cannot be changed, and the
whole text. -/
structure Scope where
  value : Text → Option Text
  isFixed : Text → Bool
  text : Text

/-- How far an evaluation has got: the next token, the text behind it, and the variables that were
assigned to, the last one first. -/
structure Progress where
  token : Token
  rest : Text
  set : List (Text × Int)
  deriving Repr, DecidableEq, Inhabited

/-- The progress behind the next token. -/
def Progress.advance (progress : Progress) : Progress :=
  let (token, rest) := cutToken progress.rest
  { progress with token := token, rest := rest }

/-- A flaw of an expression. -/
def Scope.wrong {α : Type} (scope : Scope) (flaw : String) : Except Trouble α :=
  .error <| .complaint <|
    "arithmetic expression: ".toList ++ flaw.toList ++ ": \"".toList ++ scope.text ++ ['"']

/-- The value of a variable. -/
def Scope.lookUp (scope : Scope) (progress : Progress) (name : Text) : Except Trouble Int :=
  match progress.set.lookup name with
  | some n => .ok n
  | none =>
    let text := (scope.value name).getD []
    match number? text with
    | some n => .ok n
    | none => .error (.complaint ("Illegal number: ".toList ++ text))

/-- The value of an operator between two numbers. -/
def Scope.applied (scope : Scope) (operator : String) (a b : Int) : Except Trouble Int :=
  let quotient (value : Int) : Except Trouble Int :=
    if b = 0 then scope.wrong "division by zero"
    else if a = least && b = -1 then .error .overflow
    else .ok value
  let shift := bits b % 64
  match operator with
  | "|" => .ok (wrap (Int.ofNat (bits a ||| bits b)))
  | "^" => .ok (wrap (Int.ofNat (bits a ^^^ bits b)))
  | "&" => .ok (wrap (Int.ofNat (bits a &&& bits b)))
  | "==" => .ok (truth (a == b))
  | "!=" => .ok (truth (a != b))
  | "<=" => .ok (truth (a ≤ b))
  | ">=" => .ok (truth (b ≤ a))
  | "<" => .ok (truth (a < b))
  | ">" => .ok (truth (b < a))
  | "<<" => .ok (wrap (a * (Nat.pow 2 shift : Nat)))
  | ">>" => .ok (Int.fdiv a (Nat.pow 2 shift : Nat))
  | "+" => .ok (wrap (a + b))
  | "-" => .ok (wrap (a - b))
  | "*" => .ok (wrap (a * b))
  | "/" => quotient (a.tdiv b)
  | "%" => quotient (a.tmod b)
  | _ => .ok b

/-- The operators between two numbers by their rank, the weakest first. -/
def ranks : List (List String) :=
  [["|"], ["^"], ["&"], ["==", "!="], ["<=", ">=", "<", ">"], ["<<", ">>"], ["+", "-"],
    ["*", "/", "%"]]

mutual

/-- Reads an assignment or a conditional expression. -/
def assigned (scope : Scope) (active : Bool) (progress : Progress) :
    Nat → Except Trouble (Int × Progress)
  | 0 => scope.wrong "expecting primary"
  | fuel + 1 =>
    let behind := progress.advance
    match progress.token, behind.token with
    | .name name, .sign sign =>
      match assignments.lookup sign with
      | none => conditional scope active progress fuel
      | some operator => do
        let (value, last) ← assigned scope active behind.advance fuel
        if !active then return (value, last)
        else
          let value ← if operator.isEmpty then pure value
            else scope.applied operator (← scope.lookUp last name) value
          if scope.isFixed name then .error (.complaint (name ++ ": is read only".toList))
          else return (value, { last with set := (name, value) :: last.set })
    | _, _ => conditional scope active progress fuel
termination_by structural fuel => fuel

/-- Reads a choice between two expressions, or less. -/
def conditional (scope : Scope) (active : Bool) (progress : Progress) :
    Nat → Except Trouble (Int × Progress)
  | 0 => scope.wrong "expecting primary"
  | fuel + 1 => do
    let (condition, last) ← disjunction scope active progress fuel
    if last.token != .sign "?" then return (condition, last)
    else
      let (positive, last) ← assigned scope (active && condition != 0) last.advance fuel
      if last.token != .sign ":" then scope.wrong "expecting ':'"
      else
        let (negative, last) ← conditional scope (active && condition == 0) last.advance fuel
        return (if condition != 0 then positive else negative, last)
termination_by structural fuel => fuel

/-- Reads expressions joined by "or", or less. -/
def disjunction (scope : Scope) (active : Bool) (progress : Progress) :
    Nat → Except Trouble (Int × Progress)
  | 0 => scope.wrong "expecting primary"
  | fuel + 1 => do
    let (first, last) ← conjunction scope active progress fuel
    if last.token != .sign "||" then return (first, last)
    else
      let (second, last) ← disjunction scope (active && first == 0) last.advance fuel
      return (truth (first != 0 || second != 0), last)
termination_by structural fuel => fuel

/-- Reads expressions joined by "and", or less. -/
def conjunction (scope : Scope) (active : Bool) (progress : Progress) :
    Nat → Except Trouble (Int × Progress)
  | 0 => scope.wrong "expecting primary"
  | fuel + 1 => do
    let (first, last) ← level scope active ranks progress fuel
    if last.token != .sign "&&" then return (first, last)
    else
      let (second, last) ← conjunction scope (active && first != 0) last.advance fuel
      return (truth (first != 0 && second != 0), last)
termination_by structural fuel => fuel

/-- Reads operands that are joined by operators of a rank or of stronger ones. -/
def level (scope : Scope) (active : Bool) (ranks : List (List String)) (progress : Progress) :
    Nat → Except Trouble (Int × Progress)
  | 0 => scope.wrong "expecting primary"
  | fuel + 1 =>
    match ranks with
    | [] => primary scope active progress fuel
    | rank :: stronger => do
      let (first, last) ← level scope active stronger progress fuel
      chain scope active rank stronger first last fuel
termination_by structural fuel => fuel

/-- Reads on behind an operand, as long as operators of a rank follow. -/
def chain (scope : Scope) (active : Bool) (rank : List String) (stronger : List (List String))
    (first : Int) (progress : Progress) : Nat → Except Trouble (Int × Progress)
  | 0 => scope.wrong "expecting primary"
  | fuel + 1 =>
    match progress.token with
    | .sign sign =>
      if !rank.contains sign then .ok (first, progress)
      else do
        let (second, last) ← level scope active stronger progress.advance fuel
        let value ← if active then scope.applied sign first second else pure second
        chain scope active rank stronger value last fuel
    | _ => .ok (first, progress)
termination_by structural fuel => fuel

/-- Reads a number, a name, an expression in parentheses, or one of these behind a sign. -/
def primary (scope : Scope) (active : Bool) (progress : Progress) :
    Nat → Except Trouble (Int × Progress)
  | 0 => scope.wrong "expecting primary"
  | fuel + 1 => do
    let behind := progress.advance
    match progress.token with
    | .number n => return (n, behind)
    | .name name => return (← if active then scope.lookUp progress name else pure 0, behind)
    | .sign "(" =>
      let (value, last) ← assigned scope active behind fuel
      if last.token != .sign ")" then scope.wrong "expecting ')'" else return (value, last.advance)
    | .sign "+" => primary scope active behind fuel
    | .sign "-" =>
      let (value, last) ← primary scope active behind fuel
      return (wrap (-value), last)
    | .sign "!" =>
      let (value, last) ← primary scope active behind fuel
      return (truth (value == 0), last)
    | .sign "~" =>
      let (value, last) ← primary scope active behind fuel
      return (-value - 1, last)
    | _ => scope.wrong "expecting primary"
termination_by structural fuel => fuel

end

/-- The value of an expression, and the variables that it assigns to, the last one first. -/
def evaluate (scope : Scope) : Except Trouble (Int × List (Text × Int)) := do
  let start := Progress.advance ⟨.finish, scope.text, []⟩
  let (value, last) ← assigned scope true start (16 * scope.text.length + 64)
  if last.token != .finish then scope.wrong "expecting EOF" else return (value, last.set)

end Dialogue.Shell.Arithmetic
