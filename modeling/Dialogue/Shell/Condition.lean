import Dialogue.Files.Host
import Dialogue.Shell.Arithmetic
import Dialogue.Text.Bytes

/-!
# Conditions

A condition is a list of words: a comparison of two texts or numbers, a question about a text or a
file, or such conditions joined by "and", "or", "not" and parentheses. Whether a word is an operator
depends on the words behind it, and where there are few words, on how many there are.
-/

set_option autoImplicit false
set_option relaxedAutoImplicit false

namespace Dialogue.Shell.Condition

/-! ### Operators -/

/-- What an operator joins. -/
inductive Kind where
  | unary
  | binary
  | negation
  | both
  | either
  | opening
  | closing
  deriving Repr, DecidableEq, Inhabited

/-- The operators. -/
def kinds : List (String × Kind) :=
  (["-r", "-w", "-x", "-e", "-f", "-d", "-c", "-b", "-p", "-u", "-g", "-k", "-s", "-t", "-z", "-n",
      "-h", "-O", "-G", "-L", "-S"].map fun sign ↦ (sign, .unary))
    ++ (["=", "!=", "<", ">", "-eq", "-ne", "-ge", "-gt", "-le", "-lt", "-nt", "-ot", "-ef"].map
      fun sign ↦ (sign, .binary))
    ++ [("!", .negation), ("-a", .both), ("-o", .either), ("(", .opening), (")", .closing)]

/-- The kind of operator that a word may be. -/
def kind? (word : Text) : Option Kind :=
  if word.length ≤ 3 then kinds.lookup (String.ofList word) else none

/-- What the first of some words counts as. -/
inductive Role where
  | finish
  | operand
  | operator (kind : Kind)
  deriving Repr, DecidableEq, Inhabited

/-- Whether an operator in front of some words is an operand in truth: if there is nothing for it to
apply to, or if a comparison follows. -/
def isOperand (rest : List Text) : Bool :=
  match rest with
  | [] => true
  | [_] => false
  | word :: _ => kind? word == some .binary

/-- What the first of some words counts as. -/
def role (words : List Text) : Role :=
  match words with
  | [] => .finish
  | word :: rest =>
    match kind? word with
    | none => .operand
    | some kind =>
      if kind == .unary && isOperand rest then .operand
      else if kind == .opening && rest.isEmpty then .operand
      else .operator kind

/-! ### Questions -/

/-- The number that a word is. -/
def number (word : Text) : Except Text Int :=
  let (negative, digits) := match word.dropWhile Arithmetic.isSpace with
    | '-' :: rest => (true, rest)
    | '+' :: rest => (false, rest)
    | rest => (false, rest)
  let body := digits.takeWhile Char.isDigit
  let value : Int := Arithmetic.valueOf 10 body
  let value := if negative then -value else value
  if !body.isEmpty && (digits.drop body.length).all Arithmetic.isSpace
      && Arithmetic.least ≤ value && value ≤ Arithmetic.greatest then .ok value
  else .error ("Illegal number: ".toList ++ word)

/-- Compares two words as numbers. -/
def compare (test : Int → Int → Bool) (a b : Text) : Except Text Bool := do
  return test (← number a) (← number b)

/-- The place of what is at a path. -/
def placeOf? (host : Host) (word : Text) : Option Location :=
  match host.resolve ⟨Text.widen word⟩ with
  | .ok place => if (host.at? place).isSome then some place else none
  | .error _ => none

/-- The answer of an operator between two words. -/
def binary (host : Host) (operator : Text) (a b : Text) : Except Text Bool :=
  match String.ofList operator with
  | "=" => .ok (a == b)
  | "!=" => .ok (a != b)
  | "<" => .ok (decide (a < b))
  | ">" => .ok (decide (b < a))
  | "-eq" => compare (· == ·) a b
  | "-ne" => compare (· != ·) a b
  | "-lt" => compare (fun m n ↦ m < n) a b
  | "-le" => compare (fun m n ↦ m ≤ n) a b
  | "-gt" => compare (fun m n ↦ n < m) a b
  | "-ge" => compare (fun m n ↦ n ≤ m) a b
  | "-nt" | "-ot" => .ok false
  | _ => .ok ((placeOf? host a).isSome && placeOf? host a == placeOf? host b)

/-- The answer of an operator in front of a word. -/
def unary (host : Host) (operator word : Text) : Except Text Bool :=
  let path : Path := ⟨Text.widen word⟩
  let there := host.lookup? path
  let isDevice := (placeOf? host word).any fun place ↦ place.head? == some "dev".toList
  match String.ofList operator with
  | "-n" => .ok !word.isEmpty
  | "-z" => .ok word.isEmpty
  | "-e" | "-r" | "-w" | "-O" | "-G" => .ok there.isSome
  | "-f" => .ok (host.isFile path && !isDevice)
  | "-c" => .ok (host.isFile path && isDevice)
  | "-d" => .ok (host.isDirectory path)
  | "-s" => .ok <| match there with
    | some (.file content _) => !content.isEmpty
    | some (.directory _) => true
    | none => false
  | "-x" => .ok <| match there with
    | some (.file _ executable) => executable
    | some (.directory _) => true
    | none => false
  | "-t" => do
    let _ ← number word
    return false
  | _ => .ok false

/-! ### Conditions -/

/-- The complaint about a word, or about none. -/
def flaw (word : Option Text) (complaint : String) : Text :=
  match word with
  | some word => if word.isEmpty then complaint.toList else word ++ ": ".toList ++ complaint.toList
  | none => complaint.toList

mutual

/-- Reads conditions joined by "or", of which the first word has a role. The words that are left
begin with the last one that was read. -/
def disjunction (host : Host) (before : Bool) (first : Role) (words : List Text) :
    Nat → Except Text (Bool × List Text)
  | 0 => .ok (before, words)
  | fuel + 1 => do
    let (value, rest) ← conjunction host true first words fuel
    let value := before || value
    match role (rest.drop 1) with
    | .operator .either => disjunction host value (role (rest.drop 2)) (rest.drop 2) fuel
    | _ => return (value, rest)
termination_by structural fuel => fuel

/-- Reads conditions joined by "and". -/
def conjunction (host : Host) (before : Bool) (first : Role) (words : List Text) :
    Nat → Except Text (Bool × List Text)
  | 0 => .ok (before, words)
  | fuel + 1 => do
    let (value, rest) ← negated host first words fuel
    let value := before && value
    match role (rest.drop 1) with
    | .operator .both => conjunction host value (role (rest.drop 2)) (rest.drop 2) fuel
    | _ => return (value, rest)
termination_by structural fuel => fuel

/-- Reads a condition that may be negated. -/
def negated (host : Host) (first : Role) (words : List Text) :
    Nat → Except Text (Bool × List Text)
  | 0 => .ok (false, words)
  | fuel + 1 =>
    match first with
    | .operator .negation => do
      let (value, rest) ← match role (words.drop 1) with
        | .finish => negated host .finish words fuel
        | next => negated host next (words.drop 1) fuel
      return (!value, rest)
    | _ => single host first words fuel
termination_by structural fuel => fuel

/-- Reads one condition. -/
def single (host : Host) (first : Role) (words : List Text) :
    Nat → Except Text (Bool × List Text)
  | 0 => .ok (false, words)
  | fuel + 1 =>
    match first, words with
    | .finish, _ | _, [] => .ok (false, words)
    | .operator .opening, _ :: rest =>
      match role rest with
      | .operator .closing => .ok (false, rest)
      | next => do
        let (value, rest) ← disjunction host false next rest fuel
        match role (rest.drop 1) with
        | .operator .closing => return (value, rest.drop 1)
        | _ => .error (flaw none "closing paren expected")
    | .operator .unary, operator :: rest =>
      match rest with
      | [] => .error (flaw operator "argument expected")
      | word :: _ => do return (← unary host operator word, rest)
    | _, word :: rest =>
      match role rest, rest with
      | .operator .binary, operator :: behind =>
        match behind with
        | [] => .error (flaw operator "argument expected")
        | other :: _ => do return (← binary host operator word other, behind)
      | _, _ => .ok (!word.isEmpty, words)
termination_by structural fuel => fuel

end

/-- The value of a condition that counts, or its opposite. -/
def valueFrom (host : Host) (first : Role) (words : List Text) : Except Text Bool := do
  let (value, rest) ← disjunction host false first words (4 * words.length + 8)
  match rest with
  | word :: _ :: _ => .error (flaw word "unexpected operator")
  | _ => return value

/-- The value of a condition. No words at all are false. Three words with a comparison in the middle
are nothing else; otherwise three or four words may be in parentheses or negated as a whole. -/
def valueUpTo (host : Host) (words : List Text) : Nat → Except Text Bool
  | 0 => .ok false
  | fuel + 1 =>
    let few := words.length == 3 || words.length == 4
    let compares := words.length == 3 && (words[1]?.bind kind?) == some .binary
    if words.isEmpty then .ok false
    else if compares then valueFrom host .operand words
    else if few && words.head? == some ['('] && words.getLast? == some [')'] then
      let inner := (words.drop 1).dropLast
      valueFrom host (role inner) inner
    else if few && words.head? == some ['!'] then do
      return !(← valueUpTo host (words.drop 1) fuel)
    else valueFrom host (role words) words

/-- The value of a condition. -/
def value (host : Host) (words : List Text) : Except Text Bool :=
  valueUpTo host words 5

end Dialogue.Shell.Condition
