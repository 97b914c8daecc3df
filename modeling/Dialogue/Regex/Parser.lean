import Dialogue.Regex.Basic

/-!
# The writing of regular expressions

Regular expressions are written in one of two ways. In the basic one, groups, alternatives and
bounds are marked by backslashes, and in the extended one they are not. A text is cut into tokens
first, which depend on what stands before them, and the tokens are read as an expression.
-/

set_option autoImplicit false
set_option relaxedAutoImplicit false

namespace Dialogue.Regex

/-- A piece of the writing of an expression. -/
inductive Token where
  /-- An expression without parts. -/
  | atom (regex : Regex)
  | openGroup
  | closeGroup
  | bar
  | bounds (least : Nat) (most : Option Nat)
  deriving Repr, DecidableEq, Inhabited

/-- How an expression is written. -/
structure Writing where
  extended : Bool
  /-- Whether a letter behind a backslash may stand for a control character. -/
  escapes : Bool
  deriving Repr, DecidableEq, Inhabited

/-! ### Sets of characters -/

/-- The complaint about a set that does not end. -/
def openSet : Text := "Unmatched [, [^, [:, [., or [=".toList

/-- The control character that a letter behind a backslash stands for. -/
def control? : Char → Option Char
  | 'n' => some '\n'
  | 't' => some '\t'
  | 'r' => some '\r'
  | 'f' => some (Char.ofNat 12)
  | 'v' => some (Char.ofNat 11)
  | 'a' => some (Char.ofNat 7)
  | _ => none

/-- The text up to two characters that end it, and what follows. -/
def upToPair? (a b : Char) : Text → Option (Text × Text)
  | [] => none
  | c :: rest =>
    if c == a && rest.head? == some b then some ([], rest.drop 1)
    else (upToPair? a b rest).map fun (text, more) ↦ (c :: text, more)

/-- Reads the elements of a set, up to its end: its ranges and its classes. The fuel is the length
of the text. -/
def setElements (escapes first : Bool) (text : Text) :
    Nat → Except Text (List (Char × Char) × List CharClass × Text)
  | 0 => .error openSet
  | fuel + 1 => do
    let goOn (low high : Char) (rest : Text) :
        Except Text (List (Char × Char) × List CharClass × Text) := do
      let (ranges, classes, rest) ← setElements escapes false rest fuel
      return ((low, high) :: ranges, classes, rest)
    match text with
    | [] => .error openSet
    | '[' :: ':' :: rest =>
      match upToPair? ':' ']' rest with
      | none => .error openSet
      | some (name, rest) =>
        match CharClass.ofName? (String.ofList name) with
        | some one => do
          let (ranges, classes, rest) ← setElements escapes false rest fuel
          return (ranges, one :: classes, rest)
        | none => .error "Invalid character class name".toList
    | '[' :: '=' :: c :: '=' :: ']' :: rest => goOn c c rest
    | '[' :: '.' :: c :: '.' :: ']' :: rest => goOn c c rest
    | ']' :: rest => if first then goOn ']' ']' rest else .ok ([], [], rest)
    | c :: rest =>
      let (c, rest) := match c, rest with
        | '\\', d :: more =>
          match if escapes then control? d else none with
          | some control => (control, more)
          | none => (c, rest)
        | _, _ => (c, rest)
      match rest with
      | '-' :: ']' :: _ => goOn c c rest
      | '-' :: high :: more =>
        if high < c then .error "Invalid range end".toList else goOn c high more
      | _ => goOn c c rest

/-- Reads a set behind its bracket. -/
def readSet (escapes : Bool) (text : Text) : Except Text (Regex × Text) := do
  let (negated, text) := match text with
    | '^' :: rest => (true, rest)
    | _ => (false, text)
  let (ranges, classes, rest) ← setElements escapes true text (text.length + 1)
  return (.set negated ranges classes, rest)

/-! ### Tokens -/

/-- The bounds at the start of a text, up to the marks that end them. -/
def readBounds? (extended : Bool) (text : Text) : Option (Nat × Option Nat × Text) := do
  let low := text.takeWhile Char.isDigit
  let rest := text.drop low.length
  let least := (Text.toNat? 10 low).getD 0
  let (most, rest) ← match rest with
    | ',' :: more =>
      let high := more.takeWhile Char.isDigit
      some (Text.toNat? 10 high, more.drop high.length)
    | _ => if low.isEmpty then none else some (some least, rest)
  let rest ← match rest with
    | '\x7d' :: more => if extended then some more else none
    | '\\' :: '\x7d' :: more => if extended then none else some more
    | _ => none
  if most.any (· < least) then none
  return (least, most, rest)

/-- What a letter behind a backslash stands for, in both ways of writing. -/
def special? : Char → Option Regex
  | 'w' => some (.set false [] [.word])
  | 'W' => some (.set true [] [.word])
  | 's' => some (.set false [] [.space])
  | 'S' => some (.set true [] [.space])
  | '<' => some (.anchor .wordStart)
  | '>' => some (.anchor .wordEnd)
  | 'b' => some (.anchor .wordEdge)
  | 'B' => some (.anchor .noWordEdge)
  | '\x60' => some (.anchor .textStart)
  | '\'' => some (.anchor .textEnd)
  | _ => none

/-- The tokens of a text. At the start of an expression some characters have no meaning. The fuel is
the length of the text. -/
def tokensUpTo (writing : Writing) (atStart : Bool) (text : Text) : Nat → Except Text (List Token)
  | 0 => .ok []
  | fuel + 1 => do
    let goOn (token : Token) (atStart : Bool) (rest : Text) : Except Text (List Token) :=
      (tokensUpTo writing atStart rest fuel).map (token :: ·)
    let plain (c : Char) (rest : Text) : Except Text (List Token) :=
      goOn (.atom (.char c)) false rest
    let bounded (rest : Text) (orElse : Except Text (List Token)) : Except Text (List Token) :=
      match readBounds? writing.extended rest with
      | some (least, most, rest) => goOn (.bounds least most) false rest
      | none => orElse
    let marked (c : Char) (rest : Text) : Except Text (List Token) :=
      match c with
      | '(' => goOn .openGroup true rest
      | ')' => goOn .closeGroup false rest
      | '|' => goOn .bar true rest
      | '+' => if atStart then plain '+' rest else goOn (.bounds 1 none) false rest
      | '?' => if atStart then plain '?' rest else goOn (.bounds 0 (some 1)) false rest
      | other => plain other rest
    match text with
    | [] => .ok []
    | ['\\'] => .error "Trailing backslash".toList
    | '\\' :: c :: rest =>
      if ['(', ')', '|', '+', '?'].contains c && !writing.extended then marked c rest
      else if c == '\x7b' && !writing.extended then
        if atStart then plain c rest
        else bounded rest (.error "Invalid content of \\\x7b\\\x7d".toList)
      else if '1' ≤ c && c ≤ '9' then goOn (.atom (.back (c.toNat - 48))) false rest
      else
        match special? c with
        | some regex => goOn (.atom regex) false rest
        | none =>
          match if writing.escapes || c == 'n' then control? c else none with
          | some control => plain control rest
          | none => plain c rest
    | '[' :: rest =>
      let (regex, rest) ← readSet writing.escapes rest
      goOn (.atom regex) false rest
    | '.' :: rest => goOn (.atom .any) false rest
    | '*' :: rest =>
      if atStart && writing.extended then tokensUpTo writing true rest fuel
      else if atStart then plain '*' rest
      else goOn (.bounds 0 none) false rest
    | '^' :: rest =>
      if writing.extended || atStart then goOn (.atom (.anchor .start)) true rest
      else plain '^' rest
    | '$' :: rest =>
      let closes := match rest with
        | [] => true
        | '\\' :: c :: _ => c == ')' || c == '|'
        | _ => false
      if writing.extended || closes then goOn (.atom (.anchor .finish)) false rest
      else plain '$' rest
    | '\x7b' :: rest =>
      if writing.extended && !atStart then bounded rest (plain '\x7b' rest) else plain '\x7b' rest
    | c :: rest =>
      if writing.extended && ['(', ')', '|', '+', '?'].contains c then marked c rest
      else plain c rest

/-! ### Expressions -/

/-- The complaint about a group that does not end. -/
def openGroupFlaw : Text := "Unmatched ( or \\(".toList

/-- An expression repeated as some tokens tell, and the tokens behind them. -/
def withBounds (regex : Regex) : List Token → Regex × List Token
  | .bounds least most :: rest => withBounds (.repeated regex least most) rest
  | tokens => (regex, tokens)

/-- Reads alternatives up to the end of a group, or of all tokens: the expression, the number of the
next group, and what is left. The fuel is the number of tokens. -/
def alternatives (inGroup : Bool) (number : Nat) (done : Option Regex) (current : Regex)
    (tokens : List Token) : Nat → Except Text (Regex × Nat × List Token)
  | 0 => .error openGroupFlaw
  | fuel + 1 =>
    let whole := match done with
      | some first => .alt first current
      | none => current
    let goOn (number : Nat) (regex : Regex) (rest : List Token) :
        Except Text (Regex × Nat × List Token) :=
      let (regex, rest) := withBounds regex rest
      let joined := if current == .empty then regex else .seq current regex
      alternatives inGroup number done joined rest fuel
    match tokens with
    | [] => if inGroup then .error openGroupFlaw else .ok (whole, number, [])
    | .closeGroup :: rest =>
      if inGroup then .ok (whole, number, rest) else .error "Unmatched ) or \\)".toList
    | .bar :: rest => alternatives inGroup number (some whole) .empty rest fuel
    | .openGroup :: rest => do
      let (inner, next, rest) ← alternatives true (number + 1) none .empty rest fuel
      goOn next (.group number inner) rest
    | .bounds _ _ :: rest => alternatives inGroup number done current rest fuel
    | .atom (.back n) :: rest =>
      if n < number then goOn number (.back n) rest else .error "Invalid back reference".toList
    | .atom regex :: rest => goOn number regex rest

/-- The number of groups in an expression. -/
def groupCount : Regex → Nat
  | .group _ inner => groupCount inner + 1
  | .repeated inner _ _ => groupCount inner
  | .seq first second | .alt first second => groupCount first + groupCount second
  | _ => 0

/-- Reads an expression, or tells what is wrong with it. -/
def parse (writing : Writing) (text : Text) : Except Text Regex := do
  let tokens ← tokensUpTo writing true text (text.length + 1)
  let (regex, _, _) ← alternatives false 1 none .empty tokens (tokens.length + 1)
  return regex

/-- An expression that matches a text as it is. -/
def ofText (text : Text) : Regex :=
  match text with
  | [] => .empty
  | c :: rest => rest.foldl (fun regex c ↦ .seq regex (.char c)) (.char c)

end Dialogue.Regex
