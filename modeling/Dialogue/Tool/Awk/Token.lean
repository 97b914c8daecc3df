import Dialogue.Regex.Parser
import Dialogue.Text.Real
import Dialogue.Tool.Awk.Program

/-!
# The words of a program

A program is cut into words. A slash begins a pattern where a value may begin, and is a division
elsewhere. Behind a backslash, a line break is nothing.
-/

set_option autoImplicit false
set_option relaxedAutoImplicit false

namespace Dialogue.Text.Real

/-- The number of the machine that is a number with a point. -/
def toFloat : Real → Float
  | finite negative binary =>
    let size := Float.scaleB (Float.ofNat binary.digits) binary.exponent
    if negative then -size else size
  | infinite negative => if negative then -1.0 / 0.0 else 1.0 / 0.0
  | undefined _ => 0.0 / 0.0

/-- The number with a point that a number of the machine is. What is undefined has a minus. -/
def ofFloat (value : Float) : Real :=
  let bits := value.toBits.toNat
  let negative := 1 ≤ bits / Nat.pow 2 63
  let exponent := bits / Nat.pow 2 52 % 2048
  let digits := bits % Nat.pow 2 52
  if exponent = 2047 then if digits = 0 then infinite negative else undefined true
  else if exponent = 0 then finite negative ⟨digits, leastExponent⟩
  else finite negative ⟨digits + Nat.pow 2 52, (exponent : Int) - 1075⟩

/-- The binary fraction of a number; zero if it has none. -/
def binary : Real → Binary
  | finite _ binary => binary
  | infinite _ | undefined _ => ⟨0, 0⟩

end Dialogue.Text.Real

namespace Dialogue.Tool.Awk

/-- A word of a program. -/
inductive Token where
  | number (value : Float)
  | text (value : Text)
  | pattern (text : Text)
  | name (name : Text)
  /-- A name with an opening parenthesis right behind it. -/
  | function (name : Text)
  | builtin (name : String)
  | keyword (name : String)
  | symbol (name : String)
  | lineBreak
  deriving Repr, BEq, Inhabited

/-- A word as it is shown in a complaint. -/
def Token.shown : Token → Text
  | number value => Text.Real.general (Text.Real.ofFloat value).binary 6 false
  | text inner => '"' :: inner ++ ['"']
  | pattern inner => '/' :: inner ++ ['/']
  | name word | function word => word
  | builtin word | keyword word | symbol word => word.toList
  | lineBreak => "unexpected newline".toList

/-- What is wrong with a program. -/
inductive Flaw where
  /-- A word stands where it does not belong, or the program ends too early. -/
  | unexpected (rest : List Token)
  | openText
  | openPattern
  | strayCharacter (c : Char)
  | unknownFunction (name : Text)
  | badPattern (text : Text)
  | strayReturn
  | strayJump (word : String)
  deriving Repr, BEq, Inhabited

/-- The wording of a flaw. -/
def Flaw.message : Flaw → Text
  | unexpected [] => "syntax error at or near end of file".toList
  | unexpected (word :: _) => "syntax error at or near ".toList ++ word.shown
  | openText => "runaway string constant".toList
  | openPattern => "runaway regular expression".toList
  | strayCharacter c => "unexpected character '".toList ++ [c, '\'']
  | unknownFunction name => "function ".toList ++ name ++ " never defined".toList
  | badPattern text => "regular expression compile failed\n".toList ++ text
  | strayReturn => "return outside function body".toList
  | strayJump word => word.toList ++ " statement outside of loop".toList

/-! ### Texts and patterns -/

/-- The character that a letter behind a backslash stands for. -/
def control? : Char → Option Char
  | 'n' => some '\n'
  | 't' => some '\t'
  | 'r' => some '\r'
  | 'a' => some (Char.ofNat 7)
  | 'b' => some (Char.ofNat 8)
  | 'v' => some (Char.ofNat 11)
  | 'f' => some (Char.ofNat 12)
  | _ => none

/-- What stands behind a backslash, if it is the number of a character, and the rest. -/
def numbered? (text : Text) : Option (Char × Text) :=
  let octal := (text.take 3).takeWhile fun c ↦ '0' ≤ c && c ≤ '7'
  match text with
  | 'x' :: rest =>
    let digits := (rest.take 2).takeWhile (Text.Real.isDigitOf 16)
    (Text.toNat? 16 digits).map fun n ↦ (Char.ofNat n, rest.drop digits.length)
  | _ => (Text.toNat? 8 octal).map fun n ↦ (Char.ofNat (n % 256), text.drop octal.length)

/-- The text up to the quotation mark that ends it, with its sequences expanded, and the rest. The
fuel is the length of the text. -/
def quotedUpTo (found : Text) (text : Text) : Nat → Except Flaw (Text × Text)
  | 0 => .error .openText
  | fuel + 1 =>
    match text with
    | [] | '\n' :: _ => .error .openText
    | '"' :: rest => .ok (found.reverse, rest)
    | '\\' :: '\n' :: rest => quotedUpTo found rest fuel
    | '\\' :: c :: rest =>
      if c == '"' || c == '\\' then quotedUpTo (c :: found) rest fuel
      else
        match control? c, numbered? (c :: rest) with
        | some control, _ => quotedUpTo (control :: found) rest fuel
        | none, some (number, rest) => quotedUpTo (number :: found) rest fuel
        | none, none => quotedUpTo (c :: '\\' :: found) rest fuel
    | c :: rest => quotedUpTo (c :: found) rest fuel

/-- A text with its sequences expanded, as in quotation marks. -/
def expanded (text : Text) : Text :=
  match quotedUpTo [] (text ++ ['"']) (2 * text.length + 2) with
  | .ok (expanded, []) => expanded
  | _ => text

/-- The pattern up to the slash that ends it, which may stand within brackets, and the rest. The
fuel is the length of the text. -/
def patternUpTo (inSet : Bool) (found : Text) (text : Text) : Nat → Except Flaw (Text × Text)
  | 0 => .error .openPattern
  | fuel + 1 =>
    match text with
    | [] | '\n' :: _ => .error .openPattern
    | '\\' :: '\n' :: rest => patternUpTo inSet found rest fuel
    | '\\' :: '/' :: rest => patternUpTo inSet ('/' :: found) rest fuel
    | '\\' :: c :: rest => patternUpTo inSet (c :: '\\' :: found) rest fuel
    | '/' :: rest =>
      if inSet && rest.contains ']' then patternUpTo inSet ('/' :: found) rest fuel
      else .ok (found.reverse, rest)
    | '[' :: rest =>
      if inSet then patternUpTo inSet ('[' :: found) rest fuel
      else
        let front := match rest with
          | '^' :: ']' :: _ => ['^', ']']
          | '^' :: _ => ['^']
          | ']' :: _ => [']']
          | _ => []
        patternUpTo true (front.reverse ++ '[' :: found) (rest.drop front.length) fuel
    | ']' :: rest => patternUpTo false (']' :: found) rest fuel
    | c :: rest => patternUpTo inSet (c :: found) rest fuel

/-- A pattern in the extended way of writing. A character behind a backslash stands for itself, and
does so within brackets, too. The fuel is the length of the text. -/
def plainPattern (inSet : Bool) (text : Text) : Nat → Text
  | 0 => []
  | fuel + 1 =>
    let literal (c : Char) : Text :=
      if inSet then "[.".toList ++ c :: ".]".toList
      else if ".[]()*+?\x7b\x7d|^$\\".toList.contains c then ['\\', c]
      else [c]
    match text with
    | [] => []
    | ['\\'] => ['\\', '\\']
    | '\\' :: c :: rest =>
      match control? c, if c == 'x' then none else numbered? (c :: rest) with
      | some control, _ => literal control ++ plainPattern inSet rest fuel
      | none, some (number, rest) => literal number ++ plainPattern inSet rest fuel
      | none, none => literal c ++ plainPattern inSet rest fuel
    | '[' :: ':' :: rest =>
      if inSet then
        let name := rest.takeWhile (· != ']')
        '[' :: ':' :: name ++ ']' :: plainPattern inSet (rest.drop (name.length + 1)) fuel
      else '[' :: plainPattern true (':' :: rest) fuel
    | '[' :: rest =>
      if inSet then '[' :: plainPattern inSet rest fuel
      else
        let front := match rest with
          | '^' :: ']' :: _ => ['^', ']']
          | '^' :: _ => ['^']
          | ']' :: _ => [']']
          | _ => []
        '[' :: front ++ plainPattern true (rest.drop front.length) fuel
    | ']' :: rest => ']' :: plainPattern false rest fuel
    | c :: rest => c :: plainPattern inSet rest fuel

/-- Whether an expression lacks a part: nothing is repeated, or nothing stands in parentheses or
beside a bar. -/
def lacksPart (fresh : Bool) : List Regex.Token → Bool
  | [] => false
  | .atom (.anchor .start) :: rest => lacksPart fresh rest
  | .atom _ :: rest => lacksPart false rest
  | .openGroup :: rest => lacksPart true rest
  | .closeGroup :: rest => fresh || lacksPart false rest
  | .bar :: rest => fresh || rest.isEmpty || lacksPart true rest
  | .bounds _ _ :: rest => lacksPart fresh rest

/-- The pattern that a text writes. -/
def patternOf (text : Text) : Except Flaw Regex.Pattern :=
  let plain := plainPattern false text (text.length + 1)
  let tokens := Regex.tokensUpTo ⟨true, false⟩ true plain (plain.length + 1)
  match tokens, Regex.parse ⟨true, false⟩ plain with
  | .ok tokens, .ok regex =>
    if lacksPart true tokens then .error (.badPattern text) else .ok ⟨regex, false, false⟩
  | _, _ => .error (.badPattern text)

/-! ### Words -/

/-- The words with a meaning of their own. -/
def keywords : List String :=
  ["BEGIN", "END", "function", "if", "else", "while", "for", "do", "break", "continue",
    "next", "nextfile", "exit", "return", "delete", "in", "getline", "print", "printf"]

/-- The functions that every program has. -/
def builtins : List String :=
  ["length", "substr", "index", "split", "sub", "gsub", "match", "sprintf", "sin", "cos", "atan2",
    "exp", "log", "sqrt", "int", "rand", "srand", "tolower", "toupper", "system", "close",
    "fflush"]

/-- The symbols, the longer ones first. -/
def symbols : List String :=
  ["&&", "||", "++", "--", "+=", "-=", "*=", "/=", "%=", "^=", "==", "<=", ">=", "!=", ">>", "!~",
    "\x7b", "\x7d", "(", ")", "[", "]", ";", ",", "+", "-", "*", "/", "%", "^", "!", ">", "<", "|",
    "?", ":", "~", "$", "="]

/-- Whether a value ends with a word, so that a slash behind it is a division. -/
def Token.endsValue : Token → Bool
  | .number _ | .text _ | .pattern _ | .name _ | .builtin _ => true
  | .symbol mark => [")", "]", "$", "++", "--"].contains mark
  | _ => false

/-- Whether a character may stand in a name. -/
def isNameChar (c : Char) : Bool := c.isAlphanum || c == '_'

/-- The words of a text, behind those that were found, the last one first. The fuel is the length of
the text and one more. -/
def tokensUpTo (found : List Token) (text : Text) : Nat → Except Flaw (List Token)
  | 0 => .ok found.reverse
  | fuel + 1 => do
    match text with
    | [] => return found.reverse
    | '\n' :: rest => tokensUpTo (.lineBreak :: found) rest fuel
    | '\\' :: '\n' :: rest => tokensUpTo found rest fuel
    | '\\' :: '\r' :: '\n' :: rest => tokensUpTo found rest fuel
    | '#' :: rest => tokensUpTo found (rest.dropWhile (· != '\n')) fuel
    | '"' :: rest =>
      let (value, rest) ← quotedUpTo [] rest (rest.length + 1)
      tokensUpTo (.text value :: found) rest fuel
    | c :: rest =>
      if c == ' ' || c == '\t' || c == '\r' then tokensUpTo found rest fuel
      else if c.isDigit || (c == '.' && rest.head?.any Char.isDigit) then
        let isHexadecimal := c == '0' && rest.head?.any fun d ↦ d == 'x' || d == 'X'
        let number := if isHexadecimal then some (.zero, rest)
          else Text.Real.cutUnsigned? false text
        match number with
        | some (value, behind) => tokensUpTo (.number value.toFloat :: found) behind fuel
        | none => throw (.strayCharacter c)
      else if isNameChar c then
        let name := text.takeWhile isNameChar
        let behind := text.drop name.length
        let word := String.ofList name
        let token :=
          if keywords.contains word then .keyword word
          else if builtins.contains word then .builtin word
          else if behind.head? == some '(' then .function name
          else .name name
        tokensUpTo (token :: found) behind fuel
      else if c == '/' && !found.head?.any Token.endsValue then
        let (pattern, rest) ← patternUpTo false [] rest (rest.length + 1)
        tokensUpTo (.pattern pattern :: found) rest fuel
      else
        match symbols.find? fun symbol ↦ symbol.toList.isPrefixOf text with
        | some symbol => tokensUpTo (.symbol symbol :: found) (text.drop symbol.length) fuel
        | none => throw (.strayCharacter c)

/-- The words of a program. -/
def tokens (text : Text) : Except Flaw (List Token) :=
  tokensUpTo [] text (text.length + 1)

end Dialogue.Tool.Awk
