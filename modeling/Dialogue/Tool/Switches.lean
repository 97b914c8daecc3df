import Dialogue.Tool.Input

/-!
# Switches

The words that a tool is called with are switches, their values, and operands. A switch is a letter
behind a hyphen, or a name behind two; letters may be put together, and a name may be cut short as
long as it can be told from others. A value follows a letter at once or as the next word, and a name
behind an equals sign or as the next word.
-/

set_option autoImplicit false
set_option relaxedAutoImplicit false

namespace Dialogue.Tool

/-- Whether a switch has a value. -/
inductive Arity where
  | none
  | required
  | optional
  deriving Repr, DecidableEq, Inhabited

/-- A switch of a tool. It is known by its name, or by its letter if it has no name. -/
structure Switch where
  letters : String
  name : String
  arity : Arity
  deriving Repr, DecidableEq, Inhabited

namespace Switch

/-- A switch without a value. -/
def flag (letters name : String) : Switch := ⟨letters, name, .none⟩

/-- A switch with a value. -/
def value (letters name : String) : Switch := ⟨letters, name, .required⟩

/-- A switch that may have a value. -/
def maybe (letters name : String) : Switch := ⟨letters, name, .optional⟩

/-- Switches without a value that have only a letter. -/
def plain (letters : String) : List Switch :=
  letters.toList.map fun c ↦ flag (String.singleton c) ""

/-- What a switch is known by. -/
def key (switch : Switch) : String :=
  if switch.name.isEmpty then switch.letters else switch.name

end Switch

/-- The switches that were given, each with its value, and the operands. -/
structure Choices where
  given : List (String × Text)
  operands : List Text
  deriving Repr, DecidableEq, Inhabited

namespace Choices

/-- Whether a switch was given. -/
def has (choices : Choices) (key : String) : Bool :=
  choices.given.any fun (other, _) ↦ other == key

/-- The last value that a switch was given. -/
def last? (choices : Choices) (key : String) : Option Text :=
  (choices.given.filter fun (other, _) ↦ other == key).getLast?.map Prod.snd

/-- All values that a switch was given. -/
def all (choices : Choices) (key : String) : List Text :=
  (choices.given.filter fun (other, _) ↦ other == key).map Prod.snd

/-- The one of some switches that was given last. -/
def lastOf? (choices : Choices) (keys : List String) : Option String :=
  (choices.given.filter fun (other, _) ↦ keys.contains other).getLast?.map Prod.fst

/-- The choices with one more switch in front. -/
def choose (key : String) (value : Text) (choices : Choices) : Choices :=
  { choices with given := (key, value) :: choices.given }

end Choices

/-- The switches whose names begin with a text, or the one that has it as its name. -/
def named (switches : List Switch) (name : Text) : List Switch :=
  match switches.find? fun switch ↦ 1 < switch.name.length && switch.name.toList == name with
  | some switch => [switch]
  | none =>
    switches.filter fun switch ↦ 1 < switch.name.length && name.isPrefixOf switch.name.toList

/-- A switch as it is named in a complaint. -/
def quotedSwitch (name : Text) : Text :=
  "'--".toList ++ name ++ "'".toList

/-- Reads the words of a tool. An operand may end the switches. The fuel is the number of words and
of their characters. -/
def readWordsUpTo (switches : List Switch) (ordered : Bool) (words : List Text) :
    Nat → Except Text Choices
  | 0 => .ok ⟨[], words⟩
  | fuel + 1 =>
    let goOn (rest : List Text) : Except Text Choices := readWordsUpTo switches ordered rest fuel
    match words with
    | [] => .ok ⟨[], []⟩
    | ['-', '-'] :: rest => .ok ⟨[], rest⟩
    | ('-' :: '-' :: long) :: rest =>
      let name := long.takeWhile (· != '=')
      let value := (long.drop name.length).tail?
      match named switches name with
      | [] => .error ("unrecognized option ".toList ++ quotedSwitch name)
      | [switch] =>
        let whole := quotedSwitch switch.name.toList
        match switch.arity, value with
        | .none, some _ =>
          .error ("option ".toList ++ whole ++ " doesn't allow an argument".toList)
        | .required, none =>
          match rest with
          | text :: rest => (goOn rest).map (.choose switch.key text)
          | [] => .error ("option ".toList ++ whole ++ " requires an argument".toList)
        | _, value => (goOn rest).map (.choose switch.key (value.getD []))
      | several =>
        .error ("option ".toList ++ quotedSwitch name ++ " is ambiguous; possibilities:".toList
          ++ several.flatMap fun switch ↦ ' ' :: quotedSwitch switch.name.toList)
    | ('-' :: c :: more) :: rest =>
      match switches.find? fun switch ↦ switch.letters.toList.contains c with
      | none => .error ("invalid option -- '".toList ++ [c] ++ "'".toList)
      | some switch =>
        match switch.arity, more, rest with
        | .none, [], rest => (goOn rest).map (.choose switch.key [])
        | .none, more, rest => (goOn (('-' :: more) :: rest)).map (.choose switch.key [])
        | .required, [], text :: rest => (goOn rest).map (.choose switch.key text)
        | .required, [], [] =>
          .error ("option requires an argument -- '".toList ++ [c] ++ "'".toList)
        | _, more, rest => (goOn rest).map (.choose switch.key more)
    | word :: rest =>
      if ordered then .ok ⟨[], words⟩
      else (goOn rest).map fun choices ↦ { choices with operands := word :: choices.operands }

/-- Reads the words of a tool. -/
def readWords (switches : List Switch) (ordered : Bool) (words : List Text) : Except Text Choices :=
  readWordsUpTo switches ordered words (words.foldl (fun n word ↦ n + word.length + 1) 1)

namespace Work

/-- Tells how to learn more about the tool. -/
def suggestHelp : Work Unit := do
  report ("Try '".toList ++ (← toolName) ++ " --help' for more information.\n".toList)

/-- Ends a tool that is called in a wrong way. -/
def misused {α : Type} (message : Text) (status : Nat) : Work α := do
  complain message
  suggestHelp
  stop status

/-- The number that a switch was given last, or the one that holds without it. -/
def number (choices : Choices) (key : String) (default : Nat) (complaint : Text → Text)
    (status : Nat) : Work Nat :=
  match choices.last? key with
  | none => pure default
  | some word =>
    match Text.toNat? 10 word with
    | some n => pure n
    | none => fail (complaint word) status

/-- Ends a tool that is given too many operands. -/
def atMost (choices : Choices) (count status : Nat) : Work Unit :=
  match choices.operands.drop count with
  | [] => pure ()
  | word :: _ => misused ("extra operand ".toList ++ quotedWord word) status

/-- Reads the words of a tool, or ends it in some way. -/
def choicesOr (refuse : Text → Work Choices) (switches : List Switch) (ordered : Bool)
    (words : List Text) : Work Choices :=
  match readWords switches ordered words with
  | .ok choices => pure choices
  | .error message => refuse message

/-- Reads the words of a tool, or ends it. -/
def choices (switches : List Switch) (ordered : Bool) (words : List Text) (status : Nat) :
    Work Choices :=
  choicesOr (misused · status) switches ordered words

end Work

end Dialogue.Tool
