import Dialogue.Script.Parser

/-!
# Writing scripts

`Script.render` writes a script as a file. Not every script has a written form: steps must come in
pairs of an input and an output, and texts must be free of the characters that delimit them and of
beginnings that would be read as options. A script without a written form is refused.
-/

set_option autoImplicit false
set_option relaxedAutoImplicit false

namespace Dialogue.Script

open Text

/-- A text between quotes. -/
def inQuotes (text : Text) : Text :=
  '"' :: text ++ ['"']

/-- The written form of arguments. There must be at least one, and none may be empty. -/
def renderArguments? (values : List Text) : Option Text :=
  if values.isEmpty || values.any (fun value ↦ value.isEmpty || '"' ∈ value || ';' ∈ value) then
    none
  else some ('<' :: joinWith [';'] (values.map inQuotes) ++ ['>', '\n'])

/-- The written form of an expectation. -/
def renderExpectation? (pattern : Text) : MatchMode → Option Text
  | .errorSentinel => some errorSentinel
  | .exact =>
    if '"' ∈ pattern ∨ pattern = errorSentinel ∨ pattern.head? = some '!' then none
    else some (inQuotes pattern)
  | .caseInsensitive =>
    if '"' ∈ pattern ∨ pattern = errorSentinel then none
    else some (inQuotes ("!C".toList ++ pattern))

/-- The written form of an input. -/
def renderInput? (line : Text) : Option Text :=
  if isBlankText line ∨ '"' ∈ line ∨ '\n' ∈ line then none else some (inQuotes line)

/-- The written form of steps that come in pairs. -/
def renderSteps? : List Step → Option Text
  | [] => some []
  | .input line :: .expect pattern mode :: rest => do
    let input ← renderInput? line
    let expectation ← renderExpectation? pattern mode
    let others ← renderSteps? rest
    return expectation ++ " : ".toList ++ input ++ '\n' :: others
  | _ => none

/-- The written form of a script, if it has one. -/
def render? (script : Script) : Option Text := do
  let arguments ← match script.arguments with
    | none => some []
    | some values => renderArguments? values
  let steps ← renderSteps? script.steps
  return arguments ++ steps

end Dialogue.Script
