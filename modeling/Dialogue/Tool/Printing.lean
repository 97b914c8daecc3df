import Dialogue.Shell.Condition
import Dialogue.Shell.Format
import Dialogue.Tool.Input
import Dialogue.Tool.Switches

/-!
# Tools that print or test their words

`echo` and `printf` print the words they are called with, `test` tells by its status whether a
condition holds that is given word by word, and `true` and `false` have a status only.
-/

set_option autoImplicit false
set_option relaxedAutoImplicit false

namespace Dialogue.Tool

open Dialogue.Machine

/-- Whether a word is made of the letters that are switches of `echo`. -/
def isEchoSwitch : Text → Bool
  | '-' :: c :: letters => (c :: letters).all fun c ↦ c == 'n' || c == 'e' || c == 'E'
  | _ => false

/-- A text with its sequences expanded, and whether one of them ends all output; bytes may be given
in base sixteen. The fuel is the length of the text. -/
def expandedUpTo (text : Text) : Nat → Text × Bool
  | 0 => ([], false)
  | fuel + 1 =>
    let goOn (front rest : Text) : Text × Bool :=
      let (more, stopped) := expandedUpTo rest fuel
      (front ++ more, stopped)
    match text with
    | [] => ([], false)
    | '\\' :: 'c' :: _ => ([], true)
    | '\\' :: 'x' :: rest =>
      let digits := (rest.take 2).takeWhile fun c ↦ (Text.toNat? 16 [c]).isSome
      match Text.toNat? 16 digits with
      | some n => goOn [Char.ofNat n] (rest.drop digits.length)
      | none => goOn ['\\', 'x'] rest
    | '\\' :: '0' :: rest =>
      let (c, rest) := Shell.Format.octal rest
      goOn [c] rest
    | '\\' :: rest =>
      let (c, rest) := Shell.Format.escaped rest
      goOn [c] rest
    | c :: rest => goOn [c] rest

/-- Prints its words. -/
def echo (words : List Text) : Work Nat := do
  let switches := words.takeWhile isEchoSwitch
  let letters := switches.flatMap fun word ↦ word.drop 1
  let expands := (letters.filter (· != 'n')).getLast? == some 'e'
  let line := Text.joinWith [' '] (words.drop switches.length)
  let (line, stopped) := if expands then expandedUpTo line (line.length + 1) else (line, false)
  Work.put (if stopped || letters.contains 'n' then line else line ++ ['\n'])
  return 0

/-- A format with bytes in base eight that are given in base sixteen, up to where it ends all
output. The fuel is the length of the format. -/
def withSixteens (format : Text) : Nat → Text
  | 0 => []
  | fuel + 1 =>
    match format with
    | [] => []
    | '\\' :: 'c' :: _ => []
    | '\\' :: 'x' :: rest =>
      let digits := (rest.take 2).takeWhile fun c ↦ (Text.toNat? 16 [c]).isSome
      match Text.toNat? 16 digits with
      | some n =>
        ['\\', Char.ofNat (48 + n / 64), Char.ofNat (48 + n / 8 % 8), Char.ofNat (48 + n % 8)]
          ++ withSixteens (rest.drop digits.length) fuel
      | none => '\\' :: 'x' :: withSixteens rest fuel
    | '\\' :: c :: rest => '\\' :: c :: withSixteens rest fuel
    | c :: rest => c :: withSixteens rest fuel

/-- The wording of a complaint about an argument or a format. -/
def printfWording : Shell.Format.Complaint → Text
  | .notNumeric argument => quotedWord argument ++ ": expected a numeric value".toList
  | .partlyNumeric argument => quotedWord argument ++ ": value not completely converted".toList
  | .tooLarge argument => quotedWord argument ++ ": Numerical result out of range".toList
  | .unknown directive | .unfinished directive =>
    directive ++ ": invalid conversion specification".toList

/-- Prints its words as a format tells. -/
def printf (words : List Text) : Work Nat := do
  let words := if words.head? == some ['-', '-'] then words.drop 1 else words
  match words with
  | [] => Work.misused "missing operand".toList 1
  | format :: arguments =>
    let format := withSixteens format (format.length + 1)
    let (text, complaints, status) := Shell.Format.formatted format arguments
    for complaint in complaints do
      Work.complain (printfWording complaint)
    if !format.contains '%' && !arguments.isEmpty then
      Work.complain ("warning: ignoring excess arguments, starting with ".toList
        ++ quotedWord (arguments.headD []))
    Work.put text
    return min status 1

/-- Tests a condition. -/
def test (words : List Text) : Work Nat := do
  match Shell.Condition.value (← Work.host) words with
  | .ok result => return if result then 0 else 1
  | .error message => Work.fail message 2

/-- Tests a condition that stands in brackets. -/
def bracket (words : List Text) : Work Nat :=
  if words.getLast? == some [']'] then test words.dropLast
  else Work.fail ("missing ".toList ++ quotedWord [']']) 2

end Dialogue.Tool
