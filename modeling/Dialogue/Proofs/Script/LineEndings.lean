import Dialogue.Proofs.Text.Breaks
import Dialogue.Proofs.Text.Returns
import Dialogue.Proofs.Text.Sheds
import Dialogue.Script.Parser

/-!
# Line endings of script files

A script file may end its lines with a line feed, with a carriage return in front of it, or with
several of them, and need not do so in the same way everywhere. A text that sheds such carriage
returns has the same physical lines (`physicalLines_of_sheds`), also inside a quote that runs over
several lines, because every line is trimmed before the lines of a quote are joined. Whatever is
read from the physical lines, a script or the first thing that is wrong, is then the same as well
(`parse_of_sheds`), and so it is for a file that was converted from the one convention to the other
(`parse_withReturns`).
-/

set_option autoImplicit false
set_option relaxedAutoImplicit false

namespace Dialogue

namespace Text

/-- The carriage returns that are put in front of line feeds are among those that a text sheds. -/
theorem sheds_withReturns (text : Text) : Sheds text.withReturns text := by
  induction text with
  | nil => exact .nil
  | cons c text ih =>
    rw [withReturns] at ih ⊢
    by_cases hbreak : c = '\n'
    · rw [hbreak, putBefore_cons_self]
      exact .drop (.keep '\n' ih)
    · rw [putBefore_cons_of_ne hbreak]
      exact .keep c ih

/-- A line is trimmed from its end, so that it does not matter whether its rest was before. -/
theorem trimReturns_cons_trimReturns (c : Char) (text : Text) :
    trimReturns (c :: text.trimReturns) = trimReturns (c :: text) := by
  have hidempotent : text.trimReturns.trimReturns = text.trimReturns :=
    List.rdropWhile_idempotent (· == '\r') text
  rw [trimReturns_cons, trimReturns_cons, hidempotent]

end Text

namespace Script

open Text

/-! ### Physical lines character by character -/

theorem physicalLines_newline (text : Text) :
    physicalLines ('\n' :: text) = [] :: physicalLines text := by
  rw [physicalLines, lines, if_pos rfl, List.map_cons, trimReturns_of_notMem List.not_mem_nil,
    ← physicalLines]

/-- Any other character is put in front of the first line, which is trimmed again. -/
theorem physicalLines_cons {c : Char} (hc : c ≠ '\n') (text : Text) :
    physicalLines (c :: text) =
      trimReturns (c :: (physicalLines text).headD []) :: (physicalLines text).tail := by
  rw [physicalLines, physicalLines, lines, if_neg hc]
  rcases text.lines with _ | ⟨line, others⟩
  · rfl
  · exact congrArg (· :: others.map trimReturns) (trimReturns_cons_trimReturns c line).symm

/-! ### Reading a text that has shed its carriage returns -/

/-- The physical lines are those of the text without carriage returns in front of line feeds. -/
theorem physicalLines_of_sheds {text shown : Text} (h : Sheds text shown) :
    physicalLines text = physicalLines shown := by
  induction h with
  | nil => rfl
  | keep c _ ih =>
    by_cases hbreak : c = '\n'
    · rw [hbreak, physicalLines_newline, physicalLines_newline, ih]
    · rw [physicalLines_cons hbreak, physicalLines_cons hbreak, ih]
  | drop _ ih =>
    -- The carriage return stands in front of an empty line, of which it is trimmed.
    have hreturn : '\r' ≠ '\n' := by decide
    rw [physicalLines_cons hreturn, ih, physicalLines_newline]
    rfl

/-- Carriage returns in front of line feeds are no part of a script, wherever they stand, nor of
what is said about a text that is none. -/
theorem parse_of_sheds {text shown : Text} (h : Sheds text shown) : parse text = parse shown := by
  rw [parse, parse, physicalLines_of_sheds h]

/-- Replacing every line feed by a carriage return and a line feed changes nothing: the same steps
are read, or the same error with the same line number and the same text. -/
theorem parse_withReturns (text : Text) : parse text.withReturns = parse text :=
  parse_of_sheds (sheds_withReturns text)

/-- A carriage return inside a line is a character like any other. -/
example : parse "\"a\rb\r\nc\" : \"x\"\r\n".toList =
    .ok ⟨none, [.input "x".toList, .expect "a\rb\nc".toList .exact], List.cons_ne_nil _ _⟩ := by
  decide +kernel

end Script

end Dialogue
