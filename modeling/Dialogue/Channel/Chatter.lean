import Dialogue.Text.Basic

/-!
# Chatter

Output that begins with one of two marks is meant for the reader of the transcript and is no part of
the dialogue: errors of the harness bear one mark, remarks the other. An empty mark marks nothing.
-/

set_option autoImplicit false
set_option relaxedAutoImplicit false

namespace Dialogue

/-- The marks of chatter. -/
structure Marks where
  /-- The mark of an error. -/
  error : Text
  /-- The mark of a remark. -/
  info : Text
  deriving Repr, DecidableEq, Inhabited

namespace Marks

/-- The marks that are used unless others are chosen. -/
def standard : Marks := ⟨"$Error: ".toList, "Test: ".toList⟩

/-- Whether a text bears a mark that is not empty. -/
def bears (mark text : Text) : Bool :=
  !mark.isEmpty && mark.isPrefixOf text

/-- Whether an output is chatter. -/
def isChatter (marks : Marks) (chunk : Text) : Bool :=
  bears marks.error chunk || bears marks.info chunk

/-- An error under its mark. -/
def errorLine (marks : Marks) (message : Text) : Text :=
  marks.error ++ message

/-- A remark under its mark. -/
def infoLine (marks : Marks) (message : Text) : Text :=
  marks.info ++ message

end Marks

end Dialogue
