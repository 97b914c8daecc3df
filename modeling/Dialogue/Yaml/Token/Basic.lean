import Dialogue.Text.Basic

/-!
# Tokens

A document is read as a sequence of tokens. Besides the marks that are written there are tokens for
what the indentation says: where a block sequence or a block mapping starts, and where it ends. If
the document cannot be read on, the last token says so.
-/

set_option autoImplicit false
set_option relaxedAutoImplicit false

namespace Dialogue.Yaml

/-- A token of a document. -/
inductive Token where
  | version (major minor : Nat)
  /-- What a handle in tags stands for. -/
  | tagHandle (handle replacement : Text)
  | documentStart
  | documentEnd
  | streamEnd
  | blockSequence
  | blockMapping
  | blockEnd
  | flowSequence
  | flowSequenceEnd
  | flowMapping
  | flowMappingEnd
  | blockEntry
  | flowEntry
  | key
  | value
  /-- A name for the node that follows. -/
  | anchor (name : Text)
  /-- A node that was named before. -/
  | reference (name : Text)
  | tag (handle suffix : Text)
  | scalar (content : Text) (plain : Bool)
  /-- What follows cannot be read. -/
  | unreadable
  deriving Repr, DecidableEq, Inhabited

end Dialogue.Yaml
