import Dialogue.Yaml.Value

/-!
# Equality of values

Values are the same (`Value.same`) whatever the order of their entries and however zero is written.
Whether they are equal is decided as well, so what a document says can be compared with what it
should say (`Value.alike_iff`).
-/

set_option autoImplicit false
set_option relaxedAutoImplicit false

namespace Dialogue.Yaml.Value

mutual

/-- Whether two values are equal, the order of entries included. -/
def alike : Value → Value → Bool
  | null, null => true
  | boolean a, boolean b => a == b
  | integer a, integer b => a == b
  | fraction a, fraction b => a == b
  | text a, text b => a == b
  | sequence as, sequence bs => alikeItems as bs
  | mapping as, mapping bs => alikeEntries as bs
  | tagged a x, tagged b y => a == b && alike x y
  | _, _ => false

/-- Whether two lists of values are equal. -/
def alikeItems : List Value → List Value → Bool
  | [], [] => true
  | a :: as, b :: bs => alike a b && alikeItems as bs
  | _, _ => false

/-- Whether two lists of entries are equal. -/
def alikeEntries : List (Value × Value) → List (Value × Value) → Bool
  | [], [] => true
  | (k, a) :: as, (l, b) :: bs => alike k l && alike a b && alikeEntries as bs
  | _, _ => false

end

mutual

theorem alike_iff : (a b : Value) → (alike a b = true ↔ a = b)
  | null, b => by cases b <;> simp [alike]
  | boolean a, b => by cases b <;> simp [alike]
  | integer a, b => by cases b <;> simp [alike]
  | fraction a, b => by cases b <;> simp [alike]
  | text a, b => by cases b <;> simp [alike]
  | sequence as, b => by cases b <;> simp [alike, alikeItems_iff]
  | mapping as, b => by cases b <;> simp [alike, alikeEntries_iff]
  | tagged a x, b => by cases b <;> simp [alike, alike_iff]

theorem alikeItems_iff : (as bs : List Value) → (alikeItems as bs = true ↔ as = bs)
  | [], bs => by cases bs <;> simp [alikeItems]
  | a :: as, bs => by cases bs <;> simp [alikeItems, alike_iff, alikeItems_iff]

theorem alikeEntries_iff : (as bs : List (Value × Value)) → (alikeEntries as bs = true ↔ as = bs)
  | [], bs => by cases bs <;> simp [alikeEntries]
  | (k, a) :: as, bs => by
    cases bs <;> simp [alikeEntries, alike_iff, alikeEntries_iff, Prod.ext_iff]

end

instance : DecidableEq Value :=
  fun a b ↦ decidable_of_iff _ (alike_iff a b)

end Dialogue.Yaml.Value
