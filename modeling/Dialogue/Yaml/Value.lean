import Dialogue.Text.Quoted

/-!
# Values of configuration files

What a YAML document says is a value: nothing, a truth value, a number, a text, a sequence, or a
mapping whose entries keep their order; any of them may bear a tag. `Value.kind` names a value in a
complaint that it is of the wrong kind.
-/

set_option autoImplicit false
set_option relaxedAutoImplicit false

namespace Dialogue.Yaml

/-- What a document says. -/
inductive Value where
  | null
  | boolean (value : Bool)
  | integer (value : Int)
  /-- A number with a fraction, as it is shown. -/
  | fraction (shown : Text)
  | text (content : Text)
  | sequence (items : List Value)
  | mapping (entries : List (Value × Value))
  | tagged (tag : Text) (value : Value)
  deriving Repr, Inhabited

namespace Value

/-! ### Equality -/

/-- Whether two fractions are the same number, as they are shown. Zero has two signs. -/
def sameFraction (a b : Text) : Bool :=
  a == b || (isZero a && isZero b)
where
  /-- Whether a fraction is zero. -/
  isZero (shown : Text) : Bool :=
    shown == "0.0".toList || shown == "-0.0".toList

mutual

/-- Whether two values are the same. The order of entries makes no difference. -/
def same : Value → Value → Bool
  | null, null => true
  | boolean a, boolean b => a == b
  | integer a, integer b => a == b
  | fraction a, fraction b => sameFraction a b
  | text a, text b => a == b
  | sequence as, sequence bs => sameItems as bs
  | mapping as, mapping bs => as.length == bs.length && sameEntries as bs
  | tagged a x, tagged b y => a == b && same x y
  | _, _ => false

/-- Whether two lists of values are the same. -/
def sameItems : List Value → List Value → Bool
  | [], [] => true
  | a :: as, b :: bs => same a b && sameItems as bs
  | _, _ => false

/-- Whether each entry of a list is among others. -/
def sameEntries : List (Value × Value) → List (Value × Value) → Bool
  | [], _ => true
  | (k, a) :: as, bs => (bs.any fun (l, b) ↦ same k l && same a b) && sameEntries as bs

end

/-! ### Mappings -/

/-- The value of a key in a list of entries. -/
def find? (key : Value) : List (Value × Value) → Option Value
  | [] => none
  | (other, value) :: rest => if same key other then some value else find? key rest

/-- A list of entries with one of them set: in its place if there is one of that key, and at the end
otherwise. -/
def set (key value : Value) : List (Value × Value) → List (Value × Value)
  | [] => [(key, value)]
  | (other, old) :: rest =>
    if same key other then (other, value) :: rest else (other, old) :: set key value rest

/-! ### Tags and kinds -/

/-- The value without the tags that it bears. -/
def untagged : Value → Value
  | tagged _ value => value.untagged
  | value => value

/-- What a value is called in a complaint about its kind. -/
def kind : Value → Text
  | null => "unit value".toList
  | boolean true => "boolean \x60true\x60".toList
  | boolean false => "boolean \x60false\x60".toList
  | integer value => "integer \x60".toList ++ (toString value).toList ++ "\x60".toList
  | fraction shown => "floating point \x60".toList ++ shown ++ "\x60".toList
  | text content => "string ".toList ++ Text.quoted content
  | sequence _ => "sequence".toList
  | mapping _ => "map".toList
  | tagged _ value => value.kind

end Value

end Dialogue.Yaml
