import Dialogue.Json.Value
import Mathlib.Data.List.TakeWhile
import Mathlib.Tactic.SplitIfs

/-!
# Reading JSON

A reader of documents takes one value, with blanks and line breaks wherever they may stand, and
nothing behind it (`Json.read?`). It takes what a value here can be: no fractions, no numbers below
zero, no marks for truth or for nothing, and in a text no character that is escaped in two halves. A
number is taken only as it is written, without zeros in front.

A value that is written is read again as it was (`read?_render`). The induction is on how deep the
reader may go, which a text as long as the writing of the value always allows, so it needs no
account of how the parts of a value are nested.
-/

set_option autoImplicit false
set_option relaxedAutoImplicit false

namespace Dialogue.Json

/-! ### The reader -/

/-- Whether a character may stand between the parts of a value. -/
def isBlank (c : Char) : Bool :=
  c == ' ' || c == '\n' || c == '\r' || c == '\t'

/-- A text without the blanks at its beginning. -/
def skipBlanks (text : Text) : Text :=
  text.dropWhile isBlank

/-- The character that a letter stands for behind a backslash. -/
def unescape? : Char → Option Char
  | '"' => some '"'
  | '\\' => some '\\'
  | '/' => some '/'
  | 'n' => some '\n'
  | 'r' => some '\r'
  | 't' => some '\t'
  | 'b' => some '\x08'
  | 'f' => some '\x0c'
  | _ => none

/-- The rest of a text up to its quote, and what follows. -/
def readText : Text → Option (Text × Text)
  | '"' :: rest => some ([], rest)
  | '\\' :: 'u' :: a :: b :: c :: d :: rest => do
    let code ← Text.toNat? 16 [a, b, c, d]
    if code.isValidChar then
      (readText rest).map fun (content, rest) ↦ (Char.ofNat code :: content, rest)
    else none
  | '\\' :: letter :: rest => do
    let c ← unescape? letter
    (readText rest).map fun (content, rest) ↦ (c :: content, rest)
  | c :: rest =>
    if c.toNat < 32 then none
    else (readText rest).map fun (content, rest) ↦ (c :: content, rest)
  | [] => none

/-- A number, and what follows. -/
def readNumber (text : Text) : Option (Nat × Text) :=
  let digits := text.takeWhile Char.isDigit
  let n := Nat.ofDigitChars 10 digits 0
  if Text.ofNat n = digits then some (n, text.dropWhile Char.isDigit) else none

section Series

variable {α : Type} (close : Char) (readOne : Text → Option (α × Text))

/-- At most so many things with commas between them, up to a closing character, and what follows. -/
def readSeries : Nat → Text → Option (List α × Text)
  | 0, _ => none
  | limit + 1, text => do
    let (first, rest) ← readOne text
    match skipBlanks rest with
    | ',' :: rest => (readSeries limit rest).map fun (others, rest) ↦ (first :: others, rest)
    | c :: rest => if c = close then some ([first], rest) else none
    | [] => none

/-- The same, if there is anything in front of the closing character. -/
def readGroup (limit : Nat) (text : Text) : Option (List α × Text) :=
  match skipBlanks text with
  | c :: rest => if c = close then some ([], rest) else readSeries close readOne limit (c :: rest)
  | [] => none

end Series

/-- A member of an object, and what follows. -/
def readMember (readOne : Text → Option (Value × Text)) (text : Text) :
    Option ((Text × Value) × Text) :=
  match skipBlanks text with
  | '"' :: rest => do
    let (name, rest) ← readText rest
    match skipBlanks rest with
    | ':' :: rest => (readOne rest).map fun (value, rest) ↦ ((name, value), rest)
    | _ => none
  | _ => none

/-- A value that is nested at most so deep and has at most so many parts, and what follows. -/
def readValue : Nat → Text → Option (Value × Text)
  | 0, _ => none
  | limit + 1, text =>
    match skipBlanks text with
    | '"' :: rest => (readText rest).map fun (content, rest) ↦ (.text content, rest)
    | '[' :: rest =>
      (readGroup ']' (readValue limit) limit rest).map fun (items, rest) ↦ (.list items, rest)
    | '\x7b' :: rest =>
      (readGroup '\x7d' (readMember (readValue limit)) limit rest).map fun (members, rest) ↦
        (.object members, rest)
    | rest => (readNumber rest).map fun (n, rest) ↦ (.number n, rest)

/-- The value that a document says. -/
def read? (text : Text) : Option Value :=
  match readValue text.length text with
  | some (value, rest) => if skipBlanks rest = [] then some value else none
  | none => none

/-! ### Blanks -/

variable {rest text : Text} {level limit : Nat}

@[simp]
theorem skipBlanks_newLine_append (level : Nat) (text : Text) :
    skipBlanks (newLine level ++ text) = skipBlanks text := by
  have hblanks : ∀ c ∈ newLine level, isBlank c = true := by
    intro c hmem
    rcases List.mem_cons.mp hmem with rfl | hmem
    · rfl
    · rw [List.eq_of_mem_replicate hmem]
      rfl
  exact List.dropWhile_append_of_pos hblanks

theorem skipBlanks_cons {c : Char} (h : isBlank c = false) (rest : Text) :
    skipBlanks (c :: rest) = c :: rest :=
  List.dropWhile_cons_of_neg (Bool.eq_false_iff.mp h)

/-- What follows does not go on with a number. -/
def Ends (rest : Text) : Prop :=
  rest.takeWhile Char.isDigit = []

theorem ends_cons {c : Char} (h : c.isDigit = false) (rest : Text) : Ends (c :: rest) :=
  List.takeWhile_cons_of_neg (Bool.eq_false_iff.mp h)

/-! ### Numbers and texts -/

theorem isDigit_of_mem_ofNat {n : Nat} {c : Char} (h : c ∈ Text.ofNat n) : c.isDigit = true :=
  Nat.isDigit_of_mem_toDigits (by decide) (by decide) h

theorem readNumber_ofNat (n : Nat) (hends : Ends rest) :
    readNumber (Text.ofNat n ++ rest) = some (n, rest) := by
  have hdigits : (Text.ofNat n ++ rest).takeWhile Char.isDigit = Text.ofNat n := by
    rw [List.takeWhile_append_of_pos fun c ↦ isDigit_of_mem_ofNat, hends, List.append_nil]
  have hrest : (Text.ofNat n ++ rest).dropWhile Char.isDigit = rest := by
    rw [List.dropWhile_append_of_pos fun c ↦ isDigit_of_mem_ofNat]
    have hsplit := List.takeWhile_append_dropWhile (p := Char.isDigit) (l := rest)
    rwa [hends] at hsplit
  have hvalue : Nat.ofDigitChars 10 (Text.ofNat n) 0 = n :=
    Nat.ofDigitChars_toDigits (by decide) (by decide)
  rw [readNumber, hdigits, hrest, hvalue, if_pos rfl]

/-- There is no number without digits. -/
theorem readNumber_of_ends (hends : Ends text) : readNumber text = none := by
  have hnone : Text.ofNat (Nat.ofDigitChars 10 [] 0) ≠ [] := Nat.toDigits_ne_nil
  rw [readNumber, hends, if_neg hnone]

/-- A control character is read from its number. -/
theorem toNat?_control {n : Nat} (h : n < 32) :
    Text.toNat? 16 ['0', '0', Nat.digitChar (n / 16), Nat.digitChar (n % 16)] = some n := by
  decide +revert

/-- A character is read as it was written. -/
theorem readText_escape (c : Char) (rest : Text) :
    readText (escape c ++ rest) =
      (readText rest).map fun (content, rest) ↦ (c :: content, rest) := by
  unfold escape
  split
  case h_8 hquote hbackslash _ _ _ _ _ =>
    split_ifs with hcontrol
    · have hvalid : c.toNat.isValidChar := Or.inl (by omega)
      rw [List.append_assoc]
      change readText ('\\' :: 'u' :: '0' :: '0' :: _ :: _ :: rest) = _
      rw [readText, toNat?_control hcontrol, Option.bind_eq_bind, Option.bind_some, if_pos hvalid,
        Char.ofNat_toNat]
    · -- The character is none of those that mean something else in a text.
      have hplain : readText (c :: rest) = if c.toNat < 32 then none
          else (readText rest).map fun (content, rest) ↦ (c :: content, rest) := by
        rw [readText.eq_def]
        split <;> simp_all
      rw [List.singleton_append, hplain, if_neg hcontrol]
  all_goals simp [readText, unescape?]

theorem readText_quoted (text rest : Text) :
    readText (text.flatMap escape ++ '"' :: rest) = some (text, rest) := by
  induction text with
  | nil => simp [readText]
  | cons c text ih =>
    rw [List.flatMap_cons, List.append_assoc, readText_escape, ih]
    rfl

/-! ### Lists and objects -/

section Series

variable {α : Type} {close : Char} {readOne : Text → Option (α × Text)} {write : α → Text}
  {first : α} {others : List α}

/-- Things as they are written one below the other at a level. -/
def series (write : α → Text) (level : Nat) (first : α) (others : List α) : Text :=
  write first ++ others.flatMap fun item ↦ ',' :: newLine level ++ write item

theorem series_cons (write : α → Text) (level : Nat) (first second : α) (others : List α) :
    series write level first (second :: others) =
      write first ++ ',' :: (newLine level ++ series write level second others) := by
  simp [series]

theorem length_others_le_series (write : α → Text) (level : Nat) (first : α) (others : List α) :
    others.length ≤ (series write level first others).length := by
  induction others generalizing first with
  | nil => exact Nat.zero_le _
  | cons second others ih =>
    have hrest := ih second
    rw [series_cons]
    simp only [List.length_append, List.length_cons]
    omega

theorem length_le_series {item : α} (write : α → Text) (level : Nat)
    (hmem : item ∈ first :: others) :
    (write item).length ≤ (series write level first others).length := by
  induction others generalizing first with
  | nil => simp [series, List.mem_singleton.mp hmem]
  | cons second others ih =>
    rw [series_cons]
    rcases List.mem_cons.mp hmem with rfl | hmem
    · simp
    · refine (ih hmem).trans ?_
      simp only [List.length_append, List.length_cons]
      omega

theorem readSeries_newLine (hskip : ∀ text, readOne (newLine level ++ text) = readOne text)
    (limit : Nat) (text : Text) :
    readSeries close readOne limit (newLine level ++ text) =
      readSeries close readOne limit text := by
  cases limit with
  | zero => rfl
  | succ limit => rw [readSeries, readSeries, hskip]

/-- Things are read one by one as they are written, if each of them is. -/
theorem readSeries_series (below : Nat) (hclose : isBlank close = false) (hcomma : close ≠ ',')
    (hskip : ∀ text, readOne (newLine level ++ text) = readOne text)
    (hone : ∀ item ∈ first :: others, ∀ rest, Ends rest →
      readOne (write item ++ rest) = some (item, rest))
    (hlimit : others.length < limit) (rest : Text) :
    readSeries close readOne limit
        (series write level first others ++ (newLine below ++ close :: rest)) =
      some (first :: others, rest) := by
  induction others generalizing first limit with
  | nil =>
    obtain ⟨limit, rfl⟩ := Nat.exists_eq_succ_of_ne_zero (Nat.ne_zero_of_lt hlimit)
    have hends : Ends (newLine below ++ close :: rest) := ends_cons rfl _
    rw [series, List.flatMap_nil, List.append_nil, readSeries,
      hone first List.mem_cons_self _ hends]
    simp [skipBlanks_cons hclose]
  | cons second others ih =>
    obtain ⟨limit, rfl⟩ := Nat.exists_eq_succ_of_ne_zero (Nat.ne_zero_of_lt hlimit)
    have hrest := ih (fun item hmem ↦ hone item (List.mem_cons_of_mem first hmem))
      (Nat.lt_of_succ_lt_succ hlimit)
    have hcomma : isBlank ',' = false := rfl
    rw [series_cons, List.append_assoc, List.cons_append, readSeries,
      hone first List.mem_cons_self _ (ends_cons rfl _)]
    simp only [Option.bind_eq_bind, Option.bind_some, skipBlanks_cons hcomma, List.append_assoc,
      readSeries_newLine hskip, hrest, Option.map_some]

/-- What stands between an opening and a closing character is read as it is written. -/
theorem readGroup_series (below : Nat) (hclose : isBlank close = false) (hcomma : close ≠ ',')
    (hfirst : ∃ c tail, write first = c :: tail ∧ isBlank c = false ∧ c ≠ close)
    (hskip : ∀ text, readOne (newLine level ++ text) = readOne text)
    (hone : ∀ item ∈ first :: others, ∀ rest, Ends rest →
      readOne (write item ++ rest) = some (item, rest))
    (hlimit : others.length < limit) (rest : Text) :
    readGroup close readOne limit
        (newLine level ++ series write level first others ++ newLine below ++ close :: rest) =
      some (first :: others, rest) := by
  have hseries := readSeries_series below hclose hcomma hskip hone hlimit rest
  obtain ⟨c, tail, hwrite, hblank, hne⟩ := hfirst
  rw [readGroup, List.append_assoc, List.append_assoc, skipBlanks_newLine_append]
  rw [series, hwrite, List.cons_append, List.cons_append] at hseries ⊢
  rw [skipBlanks_cons hblank]
  dsimp only
  rw [if_neg hne, hseries]

end Series

theorem renderItems_eq (level : Nat) (items : List Value) :
    renderItems level items = items.flatMap fun item ↦
      ',' :: newLine level ++ item.renderAt level := by
  induction items with
  | nil => rw [renderItems, List.flatMap_nil]
  | cons item items ih => rw [renderItems, ih, List.flatMap_cons]

/-- A member as it is written at a level. -/
def renderMember (level : Nat) (member : Text × Value) : Text :=
  quote member.1 ++ ": ".toList ++ member.2.renderAt level

theorem exists_renderMember (level : Nat) (member : Text × Value) :
    ∃ c tail, renderMember level member = c :: tail ∧ isBlank c = false ∧ c ≠ '\x7d' :=
  ⟨'"', _, rfl, rfl, by decide⟩

theorem length_value_le_renderMember (level : Nat) (member : Text × Value) :
    (member.2.renderAt level).length ≤ (renderMember level member).length := by
  rw [renderMember, List.length_append]
  exact Nat.le_add_left _ _

theorem renderMembers_eq (level : Nat) (members : List (Text × Value)) :
    renderMembers level members = members.flatMap fun member ↦
      ',' :: newLine level ++ renderMember level member := by
  induction members with
  | nil => rw [renderMembers, List.flatMap_nil]
  | cons member members ih =>
    rw [renderMembers, ih, List.flatMap_cons, renderMember]
    simp

theorem renderAt_list_cons (level : Nat) (item : Value) (items : List Value) :
    (Value.list (item :: items)).renderAt level =
      '[' :: (newLine (level + 1) ++ series (Value.renderAt (level + 1)) (level + 1) item items
        ++ newLine level ++ [']']) := by
  rw [Value.renderAt, renderItems_eq, series]
  simp

theorem renderAt_object_cons (level : Nat) (member : Text × Value)
    (members : List (Text × Value)) :
    (Value.object (member :: members)).renderAt level =
      '\x7b' :: (newLine (level + 1) ++ series (renderMember (level + 1)) (level + 1) member members
        ++ newLine level ++ ['\x7d']) := by
  rw [Value.renderAt, renderMembers_eq, series, renderMember]
  simp

/-! ### Values -/

theorem isBlank_of_isDigit {c : Char} (h : c.isDigit = true) : isBlank c = false := by
  rw [isBlank]
  simp only [Bool.or_eq_false_iff, beq_eq_false_iff_ne]
  refine ⟨⟨⟨?_, ?_⟩, ?_⟩, ?_⟩ <;> rintro rfl <;> contradiction

theorem exists_ofNat (n : Nat) :
    ∃ c digits, Text.ofNat n = c :: digits ∧ c.isDigit = true := by
  rcases h : Text.ofNat n with _ | ⟨c, digits⟩
  · exact absurd h Nat.toDigits_ne_nil
  · exact ⟨c, digits, rfl, isDigit_of_mem_ofNat (h ▸ List.mem_cons_self)⟩

/-- A value that is written begins neither with a blank nor with the end of a list. -/
theorem exists_renderAt (level : Nat) (value : Value) :
    ∃ c tail, value.renderAt level = c :: tail ∧ isBlank c = false ∧ c ≠ ']' := by
  cases value with
  | text text => exact ⟨'"', _, rfl, rfl, by decide⟩
  | number n =>
    obtain ⟨c, digits, hdigits, hdigit⟩ := exists_ofNat n
    refine ⟨c, digits, by rw [Value.renderAt, hdigits], isBlank_of_isDigit hdigit, ?_⟩
    rintro rfl
    contradiction
  | list items =>
    cases items with
    | nil => exact ⟨'[', _, rfl, rfl, by decide⟩
    | cons item items => exact ⟨'[', _, renderAt_list_cons level item items, rfl, by decide⟩
  | object members =>
    cases members with
    | nil => exact ⟨'\x7b', _, rfl, rfl, by decide⟩
    | cons member members =>
      exact ⟨'\x7b', _, renderAt_object_cons level member members, rfl, by decide⟩

/-- Blanks in front of a value make no difference. -/
theorem readValue_congr {other : Text} (h : skipBlanks text = skipBlanks other) (limit : Nat) :
    readValue limit text = readValue limit other := by
  cases limit with
  | zero => rfl
  | succ limit => rw [readValue, readValue, h]

theorem readMember_newLine (readOne : Text → Option (Value × Text)) (level : Nat) (text : Text) :
    readMember readOne (newLine level ++ text) = readMember readOne text := by
  rw [readMember, readMember, skipBlanks_newLine_append]

/-- A member is read as it is written if its value is. -/
theorem readMember_renderMember {member : Text × Value}
    (hvalue : readValue limit (member.2.renderAt level ++ rest) = some (member.2, rest)) :
    readMember (readValue limit) (renderMember level member ++ rest) = some (member, rest) := by
  have hquote : isBlank '"' = false := rfl
  have hcolon : isBlank ':' = false := rfl
  have hblank (text : Text) : readValue limit (' ' :: text) = readValue limit text :=
    readValue_congr (List.dropWhile_cons_of_pos rfl) limit
  rw [renderMember, quote, readMember]
  simp [skipBlanks_cons hquote, readText_quoted, skipBlanks_cons hcolon, hblank, hvalue]

theorem readValue_number (limit : Nat) (n : Nat) (hends : Ends rest) :
    readValue (limit + 1) ((Value.number n).renderAt level ++ rest) = some (.number n, rest) := by
  obtain ⟨c, digits, hdigits, hdigit⟩ := exists_ofNat n
  have hnumber := readNumber_ofNat n hends
  rw [Value.renderAt, readValue]
  rw [hdigits, List.cons_append] at hnumber ⊢
  rw [skipBlanks_cons (isBlank_of_isDigit hdigit)]
  split
  case h_4 => rw [hnumber, Option.map_some]
  all_goals
    next heq =>
      rw [(List.cons.inj heq).1] at hdigit
      contradiction

/-- A list is read as it is written if its items are. -/
theorem readValue_list {item : Value} {items : List Value} (hitems : items.length < limit)
    (hone : ∀ value ∈ item :: items, ∀ rest, Ends rest →
      readValue limit (value.renderAt (level + 1) ++ rest) = some (value, rest)) (rest : Text) :
    readValue (limit + 1) ((Value.list (item :: items)).renderAt level ++ rest) =
      some (.list (item :: items), rest) := by
  have hopen : isBlank '[' = false := rfl
  have hclose : isBlank ']' = false := rfl
  have hskip (text : Text) := readValue_congr (skipBlanks_newLine_append (level + 1) text) limit
  have hgroup := readGroup_series level hclose (by decide) (exists_renderAt (level + 1) item)
    hskip hone hitems rest
  simp only [List.append_assoc] at hgroup
  rw [renderAt_list_cons, readValue]
  simp [skipBlanks_cons hopen, hgroup]

/-- An object is read as it is written if the values of its members are. -/
theorem readValue_object {member : Text × Value} {members : List (Text × Value)}
    (hmembers : members.length < limit)
    (hone : ∀ other ∈ member :: members, ∀ rest, Ends rest →
      readValue limit (other.2.renderAt (level + 1) ++ rest) = some (other.2, rest))
    (rest : Text) :
    readValue (limit + 1) ((Value.object (member :: members)).renderAt level ++ rest) =
      some (.object (member :: members), rest) := by
  have hopen : isBlank '\x7b' = false := rfl
  have hclose : isBlank '\x7d' = false := rfl
  have hgroup := readGroup_series level hclose (by decide) (exists_renderMember (level + 1) member)
    (readMember_newLine _ (level + 1))
    (fun other hmem rest hends ↦ readMember_renderMember (hone other hmem rest hends)) hmembers rest
  simp only [List.append_assoc] at hgroup
  rw [renderAt_object_cons, readValue]
  simp [skipBlanks_cons hopen, hgroup]

/-- A value that is written is read as it was, up to where its writing ends. -/
theorem readValue_renderAt {value : Value} (hlimit : (value.renderAt level).length ≤ limit)
    (hends : Ends rest) : readValue limit (value.renderAt level ++ rest) = some (value, rest) := by
  induction limit generalizing value level rest with
  | zero =>
    obtain ⟨c, tail, hvalue, -⟩ := exists_renderAt level value
    rw [hvalue] at hlimit
    exact absurd hlimit (Nat.not_succ_le_zero _)
  | succ limit ih =>
    cases value with
    | text text =>
      have hquote : isBlank '"' = false := rfl
      rw [Value.renderAt, quote, readValue]
      simp [skipBlanks_cons hquote, readText_quoted]
    | number n => exact readValue_number limit n hends
    | list items =>
      cases items with
      | nil =>
        rw [Value.renderAt, readValue]
        simp [skipBlanks_cons, isBlank, readGroup]
      | cons item items =>
        rw [renderAt_list_cons] at hlimit
        simp only [List.length_cons, List.length_append] at hlimit
        have hitems := length_others_le_series (Value.renderAt (level + 1)) (level + 1) item items
        refine readValue_list (by omega) (fun value hmem rest hends ↦ ih ?_ hends) rest
        have hle := length_le_series (Value.renderAt (level + 1)) (level + 1) hmem
        omega
    | object members =>
      cases members with
      | nil =>
        rw [Value.renderAt, readValue]
        simp [skipBlanks_cons, isBlank, readGroup]
      | cons member members =>
        rw [renderAt_object_cons] at hlimit
        simp only [List.length_cons, List.length_append] at hlimit
        have hmembers :=
          length_others_le_series (renderMember (level + 1)) (level + 1) member members
        refine readValue_object (by omega) (fun other hmem rest hends ↦ ih ?_ hends) rest
        have hvalue := length_value_le_renderMember (level + 1) other
        have hle := length_le_series (renderMember (level + 1)) (level + 1) hmem
        omega

/-- A value that is written is read again as it was, with a line break behind it too. -/
theorem read?_render (value : Value) : read? (value.render ++ ['\n']) = some value := by
  have hlimit : (value.renderAt 0).length ≤ (value.renderAt 0 ++ ['\n']).length := by
    rw [List.length_append]
    exact Nat.le_add_right _ _
  rw [read?, Value.render, readValue_renderAt hlimit (ends_cons rfl [])]
  rfl

/-- What begins like no value is no document. -/
theorem read?_cons_eq_none {c : Char} (hblank : isBlank c = false) (hdigit : c.isDigit = false)
    (hsigns : c ∉ ['"', '[', '\x7b']) (rest : Text) : read? (c :: rest) = none := by
  have hnumber := readNumber_of_ends (ends_cons hdigit rest)
  rw [read?, List.length_cons, readValue, skipBlanks_cons hblank]
  simp_all

end Dialogue.Json
