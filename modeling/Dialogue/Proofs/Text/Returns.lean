import Dialogue.Proofs.Channel.Chatter
import Dialogue.Proofs.Text.Lines
import Dialogue.Proofs.Text.Lossy

/-!
# Carriage returns in front of line feeds

Some programs end a line with a carriage return and a line feed where others write the line feed
alone. `Text.withReturns` and `Utf8.withReturns` turn the one into the other, in a text and in
bytes. Reading bytes commutes with it (`Utf8.decodeLossy_withReturns`), because no character reaches
past a line feed. A text without carriage returns of its own is found again by unifying the line
breaks (`unifyBreaks_withReturns`), or at the end of a line by trimming it
(`trimReturns_withReturns`), and marks that hold neither character do not tell the two texts apart
(`Marks.isChatter_withReturns`).
-/

set_option autoImplicit false
set_option relaxedAutoImplicit false

namespace Dialogue

/-! ### Putting something in front -/

section PutBefore

variable {α : Type} [DecidableEq α] {mark extra : α}

/-- The list with `extra` put in front of every `mark`. -/
def putBefore (mark extra : α) (items : List α) : List α :=
  items.flatMap fun item ↦ if item = mark then [extra, item] else [item]

@[simp]
theorem putBefore_nil : putBefore mark extra [] = [] := rfl

theorem putBefore_cons_self (items : List α) :
    putBefore mark extra (mark :: items) = extra :: mark :: putBefore mark extra items := by
  simp [putBefore]

theorem putBefore_cons_of_ne {item : α} (h : item ≠ mark) (items : List α) :
    putBefore mark extra (item :: items) = item :: putBefore mark extra items := by
  simp [putBefore, h]

theorem putBefore_append (first second : List α) :
    putBefore mark extra (first ++ second) =
      putBefore mark extra first ++ putBefore mark extra second :=
  List.flatMap_append

theorem putBefore_of_notMem {items : List α} (h : mark ∉ items) :
    putBefore mark extra items = items := by
  induction items with
  | nil => rfl
  | cons item items ih =>
    obtain ⟨hitem, hitems⟩ := not_or.mp (List.mem_cons.not.mp h)
    rw [putBefore_cons_of_ne (Ne.symm hitem), ih hitems]

theorem mark_mem_putBefore_iff {items : List α} :
    mark ∈ putBefore mark extra items ↔ mark ∈ items := by
  constructor
  · intro h
    by_contra hnone
    rw [putBefore_of_notMem hnone] at h
    exact hnone h
  · intro h
    obtain ⟨before, after, rfl⟩ := List.append_of_mem h
    rw [putBefore_append, putBefore_cons_self]
    simp

/-- Nothing is put behind the last item. -/
theorem getLast?_putBefore (mark extra : α) (items : List α) :
    (putBefore mark extra items).getLast? = items.getLast? := by
  rcases List.eq_nil_or_concat items with rfl | ⟨items, item, rfl⟩
  · rfl
  · rw [List.concat_eq_append, putBefore_append]
    by_cases h : item = mark
    · rw [h, putBefore_cons_self]
      simp
    · rw [putBefore_cons_of_ne h]
      simp

theorem putBefore_eq_nil_iff {items : List α} : putBefore mark extra items = [] ↔ items = [] := by
  rw [← List.getLast?_eq_none_iff, getLast?_putBefore, List.getLast?_eq_none_iff]

end PutBefore

/-! ### Texts -/

namespace Text

/-- The text with a carriage return in front of every line feed. -/
def withReturns (text : Text) : Text :=
  putBefore '\n' '\r' text

theorem withReturns_eq_nil_iff {text : Text} : text.withReturns = [] ↔ text = [] :=
  putBefore_eq_nil_iff

/-- What is not a carriage return stays in front of a text when its line breaks are unified. -/
theorem unifyBreaks_cons_of_ne {c : Char} (h : c ≠ '\r') (text : Text) :
    unifyBreaks (c :: text) = c :: unifyBreaks text := by
  rw [unifyBreaks]
  rintro rest rfl
  contradiction

/-- Unifying the line breaks takes the carriage returns away again. -/
theorem unifyBreaks_withReturns {text : Text} (h : '\r' ∉ text) :
    text.withReturns.unifyBreaks = text := by
  induction text with
  | nil => rfl
  | cons c text ih =>
    obtain ⟨hc, htext⟩ := not_or.mp (List.mem_cons.not.mp h)
    rw [withReturns] at ih ⊢
    by_cases hbreak : c = '\n'
    · rw [hbreak, putBefore_cons_self, unifyBreaks, ih htext]
    · rw [putBefore_cons_of_ne hbreak, unifyBreaks_cons_of_ne (Ne.symm hc), ih htext]

/-- At the end of a line only the carriage return of its own line break is trimmed. -/
theorem trimReturns_withReturns {text : Text} (h : '\r' ∉ text) :
    (text.withReturns ++ ['\r']).trimReturns = text.withReturns := by
  change List.rdropWhile (· == '\r') (text.withReturns ++ ['\r']) = text.withReturns
  rw [List.rdropWhile_concat_pos _ _ _ (by simp), List.rdropWhile_eq_self_iff]
  intro hne hlast
  rw [beq_iff_eq] at hlast
  have hend : text.getLast? = some '\r' := by
    rw [← getLast?_putBefore '\n' '\r', ← withReturns,
      List.getLast?_eq_some_getLast hne, hlast]
  exact h (List.mem_of_getLast? hend)

end Text

/-! ### Marks -/

namespace Marks

/-- Neither mark holds a line feed or a carriage return. -/
def Unbroken (marks : Marks) : Prop :=
  marks.OneLine ∧ '\r' ∉ marks.error ∧ '\r' ∉ marks.info

instance (marks : Marks) : Decidable marks.Unbroken :=
  inferInstanceAs (Decidable (_ ∧ _ ∧ _))

/-- A mark without line breaks begins a text exactly if it begins the text with carriage returns. -/
theorem prefix_withReturns_iff {mark : Text} (hnewline : '\n' ∉ mark) (hreturn : '\r' ∉ mark)
    (text : Text) : mark <+: text.withReturns ↔ mark <+: text := by
  induction mark generalizing text with
  | nil => simp
  | cons c mark ih =>
    obtain ⟨hc, hnewline⟩ := not_or.mp (List.mem_cons.not.mp hnewline)
    obtain ⟨hc', hreturn⟩ := not_or.mp (List.mem_cons.not.mp hreturn)
    cases text with
    | nil => rfl
    | cons x text =>
      rw [Text.withReturns]
      by_cases hx : x = '\n'
      · rw [hx, putBefore_cons_self]
        simp [List.cons_prefix_cons, Ne.symm hc, Ne.symm hc']
      · rw [putBefore_cons_of_ne hx, List.cons_prefix_cons, List.cons_prefix_cons]
        exact and_congr_right fun _ ↦ ih hnewline hreturn text

/-- A text is as much chatter with carriage returns as without. -/
theorem isChatter_withReturns {marks : Marks} (h : marks.Unbroken) (text : Text) :
    marks.isChatter text.withReturns = marks.isChatter text := by
  obtain ⟨⟨herror, hinfo⟩, herror', hinfo'⟩ := h
  rw [Bool.eq_iff_iff, isChatter_iff, isChatter_iff]
  simp only [BorneBy, List.exists_mem_cons_iff, List.not_mem_nil, false_and, exists_false, or_false,
    prefix_withReturns_iff herror herror', prefix_withReturns_iff hinfo hinfo']

end Marks

/-! ### Bytes -/

namespace Text.Utf8

/-- The bytes with the byte of a carriage return in front of every byte of a line feed. -/
def withReturns (bytes : List UInt8) : List UInt8 :=
  putBefore 10 13 bytes

theorem withReturns_eq_nil_iff {bytes : List UInt8} : withReturns bytes = [] ↔ bytes = [] :=
  putBefore_eq_nil_iff

theorem lineFeed_mem_withReturns_iff {bytes : List UInt8} :
    10 ∈ withReturns bytes ↔ 10 ∈ bytes :=
  mark_mem_putBefore_iff

theorem getLast?_withReturns (bytes : List UInt8) :
    (withReturns bytes).getLast? = bytes.getLast? :=
  getLast?_putBefore 10 13 bytes

theorem withReturns_of_notMem {bytes : List UInt8} (h : 10 ∉ bytes) : withReturns bytes = bytes :=
  putBefore_of_notMem h

theorem withReturns_append (first second : List UInt8) :
    withReturns (first ++ second) = withReturns first ++ withReturns second :=
  putBefore_append first second

theorem withReturns_append_lineFeed (line rest : List UInt8) :
    withReturns (line ++ 10 :: rest) = withReturns line ++ 13 :: 10 :: withReturns rest := by
  rw [withReturns, putBefore_append, putBefore_cons_self, ← withReturns, ← withReturns]

/-- Bytes without a line feed are read as a text without one. -/
theorem newline_notMem_decodeLossy {bytes : List UInt8} (h : (10 : UInt8) ∉ bytes) :
    '\n' ∉ decodeLossy bytes :=
  fun hmem ↦ h (ascii_mem_of_mem_decodeLossy hmem (by decide) (by decide))

/-- Bytes without a carriage return are read as a text without one. -/
theorem return_notMem_decodeLossy {bytes : List UInt8} (h : (13 : UInt8) ∉ bytes) :
    '\r' ∉ decodeLossy bytes :=
  fun hmem ↦ h (ascii_mem_of_mem_decodeLossy hmem (by decide) (by decide))

/-- Bytes in front of a carriage return are read by themselves, and so is what follows it. -/
theorem decodeLossy_append_return (bytes rest : List UInt8) :
    decodeLossy (bytes ++ 13 :: rest) = decodeLossy bytes ++ '\r' :: decodeLossy rest := by
  have hreturn : '\r'.toNat < 0x80 := by decide
  exact decodeLossy_append_ascii hreturn bytes rest

/-- Whether carriage returns are put in before or after reading makes no difference. -/
theorem decodeLossy_withReturns (bytes : List UInt8) :
    decodeLossy (withReturns bytes) = (decodeLossy bytes).withReturns := by
  by_cases hmem : (10 : UInt8) ∈ bytes
  · -- The first line is read by itself, and so is the rest.
    obtain ⟨line, rest, rfl, hline⟩ := List.eq_append_cons_of_mem hmem
    have hrest := decodeLossy_withReturns rest
    have hempty : decodeLossy [] = [] := by rw [decodeLossy]
    rw [withReturns_append_lineFeed, withReturns_of_notMem hline, decodeLossy_append_return,
      ← List.nil_append (10 :: _), decodeLossy_append_lineFeed, hempty, hrest,
      decodeLossy_append_lineFeed, Text.withReturns, Text.withReturns, putBefore_append,
      putBefore_cons_self, putBefore_of_notMem (newline_notMem_decodeLossy hline)]
    rfl
  · rw [withReturns_of_notMem hmem, Text.withReturns,
      putBefore_of_notMem (newline_notMem_decodeLossy hmem)]
termination_by bytes.length
decreasing_by subst_vars; simp only [List.length_append, List.length_cons]; omega

end Text.Utf8

end Dialogue
