import Dialogue.Text.Utf8
import Mathlib.Data.List.Basic
import Mathlib.Tactic.SplitIfs

/-!
# Reading back what was written in UTF-8

A character that is written in front of any bytes is what those bytes begin with
(`start_of_encodeChar`), so a text that is written can be read back, and what follows it is read by
itself (`decodeLossy_encode_append`). Only a line feed is written with the byte of a line feed, so
the lines of a text are those of its bytes (`count_encode`, `getLast?_encode_eq_some_iff`).
-/

set_option autoImplicit false
set_option relaxedAutoImplicit false

namespace Dialogue.Text.Utf8

/-! ### Bytes -/

theorem toNat_toUInt8 {n : Nat} (h : n < 0x100) : n.toUInt8.toNat = n := by
  simp only [Nat.toUInt8, UInt8.toNat_ofNat']
  exact Nat.mod_eq_of_lt h

/-- The byte that carries six bits of a number inside a character. -/
theorem toNat_inner (n : Nat) : (0x80 + n % 0x40).toUInt8.toNat = 0x80 + n % 0x40 :=
  toNat_toUInt8 (by omega)

theorem isInner_inner (n : Nat) : isInner (0x80 + n % 0x40).toUInt8 = true := by
  simp only [isInner, isWithin, UInt8.le_iff_toNat_le, toNat_inner, Bool.and_eq_true,
    decide_eq_true_eq, UInt8.reduceToNat]
  omega

theorem payload_inner (n : Nat) : payload (0x80 + n % 0x40).toUInt8 = n % 0x40 := by
  rw [payload, toNat_inner]
  omega

/-! ### Characters -/

/-- A character is no surrogate and not beyond the last code point. -/
theorem toNat_of_valid (c : Char) :
    c.toNat < 0xD800 ∨ 0xDFFF < c.toNat ∧ c.toNat < 0x110000 := c.valid

theorem start_one {c : Char} (hhigh : c.toNat < 0x80) (rest : List UInt8) :
    start c.toNat.toUInt8 rest = .char c 0 := by
  have hfirst : c.toNat.toUInt8.toNat = c.toNat := toNat_toUInt8 (by omega)
  have hlow : c.toNat.toUInt8 < 0x80 := by
    rw [UInt8.lt_iff_toNat_lt, hfirst]
    exact hhigh
  unfold start
  rw [if_pos hlow, hfirst, Char.ofNat_toNat]

theorem start_two {c : Char} (hlow : 0x80 ≤ c.toNat) (hhigh : c.toNat < 0x800)
    (rest : List UInt8) :
    start (0xC0 + c.toNat / 0x40).toUInt8 ((0x80 + c.toNat % 0x40).toUInt8 :: rest) =
      .char c 1 := by
  have hfirst : (0xC0 + c.toNat / 0x40).toUInt8.toNat = 0xC0 + c.toNat / 0x40 :=
    toNat_toUInt8 (by omega)
  generalize (0xC0 + c.toNat / 0x40).toUInt8 = first at hfirst
  have hvalue : first.toNat % 0x20 * 0x40 + c.toNat % 0x40 = c.toNat := by
    rw [hfirst]
    omega
  simp only [start, isInner_inner, payload_inner, UInt8.lt_iff_toNat_lt, UInt8.le_iff_toNat_le,
    hvalue, Char.ofNat_toNat, if_true]
  rw [if_neg, if_pos]
  · simp only [hfirst, UInt8.reduceToNat]
    omega
  · simp only [hfirst, UInt8.reduceToNat]
    omega

theorem start_three {c : Char} (hlow : 0x800 ≤ c.toNat) (hhigh : c.toNat < 0x10000)
    (rest : List UInt8) :
    start (0xE0 + c.toNat / 0x1000).toUInt8 ((0x80 + c.toNat / 0x40 % 0x40).toUInt8 ::
      (0x80 + c.toNat % 0x40).toUInt8 :: rest) = .char c 2 := by
  have hfirst : (0xE0 + c.toNat / 0x1000).toUInt8.toNat = 0xE0 + c.toNat / 0x1000 :=
    toNat_toUInt8 (by omega)
  generalize (0xE0 + c.toNat / 0x1000).toUInt8 = first at hfirst
  have hvalue : first.toNat % 0x10 * 0x1000 + c.toNat / 0x40 % 0x40 * 0x40 + c.toNat % 0x40 =
      c.toNat := by
    rw [hfirst]
    omega
  -- The bounds on the second byte leave out what fits in two bytes, and the surrogates.
  have hwithin : isWithin (if first = 0xE0 then 0xA0 else 0x80)
      (if first = 0xED then 0x9F else 0xBF) (0x80 + c.toNat / 0x40 % 0x40).toUInt8 = true := by
    have hvalid := toNat_of_valid c
    simp only [isWithin, ← UInt8.toNat_inj, UInt8.le_iff_toNat_le, hfirst, toNat_inner,
      Bool.and_eq_true, decide_eq_true_eq]
    split_ifs <;> simp only [UInt8.reduceToNat] at * <;> omega
  simp only [start, isInner_inner, payload_inner, UInt8.lt_iff_toNat_lt, UInt8.le_iff_toNat_le,
    hvalue, hwithin, Char.ofNat_toNat, Bool.not_true, Bool.false_eq_true, if_false]
  rw [if_neg, if_neg, if_pos]
  · simp only [hfirst, UInt8.reduceToNat]
    omega
  · simp only [hfirst, UInt8.reduceToNat]
    omega
  · simp only [hfirst, UInt8.reduceToNat]
    omega

theorem start_four {c : Char} (hlow : 0x10000 ≤ c.toNat) (rest : List UInt8) :
    start (0xF0 + c.toNat / 0x40000).toUInt8 ((0x80 + c.toNat / 0x1000 % 0x40).toUInt8 ::
      (0x80 + c.toNat / 0x40 % 0x40).toUInt8 :: (0x80 + c.toNat % 0x40).toUInt8 :: rest) =
      .char c 3 := by
  have hvalid := toNat_of_valid c
  have hfirst : (0xF0 + c.toNat / 0x40000).toUInt8.toNat = 0xF0 + c.toNat / 0x40000 :=
    toNat_toUInt8 (by omega)
  generalize (0xF0 + c.toNat / 0x40000).toUInt8 = first at hfirst
  have hvalue : first.toNat % 0x08 * 0x40000 + c.toNat / 0x1000 % 0x40 * 0x1000
      + c.toNat / 0x40 % 0x40 * 0x40 + c.toNat % 0x40 = c.toNat := by
    rw [hfirst]
    omega
  -- The bounds on the second byte leave out what fits in three bytes, and what is no code point.
  have hwithin : isWithin (if first = 0xF0 then 0x90 else 0x80)
      (if first = 0xF4 then 0x8F else 0xBF) (0x80 + c.toNat / 0x1000 % 0x40).toUInt8 = true := by
    simp only [isWithin, ← UInt8.toNat_inj, UInt8.le_iff_toNat_le, hfirst, toNat_inner,
      Bool.and_eq_true, decide_eq_true_eq]
    split_ifs <;> simp only [UInt8.reduceToNat] at * <;> omega
  simp only [start, isInner_inner, payload_inner, UInt8.lt_iff_toNat_lt, UInt8.le_iff_toNat_le,
    hvalue, hwithin, Char.ofNat_toNat, Bool.not_true, Bool.false_eq_true, if_false]
  rw [if_neg, if_neg, if_neg, if_pos]
  · simp only [hfirst, UInt8.reduceToNat]
    omega
  · simp only [hfirst, UInt8.reduceToNat]
    omega
  · simp only [hfirst, UInt8.reduceToNat]
    omega
  · simp only [hfirst, UInt8.reduceToNat]
    omega

/-- A character that is written in front of any bytes is what they begin with. -/
theorem start_of_encodeChar (c : Char) :
    ∃ first others, encodeChar c = first :: others ∧
      ∀ rest, start first (others ++ rest) = .char c others.length := by
  simp only [encodeChar]
  split_ifs with hone htwo hthree
  · exact ⟨_, [], rfl, start_one hone⟩
  · exact ⟨_, [_], rfl, start_two (by omega) htwo⟩
  · exact ⟨_, [_, _], rfl, start_three (by omega) hthree⟩
  · exact ⟨_, [_, _, _], rfl, start_four (by omega)⟩

/-! ### Texts -/

theorem encode_cons (c : Char) (text : Text) : encode (c :: text) = encodeChar c ++ encode text :=
  rfl

theorem encode_append (first second : Text) :
    encode (first ++ second) = encode first ++ encode second :=
  List.flatMap_append

theorem decodeLossy_encodeChar_append (c : Char) (rest : List UInt8) :
    decodeLossy (encodeChar c ++ rest) = c :: decodeLossy rest := by
  obtain ⟨first, others, hencode, hstart⟩ := start_of_encodeChar c
  rw [hencode, List.cons_append, decodeLossy, hstart]
  dsimp only
  rw [List.drop_left]

/-- A text that is written in front of any bytes can be read back, and they are read by themselves.
-/
theorem decodeLossy_encode_append (text : Text) (rest : List UInt8) :
    decodeLossy (encode text ++ rest) = text ++ decodeLossy rest := by
  induction text with
  | nil => rfl
  | cons c text ih =>
    rw [encode_cons, List.append_assoc, decodeLossy_encodeChar_append, ih, List.cons_append]

/-- A text that is written can be read back. -/
theorem decodeLossy_encode (text : Text) : decodeLossy (encode text) = text := by
  have h := decodeLossy_encode_append text []
  simpa only [List.append_nil, decodeLossy] using h

theorem decode?_encodeChar_append (c : Char) (rest : List UInt8) :
    decode? (encodeChar c ++ rest) = (decode? rest).map (c :: ·) := by
  obtain ⟨first, others, hencode, hstart⟩ := start_of_encodeChar c
  rw [hencode, List.cons_append, decode?, hstart]
  dsimp only
  rw [List.drop_left]

/-- A text that is written is UTF-8, and it is the text that is read. -/
theorem decode?_encode (text : Text) : decode? (encode text) = some text := by
  induction text with
  | nil =>
    change decode? [] = some []
    rw [decode?]
  | cons c text ih => rw [encode_cons, decode?_encodeChar_append, ih, Option.map_some]

/-- The size of a text is that of its bytes. -/
theorem size_eq_length_encode (text : Text) : size text = (encode text).length := by
  have hfrom (start : Nat) (text : Text) :
      text.foldl (fun bytes c ↦ bytes + (encodeChar c).length) start =
        start + (encode text).length := by
    induction text generalizing start with
    | nil => rfl
    | cons c text ih => rw [List.foldl_cons, ih, encode_cons, List.length_append, Nat.add_assoc]
  rw [size, hfrom, Nat.zero_add]

theorem size_append (first second : Text) : size (first ++ second) = size first + size second := by
  simp only [size_eq_length_encode, encode_append, List.length_append]

/-- Bytes are never read as nothing. -/
theorem decodeLossy_ne_nil {bytes : List UInt8} (h : bytes ≠ []) :
    decodeLossy bytes ≠ [] := by
  cases bytes with
  | nil => contradiction
  | cons first rest =>
    rw [decodeLossy]
    cases start first rest <;> exact List.cons_ne_nil _ _

theorem encode_eq_nil_iff {text : Text} : encode text = [] ↔ text = [] := by
  constructor
  · intro h
    rw [← decodeLossy_encode text, h, decodeLossy]
  · rintro rfl
    rfl

/-! ### Line feeds -/

theorem encodeChar_of_lt {c : Char} (h : c.toNat < 0x80) : encodeChar c = [c.toNat.toUInt8] := by
  simp only [encodeChar, if_pos h]

/-- The bytes of a character beyond the first 128 are themselves beyond them. -/
theorem le_toNat_of_mem_encodeChar {c : Char} {b : UInt8} (h : 0x80 ≤ c.toNat)
    (hmem : b ∈ encodeChar c) : 0x80 ≤ b.toNat := by
  have hvalid := toNat_of_valid c
  have hbyte {n : Nat} (hlow : 0x80 ≤ n) (hhigh : n < 0x100) : 0x80 ≤ n.toUInt8.toNat := by
    rw [toNat_toUInt8 hhigh]
    exact hlow
  simp only [encodeChar, if_neg (Nat.not_lt.mpr h)] at hmem
  split_ifs at hmem with htwo hthree
  · simp only [List.mem_cons, List.not_mem_nil, or_false] at hmem
    rcases hmem with rfl | rfl
    · exact hbyte (by omega) (by omega)
    · exact hbyte (by omega) (by omega)
  · simp only [List.mem_cons, List.not_mem_nil, or_false] at hmem
    rcases hmem with rfl | rfl | rfl
    · exact hbyte (by omega) (by omega)
    · exact hbyte (by omega) (by omega)
    · exact hbyte (by omega) (by omega)
  · simp only [List.mem_cons, List.not_mem_nil, or_false] at hmem
    rcases hmem with rfl | rfl | rfl | rfl
    · exact hbyte (by omega) (by omega)
    · exact hbyte (by omega) (by omega)
    · exact hbyte (by omega) (by omega)
    · exact hbyte (by omega) (by omega)

/-- The byte of a line feed is part of no other character. -/
theorem lineFeed_mem_encodeChar_iff {c : Char} : (10 : UInt8) ∈ encodeChar c ↔ c = '\n' := by
  constructor
  · intro hmem
    by_cases hlow : c.toNat < 0x80
    · rw [encodeChar_of_lt hlow, List.mem_singleton] at hmem
      have hvalue := congrArg UInt8.toNat hmem
      rw [toNat_toUInt8 (by omega)] at hvalue
      exact Char.ext (UInt32.toNat_inj.mp hvalue.symm)
    · have hbyte := le_toNat_of_mem_encodeChar (Nat.not_lt.mp hlow) hmem
      contradiction
  · rintro rfl
    decide

/-- The line breaks of a text are those of its bytes. -/
theorem count_encode (text : Text) : (encode text).count 10 = text.count '\n' := by
  induction text with
  | nil => rfl
  | cons c text ih =>
    rw [encode_cons, List.count_append, ih, List.count_cons, Nat.add_comm]
    congr 1
    by_cases h : c = '\n'
    · subst h
      rfl
    · rw [List.count_eq_zero_of_not_mem fun hmem ↦ h (lineFeed_mem_encodeChar_iff.mp hmem)]
      simp [h]

/-- A text that is cut at the byte of a line feed is cut at a line feed. -/
theorem exists_of_encode_eq_append {text : Text} {before after : List UInt8}
    (h : encode text = before ++ 10 :: after) :
    ∃ line rest, text = line ++ '\n' :: rest ∧ before = encode line ∧ after = encode rest := by
  induction text generalizing before with
  | nil => simp [encode] at h
  | cons c text ih =>
    rw [encode_cons, List.append_eq_append_iff] at h
    rcases h with ⟨more, hbefore, htext⟩ | ⟨more, hchar, htext⟩
    · obtain ⟨line, rest, rfl, rfl, rfl⟩ := ih htext
      exact ⟨c :: line, rest, rfl, hbefore, rfl⟩
    · cases more with
      | nil =>
        have hnext : encode text = [] ++ 10 :: after := htext.symm
        obtain ⟨line, rest, rfl, hline, rfl⟩ := ih hnext
        refine ⟨c :: line, rest, rfl, ?_, rfl⟩
        rw [encode_cons, ← hline, List.append_nil, hchar, List.append_nil]
      | cons b more =>
        -- The line feed stands in the first character, which is then nothing else.
        obtain ⟨rfl, hafter⟩ := List.cons.inj htext
        have hmem : 10 ∈ encodeChar c := by
          rw [hchar]
          exact List.mem_append_right before List.mem_cons_self
        obtain rfl := lineFeed_mem_encodeChar_iff.mp hmem
        obtain ⟨rfl, rfl⟩ : before = [] ∧ more = [] := by
          have hlength := congrArg List.length hchar
          have hone : (encodeChar '\n').length = 1 := rfl
          rw [hone, List.length_append, List.length_cons] at hlength
          exact ⟨List.eq_nil_of_length_eq_zero (by omega),
            List.eq_nil_of_length_eq_zero (by omega)⟩
        exact ⟨[], text, rfl, rfl, hafter⟩

/-- A text ends in a line break exactly if its bytes do. -/
theorem getLast?_encode_eq_some_iff {text : Text} :
    (encode text).getLast? = some 10 ↔ text.getLast? = some '\n' := by
  rcases List.eq_nil_or_concat' text with rfl | ⟨init, c, rfl⟩
  · simp [encode]
  · have hlast : (encode (init ++ [c])).getLast? = (encodeChar c).getLast? := by
      obtain ⟨first, others, hencode, -⟩ := start_of_encodeChar c
      rw [encode_append, encode_cons, hencode]
      simp [encode, List.getLast?_cons]
    rw [hlast]
    simp only [List.getLast?_append, List.getLast?_singleton]
    constructor
    · intro h
      have hc := lineFeed_mem_encodeChar_iff.mp (List.mem_of_getLast? h)
      simp [hc]
    · intro h
      have hc : c = '\n' := by simpa using h
      subst hc
      rfl

end Dialogue.Text.Utf8
