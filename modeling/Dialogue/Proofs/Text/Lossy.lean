import Dialogue.Proofs.Text.Utf8

/-!
# Reading bytes line by line

The byte of an ASCII character stands in no character but its own, so no character and no broken
beginning of one goes past it (`start_append_ascii`). Any bytes are therefore read apart in front of
it and behind it, whether they are UTF-8 or not (`decodeLossy_append_ascii`), and line by line in
particular (`decodeLossy_append_lineFeed`). Nor is an ASCII character read where its byte is missing
(`ascii_mem_of_mem_decodeLossy`).
-/

set_option autoImplicit false
set_option relaxedAutoImplicit false

namespace Dialogue.Text.Utf8

/-- How many bytes behind the first one belong to what some bytes begin with. -/
def Start.following : Start → Nat
  | char _ following => following
  | broken following => following

/-! ### Bytes that stand for themselves -/

theorem isWithin_of_lt {low b : UInt8} (h : low = 0xA0 ∨ low = 0x90 ∨ low = 0x80)
    (hb : b < 0x80) (high : UInt8) : isWithin low high b = false := by
  have hlow : ¬ low ≤ b := by
    rw [UInt8.lt_iff_toNat_lt] at hb
    rw [UInt8.le_iff_toNat_le]
    rcases h with rfl | rfl | rfl <;> simp only [UInt8.reduceToNat] at hb ⊢ <;> omega
  simp [isWithin, hlow]

theorem isInner_of_lt {b : UInt8} (hb : b < 0x80) : isInner b = false :=
  isWithin_of_lt (.inr (.inr rfl)) hb _

/-- The lower bounds on a second byte lie beyond ASCII. -/
theorem isWithin_ite_of_lt (first other : UInt8) {low b : UInt8} (h : low = 0xA0 ∨ low = 0x90)
    (hb : b < 0x80) (high : UInt8) :
    isWithin (if first = other then low else 0x80) high b = false := by
  refine isWithin_of_lt ?_ hb high
  split_ifs
  · exact h.imp_right .inl
  · exact .inr (.inr rfl)

/-- What bytes begin with ends in front of an ASCII character, and does not depend on what follows
it. -/
theorem start_append_ascii {b : UInt8} (hb : b < 0x80) (first : UInt8) (bytes rest : List UInt8) :
    start first (bytes ++ b :: rest) = start first bytes ∧
      (start first bytes).following ≤ bytes.length := by
  -- The bounds stay closed, so that only the bytes there are tell the cases apart.
  have hthree := isWithin_ite_of_lt first 0xE0 (.inl rfl) hb
  have hfour := isWithin_ite_of_lt first 0xF0 (.inr rfl) hb
  have hinner := isInner_of_lt hb
  unfold start
  generalize (if first = 0xE0 then (0xA0 : UInt8) else 0x80) = low at hthree ⊢
  generalize (if first = 0xF0 then (0x90 : UInt8) else 0x80) = low' at hfour ⊢
  generalize (if first = 0xED then (0x9F : UInt8) else 0xBF) = high
  generalize (if first = 0xF4 then (0x8F : UInt8) else 0xBF) = high'
  split_ifs with hone htwo hthird hfourth
  · exact ⟨rfl, Nat.zero_le _⟩
  · rcases bytes with _ | ⟨second, bytes⟩
    · simp [hinner, Start.following]
    · cases hsecond : isInner second <;> simp [hsecond, Start.following]
  · rcases bytes with _ | ⟨second, _ | ⟨third, bytes⟩⟩
    · cases rest <;> simp [hthree, Start.following]
    · cases hsecond : isWithin low high second <;>
        simp [hsecond, hinner, Start.following]
    · cases hsecond : isWithin low high second <;> cases hthird : isInner third <;>
        simp [hsecond, hthird, Start.following]
  · rcases bytes with _ | ⟨second, _ | ⟨third, _ | ⟨fourth, bytes⟩⟩⟩
    · rcases rest with _ | ⟨_, _ | _⟩ <;> simp [hfour, Start.following]
    · cases hsecond : isWithin low' high' second <;> cases rest <;>
        simp [hsecond, hinner, Start.following]
    · cases hsecond : isWithin low' high' second <;> cases hthird : isInner third <;>
        simp [hsecond, hthird, hinner, Start.following]
    · cases hsecond : isWithin low' high' second <;> cases hthird : isInner third <;>
        cases hfourth : isInner fourth <;> simp [hsecond, hthird, hfourth, Start.following]
  · exact ⟨rfl, Nat.zero_le _⟩

/-- Bytes in front of an ASCII character are read by themselves, and so is what follows it. -/
theorem decodeLossy_append_ascii {c : Char} (hc : c.toNat < 0x80) (bytes rest : List UInt8) :
    decodeLossy (bytes ++ c.toNat.toUInt8 :: rest) =
      decodeLossy bytes ++ c :: decodeLossy rest := by
  match bytes with
  | [] =>
    have hlone := decodeLossy_encodeChar_append c rest
    rw [encodeChar_of_lt hc] at hlone
    rwa [decodeLossy, List.nil_append]
  | first :: bytes =>
    have hb : c.toNat.toUInt8 < 0x80 := by
      rw [UInt8.lt_iff_toNat_lt, toNat_toUInt8 (by omega)]
      exact hc
    obtain ⟨hstart, hfollowing⟩ := start_append_ascii hb first bytes rest
    rw [List.cons_append, decodeLossy, hstart, decodeLossy]
    cases hcase : start first bytes with
    | char x following =>
      rw [hcase] at hfollowing
      have hrest := decodeLossy_append_ascii hc (bytes.drop following) rest
      simp only [Start.following] at hfollowing
      simp only [List.drop_append_of_le_length hfollowing, hrest, List.cons_append]
    | broken following =>
      rw [hcase] at hfollowing
      have hrest := decodeLossy_append_ascii hc (bytes.drop following) rest
      simp only [Start.following] at hfollowing
      simp only [List.drop_append_of_le_length hfollowing, hrest, List.cons_append]
termination_by bytes.length
decreasing_by all_goals simp only [List.length_drop, List.length_cons]; omega

/-- Bytes in front of a line feed are read by themselves, and so is what follows it. -/
theorem decodeLossy_append_lineFeed (bytes rest : List UInt8) :
    decodeLossy (bytes ++ 10 :: rest) = decodeLossy bytes ++ '\n' :: decodeLossy rest := by
  have hlineFeed : '\n'.toNat < 0x80 := by decide
  exact decodeLossy_append_ascii hlineFeed bytes rest

/-! ### Characters that are not there -/

/-- A number beyond ASCII is no code of an ASCII character. What is no code at all makes the
character of zero. -/
theorem toNat_ofNat_of_le {n : Nat} (h : 0x80 ≤ n) :
    (Char.ofNat n).toNat = 0 ∨ 0x80 ≤ (Char.ofNat n).toNat := by
  by_cases hvalid : n.isValidChar
  · rw [Char.ofNat, dif_pos hvalid]
    exact .inr h
  · rw [Char.ofNat, dif_neg hvalid]
    exact .inl rfl

/-- The bounds on the second of two bytes leave out what fits in one. -/
theorem le_of_isInner {first second : UInt8} (hfirst : 0xC2 ≤ first ∧ first ≤ 0xDF) :
    0x80 ≤ first.toNat % 0x20 * 0x40 + payload second := by
  simp only [UInt8.le_iff_toNat_le, UInt8.reduceToNat] at hfirst
  omega

/-- The bounds on the second of three bytes leave out what fits in one. -/
theorem le_of_isWithin_three {first second : UInt8} (hfirst : 0xE0 ≤ first ∧ first ≤ 0xEF)
    (h : isWithin (if first = 0xE0 then 0xA0 else 0x80) (if first = 0xED then 0x9F else 0xBF)
      second = true) :
    0x80 ≤ first.toNat % 0x10 * 0x1000 + payload second * 0x40 := by
  simp only [UInt8.le_iff_toNat_le, UInt8.reduceToNat] at hfirst
  simp only [isWithin, payload, ← UInt8.toNat_inj, UInt8.le_iff_toNat_le, Bool.and_eq_true,
    decide_eq_true_eq] at h ⊢
  split_ifs at h <;> simp only [UInt8.reduceToNat] at * <;> omega

/-- The bounds on the second of four bytes leave out what fits in one. -/
theorem le_of_isWithin_four {first second : UInt8} (hfirst : 0xF0 ≤ first ∧ first ≤ 0xF4)
    (h : isWithin (if first = 0xF0 then 0x90 else 0x80) (if first = 0xF4 then 0x8F else 0xBF)
      second = true) :
    0x80 ≤ first.toNat % 0x08 * 0x40000 + payload second * 0x1000 := by
  simp only [UInt8.le_iff_toNat_le, UInt8.reduceToNat] at hfirst
  simp only [isWithin, payload, ← UInt8.toNat_inj, UInt8.le_iff_toNat_le, Bool.and_eq_true,
    decide_eq_true_eq] at h ⊢
  split_ifs at h <;> simp only [UInt8.reduceToNat] at * <;> omega

/-- An ASCII character is what bytes begin with only if the first of them stands for it. -/
theorem ascii_of_start {first : UInt8} {bytes : List UInt8} {c : Char} {following : Nat}
    (h : start first bytes = .char c following) (hpos : 0 < c.toNat) (hc : c.toNat < 0x80) :
    c.toNat.toUInt8 = first := by
  have hbeyond {n : Nat} (hn : 0x80 ≤ n) : c ≠ Char.ofNat n := by
    rintro rfl
    have := toNat_ofNat_of_le hn
    omega
  have hthree := @le_of_isWithin_three first
  have hfour := @le_of_isWithin_four first
  unfold start at h
  generalize (if first = 0xE0 then (0xA0 : UInt8) else 0x80) = low at hthree h
  generalize (if first = 0xF0 then (0x90 : UInt8) else 0x80) = low' at hfour h
  generalize (if first = 0xED then (0x9F : UInt8) else 0xBF) = high at hthree h
  generalize (if first = 0xF4 then (0x8F : UInt8) else 0xBF) = high' at hfour h
  dsimp only at h
  split_ifs at h with hone htwo hthird hfourth
  · obtain ⟨rfl, -⟩ := Start.char.inj h
    have hbyte := first.toNat_lt
    have hvalid : first.toNat.isValidChar := .inl (by omega)
    rw [Char.ofNat, dif_pos hvalid]
    exact UInt8.ofNat_toNat
  · split at h
    · split_ifs at h
      exact absurd (Start.char.inj h).1.symm (hbeyond (le_of_isInner htwo))
    · contradiction
  · split at h
    · split_ifs at h with hsecond
      rw [Bool.not_eq_true', Bool.not_eq_false] at hsecond
      exact absurd (Start.char.inj h).1.symm
        (hbeyond (Nat.le_add_right_of_le (hthree hthird hsecond)))
    · contradiction
    · contradiction
  · split at h
    · split_ifs at h with hsecond
      rw [Bool.not_eq_true', Bool.not_eq_false] at hsecond
      exact absurd (Start.char.inj h).1.symm
        (hbeyond (Nat.le_add_right_of_le (Nat.le_add_right_of_le (hfour hfourth hsecond))))
    · contradiction
    · contradiction
    · contradiction

/-- An ASCII character is read only where its byte is. -/
theorem ascii_mem_of_mem_decodeLossy {bytes : List UInt8} {c : Char} (h : c ∈ decodeLossy bytes)
    (hpos : 0 < c.toNat) (hc : c.toNat < 0x80) : c.toNat.toUInt8 ∈ bytes := by
  fun_induction decodeLossy bytes with
  | case1 => contradiction
  | case2 first rest x following hstart ih =>
    rcases List.mem_cons.mp h with rfl | h
    · exact ascii_of_start hstart hpos hc ▸ List.mem_cons_self
    · exact List.mem_cons_of_mem first (List.mem_of_mem_drop (ih h))
  | case3 first rest following hstart ih =>
    rcases List.mem_cons.mp h with rfl | h
    · contradiction
    · exact List.mem_cons_of_mem first (List.mem_of_mem_drop (ih h))

end Dialogue.Text.Utf8
