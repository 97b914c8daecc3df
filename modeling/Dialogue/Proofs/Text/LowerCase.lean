import Dialogue.Text.LowerCase
import Mathlib.Tactic.SplitIfs

/-!
# What the lower case leaves alone

The characters in front of the capital letters of ASCII, among them the digits, the blank and the
control characters, are the lower case of themselves and of nothing else (`smallLetter_eq_iff`). A
text has therefore as many of them as its lower case (`count_lowerCase`); two texts that differ in
case alone have the same number of lines.
-/

set_option autoImplicit false
set_option relaxedAutoImplicit false

namespace Dialogue.Text

/-- The small letters of a run are characters behind the capital letters of ASCII. -/
theorem image_of_mem_capitalRuns : ∀ run ∈ capitalRuns,
    0x61 ≤ run.image ∧ (run.image + (run.last - run.first) < 0xD800 ∨
      0xDFFF < run.image ∧ run.image + (run.last - run.first) < 0x110000) := by
  decide +kernel

theorem toNat_ofNat {n : Nat} (h : n < 0xD800 ∨ 0xDFFF < n ∧ n < 0x110000) :
    (Char.ofNat n).toNat = n := by
  rw [Char.ofNat, dif_pos (show n.isValidChar from h)]
  rfl

/-- A character in front of the capital letters is its own small letter. -/
theorem smallLetter_of_lt {c : Char} (h : c.toNat < 0x41) : smallLetter c = c := by
  rw [smallLetter, if_pos (by omega)]
  unfold Char.toLower
  rw [dif_neg]
  rintro ⟨hcapital, -⟩
  rw [ge_iff_le, UInt32.le_iff_toNat_le] at hcapital
  change 0x41 ≤ c.toNat at hcapital
  omega

/-- A character from the capital letters on has its small letter there too. -/
theorem le_toNat_smallLetter {c : Char} (h : 0x41 ≤ c.toNat) : 0x41 ≤ (smallLetter c).toNat := by
  unfold smallLetter
  split_ifs with hascii
  · unfold Char.toLower
    split_ifs
    · change 0x41 ≤ (c.val + ('a'.val - 'A'.val)).toNat
      have hdistance : ('a'.val - 'A'.val).toNat = 0x20 := rfl
      rw [UInt32.toNat_add, hdistance]
      change 0x41 ≤ (c.toNat + 0x20) % _
      omega
    · exact h
  · split
    · next run hfind =>
      have hrun := List.find?_some hfind
      obtain ⟨himage, hvalid⟩ := image_of_mem_capitalRuns run (List.mem_of_find?_eq_some hfind)
      simp only [Bool.and_eq_true, decide_eq_true_eq] at hrun
      rw [toNat_ofNat (by omega)]
      omega
    · exact h

/-- A character in front of the capital letters is the small letter of itself only. -/
theorem smallLetter_eq_iff {c x : Char} (h : c.toNat < 0x41) : smallLetter x = c ↔ x = c := by
  by_cases hx : x.toNat < 0x41
  · rw [smallLetter_of_lt hx]
  · have hlarge := le_toNat_smallLetter (Nat.not_lt.mp hx)
    constructor
    · rintro rfl
      omega
    · rintro rfl
      omega

theorem count_lowerCaseAfter {c : Char} (h : c.toNat < 0x41) (before text : Text) :
    (lowerCaseAfter before text).count c = text.count c := by
  induction text generalizing before with
  | nil => rfl
  | cons x text ih =>
    rw [lowerCaseAfter, List.count_append, ih, List.count_cons, Nat.add_comm]
    congr 1
    have hne {other : Char} (hother : 0x41 ≤ other.toNat) : other ≠ c := by
      rintro rfl
      omega
    -- The two letters whose lower case is not that of `smallLetter` are both capitals.
    by_cases hsigma : x = 'Σ'
    · subst hsigma
      have hx : 'Σ' ≠ c := hne (by decide)
      have himage : (if meetsCased before && !meetsCased text then 'ς' else 'σ') ≠ c := by
        split_ifs
        · exact hne (by decide)
        · exact hne (by decide)
      simp only [if_true, List.count_singleton, beq_iff_eq, if_neg himage, if_neg hx]
    · by_cases hdotted : x = 'İ'
      · subst hdotted
        have hx : 'İ' ≠ c := hne (by decide)
        have hfirst : 'i' ≠ c := hne (by decide)
        have hsecond : Char.ofNat 0x307 ≠ c := hne (by decide)
        simp [hx, hfirst, hsecond]
      · simp only [if_neg hsigma, if_neg hdotted, List.count_singleton, beq_iff_eq,
          smallLetter_eq_iff h]

/-- A text has as many characters of each kind in front of the capital letters as its lower case. -/
theorem count_lowerCase {c : Char} (h : c.toNat < 0x41) (text : Text) :
    (lowerCase text).count c = text.count c :=
  count_lowerCaseAfter h [] text

theorem lowerCase_eq_nil_iff {text : Text} : text.lowerCase = [] ↔ text = [] := by
  cases text with
  | nil => exact Iff.rfl
  | cons c text =>
    simp only [lowerCase, lowerCaseAfter]
    split_ifs <;> simp

end Dialogue.Text
