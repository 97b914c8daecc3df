import Dialogue.Proofs.Script.Grammar
import Dialogue.Proofs.Text.Lines

/-!
# Reading the parts of a line

Each reader of a part of a line finds what the grammar says of that part, and nothing else: inputs
(`readInput?_eq_some_iff`), numbers (`isNumeral_iff`), expectations (`readToken?_append`,
`exists_written_of_readToken?`) and what they mean (`readOptions_eq_iff`, `step_eq_iff`).
-/

set_option autoImplicit false
set_option relaxedAutoImplicit false

namespace Dialogue.Script

open Text

/-! ### Blanks and digits -/

theorem inRanges_eq_false_of_disjoint {first second : List (Nat × Nat)} {c : Char}
    (hdisjoint : ∀ range ∈ first, ∀ other ∈ second, range.2 < other.1 ∨ other.2 < range.1)
    (h : inRanges first c = true) : inRanges second c = false := by
  simp only [inRanges, List.any_eq_true, Bool.and_eq_true, decide_eq_true_eq] at h
  obtain ⟨range, hmem, hlow, hhigh⟩ := h
  simp only [inRanges, List.any_eq_false, Bool.and_eq_true, decide_eq_true_eq]
  intro other hother
  have hapart := hdisjoint range hmem other hother
  omega

/-- A digit is no blank. -/
theorem isBlank_of_isDigit {c : Char} (h : isDigit c = true) : isBlank c = false :=
  inRanges_eq_false_of_disjoint (by decide +kernel) h

theorem isBlank_eq_false_of_all {text : Text} (h : text.all (!isBlank ·) = true) :
    ∀ c ∈ text, isBlank c = false := by
  intro c hc
  simpa using List.all_eq_true.mp h c hc

/-! ### Inputs -/

theorem unquote?_eq_some_iff {text body : Text} :
    unquote? text = some body ↔ text = inQuotes body ∧ IsQuotable body := by
  constructor
  · intro h
    unfold unquote? at h
    split at h
    · next rest =>
      dsimp only at h
      split_ifs at h with hbody
      obtain ⟨hlast, hne, hquote⟩ := hbody
      obtain ⟨body', rfl⟩ := List.getLast?_eq_some_iff.mp hlast
      rw [List.dropLast_concat] at h hne hquote
      rw [Option.some_inj] at h
      subst h
      exact ⟨rfl, hne, hquote⟩
    · contradiction
  · rintro ⟨rfl, hne, hquote⟩
    simp [unquote?, inQuotes, hne, hquote]

/-- Blanks are read up to the next character that is none. -/
theorem afterBlanks?_eq_some_iff {text rest : Text} :
    afterBlanks? text = some rest ↔
      (∃ blanks, IsBlanks blanks ∧ text = blanks ++ rest) ∧
        ∀ c ∈ rest.head?, isBlank c = false := by
  constructor
  · intro h
    cases text with
    | nil => contradiction
    | cons c text =>
      simp only [afterBlanks?] at h
      split_ifs at h with hblank
      rw [Option.some_inj] at h
      subst h
      refine ⟨⟨c :: text.takeWhile isBlank, ⟨List.cons_ne_nil _ _, ?_⟩, ?_⟩,
        eq_false_of_head?_dropWhile⟩
      · intro x hx
        rcases List.mem_cons.mp hx with rfl | hx
        · exact hblank
        · exact List.mem_takeWhile_imp hx
      · rw [List.cons_append, List.takeWhile_append_dropWhile]
  · rintro ⟨⟨blanks, ⟨hne, hblanks⟩, rfl⟩, hrest⟩
    cases blanks with
    | nil => contradiction
    | cons c blanks =>
      have hdrop : (blanks ++ rest).dropWhile isBlank = rest :=
        dropWhile_append_of_head (fun x hx ↦ hblanks x (List.mem_cons_of_mem c hx)) hrest
      simp [afterBlanks?, hblanks c List.mem_cons_self, hdrop]

theorem afterStart?_singleton_eq_some_iff {c : Char} {text rest : Text} :
    afterStart? [c] text = some rest ↔ text = c :: rest := by
  cases text with
  | nil => simp [afterStart?]
  | cons x text =>
    simp only [afterStart?]
    split_ifs with h
    · simp [h]
    · simp [Ne.symm h]

/-- An input is read exactly where the grammar has one. -/
theorem readInput?_eq_some_iff {text input : Text} :
    readInput? text = some input ↔ IsInput text input := by
  simp only [readInput?, Option.bind_eq_bind, Option.bind_eq_some_iff, unquote?_eq_some_iff,
    afterStart?_singleton_eq_some_iff]
  constructor
  · rintro ⟨_, hfirst, _, rfl, _, hsecond, rfl, hinput⟩
    obtain ⟨⟨before, hbefore, rfl⟩, -⟩ := afterBlanks?_eq_some_iff.mp hfirst
    obtain ⟨⟨after, hafter, rfl⟩, -⟩ := afterBlanks?_eq_some_iff.mp hsecond
    exact ⟨before, after, hbefore, hafter, hinput, rfl⟩
  · rintro ⟨before, after, hbefore, hafter, hinput, rfl⟩
    refine ⟨_, afterBlanks?_eq_some_iff.mpr ⟨⟨before, hbefore, rfl⟩, ?_⟩, _, rfl, _,
      afterBlanks?_eq_some_iff.mpr ⟨⟨after, hafter, rfl⟩, ?_⟩, rfl, hinput⟩
    · simp only [List.head?_cons, Option.mem_def, Option.some_inj]
      rintro _ rfl
      decide
    · simp only [inQuotes, List.cons_append, List.head?_cons, Option.mem_def, Option.some_inj]
      rintro _ rfl
      decide

/-- The end of a case begins with a blank. -/
theorem IsInput.head {text input : Text} (h : IsInput text input) :
    ∃ c rest, isBlank c = true ∧ text = c :: rest := by
  obtain ⟨before, after, ⟨hne, hblanks⟩, -, -, rfl⟩ := h
  cases before with
  | nil => contradiction
  | cons c before => exact ⟨c, _, hblanks c List.mem_cons_self, rfl⟩

/-! ### Expectations -/

/-- A run of digits is taken whole if what follows it begins with no digit. -/
theorem takeWhile_isDigit {digits rest : Text} (hdigits : IsDigits digits)
    (hrest : ∀ c ∈ rest.head?, isDigit c = false) :
    (digits ++ rest).takeWhile isDigit = digits ∧ (digits ++ rest).dropWhile isDigit = rest :=
  ⟨takeWhile_append_of_head hdigits.2 hrest, dropWhile_append_of_head hdigits.2 hrest⟩

/-- A word without its minus sign. -/
theorem afterStart?_minus {sign digits rest : Text} (hsign : sign = [] ∨ sign = ['-'])
    (hdigits : IsDigits digits) :
    (afterStart? ['-'] (sign ++ (digits ++ rest))).getD (sign ++ (digits ++ rest)) =
      digits ++ rest := by
  rcases hsign with rfl | rfl
  · obtain ⟨hne, hdigits⟩ := hdigits
    cases digits with
    | nil => contradiction
    | cons c digits =>
      have hminus : '-' ≠ c := by
        rintro rfl
        exact absurd (hdigits '-' List.mem_cons_self) (by decide)
      simp [afterStart?, hminus]
  · simp [afterStart?]

/-- The sign of a word and what is left of it. -/
theorem exists_sign (word : Text) :
    ∃ sign, (sign = [] ∨ sign = ['-']) ∧
      word = sign ++ (afterStart? ['-'] word).getD word := by
  rcases hafter : afterStart? ['-'] word with _ | rest
  · exact ⟨[], .inl rfl, rfl⟩
  · exact ⟨['-'], .inr rfl, afterStart?_singleton_eq_some_iff.mp hafter⟩

theorem isNumeral_iff {word : Text} : isNumeral word = true ↔ Numeral word := by
  constructor
  · intro h
    obtain ⟨sign, hsign, hword⟩ := exists_sign word
    simp only [isNumeral] at h
    generalize (afterStart? ['-'] word).getD word = unsigned at h hword
    rw [Bool.and_eq_true, Bool.not_eq_true', List.isEmpty_eq_false_iff] at h
    have hdigits : IsDigits (unsigned.takeWhile isDigit) :=
      ⟨h.1, fun c hc ↦ List.mem_takeWhile_imp hc⟩
    refine ⟨sign, unsigned.takeWhile isDigit, unsigned.dropWhile isDigit, hsign, hdigits, ?_, ?_⟩
    · have hfraction := h.2
      split at hfraction
      · next hnil => exact .inl hnil
      · next places hpoint =>
        rw [Bool.and_eq_true, Bool.not_eq_true', List.isEmpty_eq_false_iff,
          List.all_eq_true] at hfraction
        exact .inr ⟨places, hfraction, hpoint⟩
      · contradiction
    · rw [List.takeWhile_append_dropWhile]
      exact hword
  · rintro ⟨sign, digits, fraction, hsign, hdigits, hfraction, rfl⟩
    have hhead : ∀ c ∈ fraction.head?, isDigit c = false := by
      rcases hfraction with rfl | ⟨places, -, rfl⟩
      · simp
      · simp only [List.head?_cons, Option.mem_def, Option.some_inj]
        rintro _ rfl
        decide
    obtain ⟨htake, hdrop⟩ := takeWhile_isDigit hdigits hhead
    simp only [isNumeral]
    rw [afterStart?_minus hsign hdigits, htake, hdrop]
    rcases hfraction with rfl | ⟨places, ⟨hne, hplaces⟩, rfl⟩
    · simp [hdigits.1]
    · simp [hdigits.1, hne, List.all_eq_true.mpr hplaces]

theorem isBareWord_iff {word : Text} : isBareWord word = true ↔ BareWord word := by
  simp only [isBareWord, BareWord, Bool.or_eq_true, beq_iff_eq, isNumeral_iff, or_assoc]

/-- A word without quotes is made of characters that are no blanks. -/
theorem BareWord.isBlank_eq_false {word : Text} (h : BareWord word) :
    ∀ c ∈ word, isBlank c = false := by
  rcases h with rfl | rfl | rfl | rfl | ⟨sign, digits, fraction, hsign, hdigits, hfraction, rfl⟩
  · exact isBlank_eq_false_of_all (by decide)
  · exact isBlank_eq_false_of_all (by decide)
  · exact isBlank_eq_false_of_all (by decide)
  · exact isBlank_eq_false_of_all (by decide)
  · intro c hc
    rcases List.mem_append.mp hc with hc | hc
    · rcases hsign with rfl | rfl
      · contradiction
      · rw [List.mem_singleton.mp hc]
        decide
    · rcases List.mem_append.mp hc with hc | hc
      · exact isBlank_of_isDigit (hdigits.2 c hc)
      · rcases hfraction with rfl | ⟨places, hplaces, rfl⟩
        · contradiction
        · rcases List.mem_cons.mp hc with rfl | hc
          · decide
          · exact isBlank_of_isDigit (hplaces.2 c hc)

/-- A word without quotes begins with a letter, a minus sign or a digit. -/
theorem BareWord.head {word : Text} (h : BareWord word) :
    ∃ c rest, word = c :: rest ∧ (c ∈ ['n', 't', 'f', '-'] ∨ isDigit c = true) := by
  rcases h with rfl | rfl | rfl | rfl | ⟨sign, digits, fraction, hsign, ⟨hne, hdigits⟩, -, rfl⟩
  · exact ⟨'n', "ull".toList, rfl, by decide⟩
  · exact ⟨'t', "rue".toList, rfl, by decide⟩
  · exact ⟨'f', "alse".toList, rfl, by decide⟩
  · exact ⟨'0', "0err".toList, rfl, by decide⟩
  · rcases hsign with rfl | rfl
    · cases digits with
      | nil => contradiction
      | cons c digits => exact ⟨c, digits ++ fraction, rfl, .inr (hdigits c List.mem_cons_self)⟩
    · exact ⟨'-', digits ++ fraction, rfl, by decide⟩

/-- An expectation is read exactly where the grammar has one, with a blank behind it. -/
theorem readToken?_append {token : Token} {written rest : Text} (hwritten : token.WrittenAs written)
    (hrest : ∀ c ∈ rest.head?, isBlank c = true) :
    readToken? (written ++ rest) = some (token, rest) := by
  cases hwritten with
  | bare hword =>
    obtain ⟨c, tail, hhead, hfirst⟩ := hword.head
    have hquote : c ≠ '"' := by
      rintro rfl
      exact absurd hfirst (by decide)
    have hrun : ∀ c ∈ written, (!isBlank c) = true := fun c hc ↦ by
      rw [hword.isBlank_eq_false c hc, Bool.not_false]
    have hstop : ∀ c ∈ rest.head?, (!isBlank c) = false := fun c hc ↦ by
      rw [hrest c hc, Bool.not_true]
    rw [readToken?.eq_def]
    split
    · next heq =>
      rw [hhead, List.cons_append] at heq
      exact absurd (List.cons.inj heq).1 hquote
    · simp only [takeWhile_append_of_head hrun hstop, dropWhile_append_of_head hrun hstop,
        isBareWord_iff.mpr hword, if_true]
  | @quoted text htext =>
    have hline : inQuotes text ++ rest = '"' :: (text ++ '"' :: rest) := by
      simp [inQuotes]
    obtain ⟨htake, hdrop⟩ := cut_at htext rest
    rw [hline, readToken?, htake, hdrop]

theorem exists_written_of_readToken? {line rest : Text} {token : Token}
    (h : readToken? line = some (token, rest)) :
    ∃ written, token.WrittenAs written ∧ line = written ++ rest := by
  unfold readToken? at h
  split at h
  · next text =>
    split at h
    · contradiction
    · next c after hdrop =>
      simp only [Option.some_inj, Prod.mk.injEq] at h
      obtain ⟨rfl, rfl⟩ := h
      refine ⟨_, .quoted (notMem_takeWhile_ne '"' text), ?_⟩
      rw [inQuotes, List.cons_append, List.cons_append, List.append_assoc, List.singleton_append,
        ← eq_append_of_dropWhile_ne hdrop]
  · dsimp only at h
    split_ifs at h with hword
    simp only [Option.some_inj, Prod.mk.injEq] at h
    obtain ⟨rfl, rfl⟩ := h
    exact ⟨_, .bare (isBareWord_iff.mp hword), List.takeWhile_append_dropWhile.symm⟩

/-! ### Options -/

theorem options_readOptions (text : Text) :
    Options text (readOptions text).1 (readOptions text).2 := by
  fun_induction readOptions text with
  | case1 rest ih => exact .ignoreCase ih
  | case2 rest hcase ih =>
    refine .inert (fun hhead ↦ ?_) ih
    obtain ⟨tail, rfl⟩ := List.head?_eq_some_iff.mp hhead
    exact hcase tail rfl
  | case3 pattern hcase hinert =>
    refine .none fun hhead ↦ ?_
    obtain ⟨tail, rfl⟩ := List.head?_eq_some_iff.mp hhead
    exact hinert tail rfl

/-- Options are read as the grammar has them. -/
theorem readOptions_eq_iff {text pattern : Text} {ignoresCase : Bool} :
    readOptions text = (ignoresCase, pattern) ↔ Options text ignoresCase pattern := by
  constructor
  · intro h
    have hread := options_readOptions text
    rw [h] at hread
    exact hread
  · intro h
    induction h with
    | @none pattern hpattern =>
      unfold readOptions
      split
      · simp at hpattern
      · simp at hpattern
      · rfl
    | @inert text pattern ignoresCase htext _ ih =>
      rw [readOptions, ih]
      rintro rest rfl
      simp at htext
    | ignoreCase _ ih => rw [readOptions, ih]

/-- An expectation stands for an expected output. -/
theorem exists_step_eq (token : Token) : ∃ pattern mode, token.step = .expect pattern mode := by
  cases token with
  | bare word => exact ⟨_, _, rfl⟩
  | quoted text =>
    simp only [Token.step]
    split
    · exact ⟨_, _, rfl⟩
    · exact ⟨_, _, rfl⟩

/-- The step of an expectation has the pattern and the mode that the grammar gives it. -/
theorem step_eq_iff {token : Token} {pattern : Text} {mode : MatchMode} :
    token.step = .expect pattern mode ↔ token.Means pattern mode := by
  constructor
  · intro h
    cases token with
    | bare word =>
      simp only [Token.step, Step.expect.injEq] at h
      obtain ⟨rfl, rfl⟩ := h
      split_ifs with hword
      · rw [hword]
        exact .bareSentinel
      · exact .bare hword
    | quoted text =>
      simp only [Token.step] at h
      split at h
      · next read hoptions =>
        simp only [Step.expect.injEq] at h
        obtain ⟨rfl, rfl⟩ := h
        exact .ignoringCase (readOptions_eq_iff.mp hoptions)
      · next read hoptions =>
        simp only [Step.expect.injEq] at h
        obtain ⟨rfl, rfl⟩ := h
        split_ifs with hpattern
        · subst hpattern
          exact .sentinel (readOptions_eq_iff.mp hoptions)
        · exact .exact (readOptions_eq_iff.mp hoptions) hpattern
  · intro h
    cases h with
    | bare hword => simp [Token.step, hword]
    | bareSentinel => simp [Token.step]
    | ignoringCase hoptions => simp [Token.step, readOptions_eq_iff.mpr hoptions]
    | sentinel hoptions => simp [Token.step, readOptions_eq_iff.mpr hoptions]
    | exact hoptions hpattern => simp [Token.step, readOptions_eq_iff.mpr hoptions, hpattern]

end Dialogue.Script
