import Dialogue.Text.Basic
import Mathlib.Data.List.DropRight
import Mathlib.Data.List.TakeWhile
import Mathlib.Tactic.SplitIfs

/-!
# Cutting texts

Cutting a text at a separator and joining the pieces undo each other, as long as no piece holds a
separator (`joinWith_splitOn`, `splitOn_joinWith`). Lines are cut in the same way, but for the last
line feed (`lines_append`, `lines_of_notMem`). A text without carriage returns stays as it is where
they would be taken away (`trimReturns_of_notMem`, `unifyBreaks_of_notMem`), and so does a text that
ends in a line feed where only its end is trimmed (`trimReturns_of_getLast?`).
-/

set_option autoImplicit false
set_option relaxedAutoImplicit false

namespace Dialogue.Text

/-! ### Cutting once -/

/-- A run of characters that pass a test in front of one that does not is what is taken. -/
theorem takeWhile_append_of_head {test : Char → Bool} {run rest : Text}
    (hrun : ∀ c ∈ run, test c = true) (hrest : ∀ c ∈ rest.head?, test c = false) :
    (run ++ rest).takeWhile test = run := by
  rw [List.takeWhile_append_of_pos hrun]
  cases rest with
  | nil => exact List.append_nil run
  | cons c rest =>
    rw [List.takeWhile_cons_of_neg (by simp [hrest c (by simp)]), List.append_nil]

/-- A run of characters that pass a test in front of one that does not is what is dropped. -/
theorem dropWhile_append_of_head {test : Char → Bool} {run rest : Text}
    (hrun : ∀ c ∈ run, test c = true) (hrest : ∀ c ∈ rest.head?, test c = false) :
    (run ++ rest).dropWhile test = rest := by
  rw [List.dropWhile_append_of_pos hrun]
  cases rest with
  | nil => rfl
  | cons c rest => exact List.dropWhile_cons_of_neg (by simp [hrest c (by simp)])

/-- What is left of a text does not go on with a character that passes the test. -/
theorem eq_false_of_head?_dropWhile {test : Char → Bool} {text : Text} :
    ∀ c ∈ (text.dropWhile test).head?, test c = false := by
  intro c hc
  have hnot := List.head?_dropWhile_not test text
  rw [Option.mem_def.mp hc] at hnot
  simpa using hnot

/-- A text is cut at the first place where a character stands. -/
theorem cut_at {c : Char} {before : Text} (hbefore : c ∉ before) (rest : Text) :
    (before ++ c :: rest).takeWhile (· != c) = before ∧
      (before ++ c :: rest).dropWhile (· != c) = c :: rest := by
  have hrun : ∀ x ∈ before, (x != c) = true := fun x hx ↦ by
    rw [bne_iff_ne]
    rintro rfl
    exact hbefore hx
  exact ⟨takeWhile_append_of_head hrun (by simp), dropWhile_append_of_head hrun (by simp)⟩

theorem notMem_takeWhile_ne (c : Char) (text : Text) : c ∉ text.takeWhile (· != c) := by
  intro hmem
  simpa using List.mem_takeWhile_imp hmem

/-! ### Separators -/

/-- The pieces between separators, joined again, are the text. -/
theorem joinWith_splitOn (separator : Char) (text : Text) :
    joinWith [separator] (splitOn separator text) = text := by
  induction text with
  | nil => rfl
  | cons c text ih =>
    unfold splitOn
    split_ifs with hc
    · rcases hpieces : splitOn separator text with _ | ⟨piece, pieces⟩
      · exact absurd hpieces (splitOn_ne_nil separator text)
      · rw [hpieces] at ih
        rw [joinWith, ih, hc]
        rfl
    · rcases hpieces : splitOn separator text with _ | ⟨piece, pieces⟩
      · exact absurd hpieces (splitOn_ne_nil separator text)
      · rw [hpieces] at ih
        cases pieces with
        | nil =>
          change c :: piece = c :: text
          exact congrArg (c :: ·) ih
        | cons next pieces =>
          change c :: joinWith [separator] (piece :: next :: pieces) = c :: text
          exact congrArg (c :: ·) ih

/-- No piece holds a separator. -/
theorem separator_notMem_of_mem_splitOn (separator : Char) (text : Text) :
    ∀ piece ∈ splitOn separator text, separator ∉ piece := by
  induction text with
  | nil => simp [splitOn]
  | cons c text ih =>
    unfold splitOn
    split_ifs with hc
    · simpa using ih
    · rcases hpieces : splitOn separator text with _ | ⟨piece, pieces⟩
      · simpa using Ne.symm hc
      · rw [hpieces] at ih
        simp only [List.forall_mem_cons] at ih ⊢
        refine ⟨fun hmem ↦ ?_, ih.2⟩
        rcases List.mem_cons.mp hmem with heq | hmem
        · exact hc heq.symm
        · exact ih.1 hmem

theorem splitOn_append {separator : Char} {piece : Text} (h : separator ∉ piece) (rest : Text) :
    splitOn separator (piece ++ separator :: rest) = piece :: splitOn separator rest := by
  induction piece with
  | nil => simp [splitOn]
  | cons c piece ih =>
    obtain ⟨hc, hpiece⟩ := not_or.mp (List.mem_cons.not.mp h)
    rw [List.cons_append, splitOn, if_neg (Ne.symm hc), ih hpiece]

/-- The pieces in front of a separator and those behind it. -/
theorem splitOn_append_cons (separator : Char) (text rest : Text) :
    splitOn separator (text ++ separator :: rest) =
      splitOn separator text ++ splitOn separator rest := by
  induction text with
  | nil => simp [splitOn]
  | cons c text ih =>
    rw [List.cons_append, splitOn, splitOn, ih]
    split_ifs with hc
    · rfl
    · rcases hpieces : splitOn separator text with _ | ⟨piece, pieces⟩
      · exact absurd hpieces (splitOn_ne_nil separator text)
      · rfl

theorem splitOn_of_notMem {separator : Char} {piece : Text} (h : separator ∉ piece) :
    splitOn separator piece = [piece] := by
  induction piece with
  | nil => rfl
  | cons c piece ih =>
    obtain ⟨hc, hpiece⟩ := not_or.mp (List.mem_cons.not.mp h)
    rw [splitOn, if_neg (Ne.symm hc), ih hpiece]

/-- Pieces without separators, joined, are what the text falls into. -/
theorem splitOn_joinWith {separator : Char} {pieces : List Text} (hne : pieces ≠ [])
    (hpieces : ∀ piece ∈ pieces, separator ∉ piece) :
    splitOn separator (joinWith [separator] pieces) = pieces := by
  induction pieces with
  | nil => contradiction
  | cons piece pieces ih =>
    rw [List.forall_mem_cons] at hpieces
    cases pieces with
    | nil => exact splitOn_of_notMem hpieces.1
    | cons next pieces =>
      rw [joinWith, List.append_assoc, List.singleton_append, splitOn_append hpieces.1,
        ih (List.cons_ne_nil _ _) hpieces.2]

theorem mem_joinWith {separator piece : Text} {pieces : List Text} (h : piece ∈ pieces) {c : Char}
    (hc : c ∈ piece) : c ∈ joinWith separator pieces := by
  induction pieces with
  | nil => contradiction
  | cons first pieces ih =>
    cases pieces with
    | nil =>
      obtain rfl := List.mem_singleton.mp h
      exact hc
    | cons next pieces =>
      rw [joinWith, List.append_assoc]
      rcases List.mem_cons.mp h with rfl | h
      · exact List.mem_append_left _ hc
      · exact List.mem_append_right _ (List.mem_append_right _ (ih h))

theorem notMem_joinWith {c : Char} {separator : Text} {pieces : List Text}
    (hseparator : c ∉ separator)
    (hpieces : ∀ piece ∈ pieces, c ∉ piece) : c ∉ joinWith separator pieces := by
  induction pieces with
  | nil => simp [joinWith]
  | cons piece pieces ih =>
    obtain ⟨hpiece, hpieces⟩ := List.forall_mem_cons.mp hpieces
    cases pieces with
    | nil => exact hpiece
    | cons next pieces => simp [joinWith, hpiece, hseparator, ih hpieces]

/-- Two pieces that stand joined already are joined with others as they would be one by one. -/
theorem joinWith_cons_append (first second : Text) (pieces : List Text) :
    joinWith ['\n'] ((first ++ '\n' :: second) :: pieces) =
      joinWith ['\n'] (first :: second :: pieces) := by
  cases pieces with
  | nil => simp [joinWith]
  | cons next pieces => simp [joinWith]

/-! ### Lines -/

theorem lines_append {line : Text} (hline : '\n' ∉ line) (rest : Text) :
    lines (line ++ '\n' :: rest) = line :: lines rest := by
  induction line with
  | nil => simp [lines]
  | cons c line ih =>
    obtain ⟨hc, hline⟩ := not_or.mp (List.mem_cons.not.mp hline)
    rw [List.cons_append, lines, if_neg (Ne.symm hc), ih hline]

theorem lines_of_notMem {line : Text} (hne : line ≠ []) (hline : '\n' ∉ line) :
    lines line = [line] := by
  induction line with
  | nil => contradiction
  | cons c line ih =>
    obtain ⟨hc, hline⟩ := not_or.mp (List.mem_cons.not.mp hline)
    rw [lines, if_neg (Ne.symm hc)]
    cases line with
    | nil => rfl
    | cons x line => rw [ih (List.cons_ne_nil _ _) hline]

/-! ### Carriage returns -/

/-- Only carriage returns at the end are trimmed. -/
theorem trimReturns_eq_self {text : Text} (h : text.getLast? ≠ some '\r') :
    trimReturns text = text := by
  change List.rdropWhile (· == '\r') text = text
  rw [List.rdropWhile_eq_self_iff]
  intro hne hlast
  rw [beq_iff_eq] at hlast
  exact h (by rw [List.getLast?_eq_some_getLast hne, hlast])

theorem trimReturns_of_notMem {text : Text} (h : '\r' ∉ text) : trimReturns text = text :=
  trimReturns_eq_self fun hlast ↦ h (List.mem_of_getLast? hlast)

theorem unifyBreaks_of_notMem {text : Text} (h : '\r' ∉ text) : unifyBreaks text = text := by
  fun_induction unifyBreaks text with
  | case1 => rfl
  | case2 rest ih => simp at h
  | case3 c rest hcase ih => rw [ih fun hmem ↦ h (List.mem_cons_of_mem c hmem)]

/-- Only a carriage return in front of a line feed is removed. -/
theorem unifyBreaks_of_newline_notMem {text : Text} (h : '\n' ∉ text) :
    unifyBreaks text = text := by
  fun_induction unifyBreaks text with
  | case1 => rfl
  | case2 rest ih => simp at h
  | case3 c rest hcase ih => rw [ih fun hmem ↦ h (List.mem_cons_of_mem c hmem)]

/-- What stands in front of the last carriage returns is kept. -/
theorem trimReturns_append {start : Text} (h : '\r' ∉ start) (text : Text) :
    trimReturns (start ++ text) = start ++ trimReturns text := by
  change List.rdropWhile (· == '\r') (start ++ text) = start ++ List.rdropWhile (· == '\r') text
  induction text using List.reverseRecOn with
  | nil =>
    rw [List.append_nil, List.rdropWhile_nil, List.append_nil]
    exact trimReturns_of_notMem h
  | append_singleton text c ih =>
    rw [← List.append_assoc]
    by_cases hc : c = '\r'
    · have hreturn : (c == '\r') = true := beq_iff_eq.mpr hc
      rw [List.rdropWhile_concat_pos (· == '\r') _ _ hreturn,
        List.rdropWhile_concat_pos (· == '\r') _ _ hreturn, ih]
    · have hother : ¬ (c == '\r') = true := beq_iff_eq.not.mpr hc
      rw [List.rdropWhile_concat_neg (· == '\r') _ _ hother,
        List.rdropWhile_concat_neg (· == '\r') _ _ hother, List.append_assoc]

theorem unifyBreaks_eq_nil_iff {text : Text} : text.unifyBreaks = [] ↔ text = [] := by
  fun_cases unifyBreaks text <;> simp

theorem trimReturns_of_getLast? {text : Text} (h : text.getLast? = some '\n') :
    text.trimReturns = text :=
  trimReturns_eq_self (by simp [h])

/-- A text reaches a channel as it stands: none of its carriage returns belongs to the ending of a
line. -/
structure Kept (text : Text) : Prop where
  unified : text.unifyBreaks = text
  trimmed : text.trimReturns = text

theorem Kept.of_notMem {text : Text} (h : '\r' ∉ text) : text.Kept :=
  ⟨unifyBreaks_of_notMem h, trimReturns_of_notMem h⟩

/-- A single line is kept unless it ends in a carriage return. -/
theorem Kept.of_line {text : Text} (hline : '\n' ∉ text) (hlast : text.getLast? ≠ some '\r') :
    text.Kept :=
  ⟨unifyBreaks_of_newline_notMem hline, trimReturns_eq_self hlast⟩

end Dialogue.Text
