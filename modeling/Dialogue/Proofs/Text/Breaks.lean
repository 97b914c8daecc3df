import Dialogue.Proofs.Text.Lines

/-!
# Carriage returns in front of line breaks

A reader that drops the carriage returns at the ends of lines drops those that stand in front of
line breaks, however many there are (`trimBreaks`). Where the last line goes on with something that
ends in no carriage return, nothing else is lost (`map_trimReturns_splitOn`).
-/

set_option autoImplicit false
set_option relaxedAutoImplicit false

namespace Dialogue.Text

/-- A text without the carriage returns in front of its line breaks. -/
def trimBreaks : Text → Text
  | [] => []
  | c :: rest =>
    if c = '\r' ∧ (trimBreaks rest).head? = some '\n' then trimBreaks rest else c :: trimBreaks rest

theorem trimBreaks_cons_of_ne {c : Char} (hc : c ≠ '\r') (rest : Text) :
    trimBreaks (c :: rest) = c :: rest.trimBreaks := by
  rw [trimBreaks, if_neg fun h ↦ hc h.1]

theorem trimBreaks_append {start : Text} (h : '\r' ∉ start) (text : Text) :
    trimBreaks (start ++ text) = start ++ text.trimBreaks := by
  induction start with
  | nil => rfl
  | cons c start ih =>
    obtain ⟨hc, hstart⟩ := not_or.mp (List.mem_cons.not.mp h)
    rw [List.cons_append, trimBreaks_cons_of_ne (Ne.symm hc), ih hstart, List.cons_append]

theorem trimBreaks_sublist (text : Text) : text.trimBreaks.Sublist text := by
  induction text with
  | nil => exact .slnil
  | cons c rest ih =>
    rw [trimBreaks]
    split_ifs
    · exact ih.cons c
    · exact ih.cons_cons c

/-- No line break is lost. -/
theorem newline_mem_trimBreaks {text : Text} (h : '\n' ∈ text) : '\n' ∈ text.trimBreaks := by
  induction text with
  | nil => exact h
  | cons c rest ih =>
    rw [trimBreaks]
    split_ifs with hreturn
    · exact List.mem_of_mem_head? hreturn.2
    · rcases List.mem_cons.mp h with rfl | hrest
      · exact List.mem_cons_self
      · exact List.mem_cons_of_mem c (ih hrest)

theorem trimBreaks_of_notMem {text : Text} (h : '\n' ∉ text) : text.trimBreaks = text := by
  induction text with
  | nil => rfl
  | cons c rest ih =>
    obtain ⟨-, hrest⟩ := not_or.mp (List.mem_cons.not.mp h)
    rw [trimBreaks, ih hrest, if_neg fun hreturn ↦ hrest (List.mem_of_mem_head? hreturn.2)]

/-- What a text begins with is what it began with, or a line break. -/
theorem head?_trimBreaks {text : Text} {c : Char} (hc : c ≠ '\n')
    (h : text.trimBreaks.head? = some c) : text.head? = some c := by
  cases text with
  | nil => exact h
  | cons d rest =>
    rw [trimBreaks] at h
    split_ifs at h with hreturn
    · exact absurd (Option.some.inj (h.symm.trans hreturn.2)) hc
    · exact h

/-- The carriage returns at the end of a text that begins with another character. -/
theorem trimReturns_cons (c : Char) (text : Text) :
    trimReturns (c :: text) =
      if c = '\r' ∧ text.trimReturns = [] then [] else c :: text.trimReturns := by
  simp only [trimReturns, trimEndWhile, List.reverse_cons, List.dropWhile_append,
    List.isEmpty_iff, List.reverse_eq_nil_iff]
  by_cases hempty : text.reverse.dropWhile (· == '\r') = []
  · by_cases hc : c = '\r'
    · simp [hempty, hc]
    · simp [hempty, hc]
  · simp [hempty]

/-- The first piece is empty exactly if a separator stands in front. -/
theorem eq_nil_iff_of_splitOn {separator : Char} {text piece : Text} {pieces : List Text}
    (h : splitOn separator text = piece :: pieces) (hne : text ≠ []) :
    piece = [] ↔ text.head? = some separator := by
  cases text with
  | nil => contradiction
  | cons c rest =>
    rw [List.head?_cons, Option.some_inj]
    rw [splitOn] at h
    split_ifs at h with hc
    · exact iff_of_true (List.cons.inj h).1.symm hc
    · refine iff_of_false (fun hempty ↦ ?_) hc
      subst hempty
      split at h
      · exact absurd (List.cons.inj h).1 (List.cons_ne_nil _ _)
      · exact absurd (List.cons.inj h).1 (List.cons_ne_nil _ _)

/-- In front of an end that is no line break, the carriage returns at the ends of the lines of a
text are those in front of its line breaks. -/
theorem map_trimReturns_splitOn {ending : Text} (hne : ending ≠ []) (hnewline : '\n' ∉ ending)
    (hending : ending.trimReturns = ending) (text : Text) :
    (splitOn '\n' (text ++ ending)).map trimReturns =
      splitOn '\n' (text.trimBreaks ++ ending) := by
  induction text with
  | nil =>
    rw [List.nil_append, splitOn_of_notMem hnewline, List.map_singleton, hending]
    exact (splitOn_of_notMem hnewline).symm
  | cons c rest ih =>
    by_cases hc : c = '\n'
    · subst hc
      rw [trimBreaks_cons_of_ne (by decide), List.cons_append, List.cons_append, splitOn,
        splitOn, if_pos rfl, if_pos rfl, List.map_cons, ih]
      rfl
    rw [trimBreaks, List.cons_append, splitOn, if_neg hc]
    rcases hpieces : splitOn '\n' (rest ++ ending) with _ | ⟨piece, pieces⟩
    · exact absurd hpieces (splitOn_ne_nil '\n' _)
    rw [hpieces, List.map_cons] at ih
    have hfirst : piece.trimReturns = [] ↔ (trimBreaks rest).head? = some '\n' := by
      rw [eq_nil_iff_of_splitOn ih.symm (by simp [hne]), List.head?_append]
      generalize (trimBreaks rest).head? = head
      cases head with
      | none => simpa using fun hhead ↦ hnewline (List.mem_of_mem_head? hhead)
      | some d => rfl
    simp only [List.map_cons, trimReturns_cons, hfirst]
    split_ifs with hreturn
    · rw [← ih, hfirst.mpr hreturn.2]
    · rw [List.cons_append, splitOn, if_neg hc, ← ih]

end Dialogue.Text
