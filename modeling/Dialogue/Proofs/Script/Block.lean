import Dialogue.Proofs.Script.Line
import Mathlib.Data.List.DropRight

/-!
# Gathering lines

The lines that the parser sees are those of the grammar: the physical lines of a text
(`physicalLines_eq_iff`), and the logical lines that they make (`gather_eq_iff`). A quote that is
open takes lines up to the first that closes it (`gather_some_append`), and all of them if none does
(`gather_some_eq_nil`).
-/

set_option autoImplicit false
set_option relaxedAutoImplicit false

namespace Dialogue.Script

open Text

/-! ### Physical lines -/

theorem areLines_lines (text : Text) : AreLines text (lines text) := by
  induction text with
  | nil => exact .nil
  | cons c text ih =>
    unfold lines
    split_ifs with hc
    · subst hc
      have hempty : '\n' ∉ ([] : Text) := by simp
      exact .cons hempty ih
    · generalize lines text = pieces at ih
      have hcons {line : Text} (hline : '\n' ∉ line) : '\n' ∉ c :: line := by
        simpa using ⟨Ne.symm hc, hline⟩
      cases ih with
      | nil => exact .last (List.cons_ne_nil _ _) (hcons (by simp))
      | last hne hline => exact .last (List.cons_ne_nil _ _) (hcons hline)
      | cons hline hrest => exact .cons (hcons hline) hrest

/-- A text falls into the lines of the grammar. -/
theorem lines_eq_iff {text : Text} {pieces : List Text} :
    lines text = pieces ↔ AreLines text pieces := by
  constructor
  · rintro rfl
    exact areLines_lines text
  · intro h
    induction h with
    | nil => rfl
    | last hne hline => exact lines_of_notMem hne hline
    | cons hline _ ih => rw [lines_append hline, ih]

/-- A line loses the carriage returns at its end and nothing else. -/
theorem trimReturns_eq_iff {piece line : Text} :
    trimReturns piece = line ↔ DropsReturns piece line := by
  change List.rdropWhile (· == '\r') piece = line ↔ _
  constructor
  · rintro rfl
    constructor
    · have hreturns : List.rtakeWhile (· == '\r') piece =
          List.replicate (List.rtakeWhile (· == '\r') piece).length '\r' :=
        List.eq_replicate_of_mem fun c hc ↦ by simpa using List.mem_rtakeWhile_imp hc
      refine ⟨(List.rtakeWhile (· == '\r') piece).length, ?_⟩
      rw [← hreturns, List.rdropWhile_append_rtakeWhile]
    · intro hlast
      obtain ⟨init, hinit⟩ := List.getLast?_eq_some_iff.mp hlast
      have hne : List.rdropWhile (· == '\r') piece ≠ [] := by simp [hinit]
      exact List.rdropWhile_last_not _ _ hne (by simp [hinit])
  · rintro ⟨⟨count, rfl⟩, hlast⟩
    induction count with
    | zero =>
      rw [List.replicate_zero, List.append_nil, List.rdropWhile_eq_self_iff]
      intro hne hreturn
      rw [List.getLast?_eq_some_getLast hne] at hlast
      exact hlast (congrArg some (by simpa using hreturn))
    | succ count ih =>
      rw [List.replicate_succ', ← List.append_assoc, List.rdropWhile_concat_pos _ _ _ (by simp), ih]

theorem map_trimReturns_eq_iff {pieces lines : List Text} :
    pieces.map trimReturns = lines ↔ List.Forall₂ DropsReturns pieces lines := by
  induction pieces generalizing lines with
  | nil => simp [eq_comm]
  | cons piece pieces ih =>
    cases lines with
    | nil => simp
    | cons line lines => simp [trimReturns_eq_iff, ih]

/-- A text has the physical lines of the grammar. -/
theorem physicalLines_eq_iff {text : Text} {found : List Text} :
    physicalLines text = found ↔ PhysicalLines text found := by
  simp only [physicalLines, PhysicalLines, map_trimReturns_eq_iff, ← lines_eq_iff]
  simp

/-! ### Open quotes -/

theorem opensBlock_iff {line : Text} : opensBlock line = true ↔ Opens line := by
  unfold opensBlock
  split
  · next rest => simp [Opens]
  · next hline =>
    refine iff_of_false Bool.false_ne_true ?_
    rintro ⟨rest, -, rfl⟩
    exact hline rest rfl

theorem closesBlock_iff {line : Text} : closesBlock line = true ↔ Closes line := by
  constructor
  · intro h
    unfold closesBlock at h
    split at h
    · contradiction
    · next rest hdrop =>
      obtain ⟨input, hinput⟩ := Option.isSome_iff_exists.mp h
      exact ⟨_, rest, input, notMem_takeWhile_ne '"' line, readInput?_eq_some_iff.mp hinput,
        eq_append_of_dropWhile_ne hdrop⟩
  · rintro ⟨before, rest, input, hquote, hinput, rfl⟩
    rw [closesBlock, (cut_at hquote rest).2]
    exact Option.isSome_iff_exists.mpr ⟨input, readInput?_eq_some_iff.mpr hinput⟩

/-- An open quote takes lines up to the first one that closes it. -/
theorem gather_some_append (number : Nat) (opened : LogicalLine) {middle : List Text} {last : Text}
    (hmiddle : ∀ line ∈ middle, ¬Closes line) (hlast : Closes last) (rest : List Text) :
    gather number (some opened) (middle ++ last :: rest) =
      { opened with text := joinWith ['\n'] (opened.text :: (middle ++ [last])) } ::
        gather (number + middle.length + 1) none rest := by
  induction middle generalizing number opened with
  | nil =>
    rw [← closesBlock_iff] at hlast
    simp [gather, hlast, joinWith]
  | cons line middle ih =>
    obtain ⟨hline, hmiddle⟩ := List.forall_mem_cons.mp hmiddle
    rw [← closesBlock_iff, Bool.not_eq_true] at hline
    rw [List.cons_append, List.cons_append, ← joinWith_cons_append, gather]
    simp only [hline, Bool.false_eq_true, if_false]
    rw [ih _ _ hmiddle, List.length_cons, Nat.add_right_comm number 1, Nat.add_assoc number]

/-- A quote that no line closes takes all lines. -/
theorem gather_some_eq_nil (number : Nat) (opened : LogicalLine) {lines : List Text}
    (hlines : ∀ line ∈ lines, ¬Closes line) : gather number (some opened) lines = [] := by
  induction lines generalizing number opened with
  | nil => rfl
  | cons line lines ih =>
    obtain ⟨hline, hlines⟩ := List.forall_mem_cons.mp hlines
    rw [← closesBlock_iff] at hline
    rw [gather]
    simp only [hline]
    exact ih _ _ hlines

/-! ### Logical lines -/

theorem gather_cons_of_opens (number : Nat) {first : Text} {rest : List Text} (hfirst : Opens first)
    (hne : rest ≠ []) :
    gather number none (first :: rest) = gather (number + 1) (some ⟨number, first⟩) rest := by
  rw [← opensBlock_iff] at hfirst
  simp [gather, hfirst, hne]

theorem gather_cons_of_not_opens (number : Nat) {line : Text} {rest : List Text}
    (hline : ¬Opens line ∨ rest = []) :
    gather number none (line :: rest) = ⟨number, line⟩ :: gather (number + 1) none rest := by
  rw [← opensBlock_iff, Bool.not_eq_true] at hline
  rcases hline with hline | rfl
  · simp [gather, hline]
  · simp [gather]

/-- Some lines hold one that closes a quote, and a first such line, or none. -/
theorem exists_first_closes (lines : List Text) :
    (∀ line ∈ lines, ¬Closes line) ∨ ∃ middle last rest, lines = middle ++ last :: rest ∧
      (∀ line ∈ middle, ¬Closes line) ∧ Closes last := by
  induction lines with
  | nil => exact .inl (by simp)
  | cons line lines ih =>
    by_cases hline : Closes line
    · exact .inr ⟨[], line, lines, rfl, by simp, hline⟩
    · rcases ih with hnone | ⟨middle, last, rest, rfl, hmiddle, hlast⟩
      · exact .inl (List.forall_mem_cons.mpr ⟨hline, hnone⟩)
      · exact .inr ⟨line :: middle, last, rest, rfl, List.forall_mem_cons.mpr ⟨hline, hmiddle⟩,
          hlast⟩

theorem gathers_gather (number : Nat) (lines : List Text) :
    Gathers lines ((gather number none lines).map LogicalLine.text) := by
  match lines with
  | [] => exact .nil
  | line :: rest =>
    by_cases hline : ¬Opens line ∨ rest = []
    · rw [gather_cons_of_not_opens number hline]
      exact .line hline (gathers_gather (number + 1) rest)
    · obtain ⟨hopens, hne⟩ := not_or.mp hline
      rw [not_not] at hopens
      rw [gather_cons_of_opens number hopens hne]
      rcases exists_first_closes rest with hnone | ⟨middle, last, others, hrest, hmiddle, hlast⟩
      · rw [gather_some_eq_nil _ _ hnone]
        exact .unclosed hopens hne hnone
      · -- The recursion goes on behind the line that closes the quote.
        have hlength : others.length < (line :: rest).length := by
          simp only [hrest, List.length_cons, List.length_append]
          omega
        rw [hrest, gather_some_append _ _ hmiddle hlast]
        exact .block hopens hmiddle hlast (gathers_gather _ others)
termination_by lines.length

/-- The lines that are gathered are the logical lines of the grammar. -/
theorem gather_eq_iff {number : Nat} {lines logical : List Text} :
    (gather number none lines).map LogicalLine.text = logical ↔ Gathers lines logical := by
  constructor
  · rintro rfl
    exact gathers_gather number lines
  · intro h
    induction h generalizing number with
    | nil => rfl
    | line hline _ ih => rw [gather_cons_of_not_opens number hline, List.map_cons, ih]
    | block hfirst hmiddle hlast _ ih =>
      rw [gather_cons_of_opens number hfirst (by simp), gather_some_append _ _ hmiddle hlast,
        List.map_cons, ih]
    | unclosed hfirst hne hrest =>
      rw [gather_cons_of_opens number hfirst hne, gather_some_eq_nil _ _ hrest, List.map_nil]

end Dialogue.Script
