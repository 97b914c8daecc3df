import Dialogue.Proofs.Text.Lines

/-!
# Carriage returns that are dropped

On its way to a transcript a text loses carriage returns, but only such as stand right before a line
feed or before others that do (`Text.Sheds`). That is what becomes of line breaks that are unified
(`sheds_unifyBreaks`) and of a line whose ending is replaced (`sheds_returns`). Texts shed their
carriage returns part by part (`Sheds.append`) and line by line (`Sheds.exists_of_line`), and a text
without any stays as it is (`Sheds.eq_of_notMem`).
-/

set_option autoImplicit false
set_option relaxedAutoImplicit false

namespace Dialogue.Text

/-- The second text is the first one without some of the carriage returns in front of its line
feeds. -/
inductive Sheds : Text → Text → Prop
  | nil : Sheds [] []
  | keep (c : Char) {text shown : Text} : Sheds text shown → Sheds (c :: text) (c :: shown)
  | drop {text shown : Text} : Sheds text ('\n' :: shown) → Sheds ('\r' :: text) ('\n' :: shown)

namespace Sheds

theorem refl (text : Text) : Sheds text text := by
  induction text with
  | nil => exact .nil
  | cons c text ih => exact .keep c ih

theorem append {first second shown more : Text} (hfirst : Sheds first shown)
    (hsecond : Sheds second more) : Sheds (first ++ second) (shown ++ more) := by
  induction hfirst with
  | nil => exact hsecond
  | keep c _ ih => exact .keep c ih
  | drop _ ih => exact .drop ih

theorem eq_of_notMem {text shown : Text} (h : Sheds text shown) (hreturn : '\r' ∉ text) :
    shown = text := by
  induction h with
  | nil => rfl
  | keep c _ ih => rw [ih fun hmem ↦ hreturn (List.mem_cons_of_mem c hmem)]
  | drop => exact absurd List.mem_cons_self hreturn

/-- A line of a text sheds its carriage returns by itself. -/
theorem exists_of_line {line rest shown : Text} (h : Sheds (line ++ '\n' :: rest) shown) :
    ∃ first second, shown = first ++ '\n' :: second ∧ Sheds (line ++ ['\n']) (first ++ ['\n']) ∧
      Sheds rest second := by
  induction line generalizing shown with
  | nil =>
    cases h with
    | keep _ hrest => exact ⟨[], _, rfl, .refl _, hrest⟩
  | cons c line ih =>
    cases h with
    | keep _ hline =>
      obtain ⟨first, second, rfl, hfirst, hsecond⟩ := ih hline
      exact ⟨c :: first, second, rfl, .keep c hfirst, hsecond⟩
    | drop hline =>
      obtain ⟨first, second, heq, hfirst, hsecond⟩ := ih hline
      refine ⟨first, second, heq, ?_, hsecond⟩
      cases first with
      | nil => exact .drop hfirst
      | cons x first =>
        obtain rfl : x = '\n' := (List.cons.inj heq).1.symm
        exact .drop hfirst

/-- Lines shed their carriage returns one by one. -/
theorem exists_of_lines {lines : List Text} {shown : Text}
    (h : Sheds (lines.flatMap (· ++ ['\n'])) shown) :
    ∃ texts : List Text, shown = texts.flatMap (· ++ ['\n']) ∧
      List.Forall₂ (fun line text ↦ '\r' ∉ line → text = line) lines texts := by
  induction lines generalizing shown with
  | nil =>
    cases h
    exact ⟨[], rfl, .nil⟩
  | cons line lines ih =>
    rw [List.flatMap_cons, List.append_assoc] at h
    obtain ⟨first, second, rfl, hfirst, hsecond⟩ := exists_of_line h
    obtain ⟨texts, rfl, htexts⟩ := ih hsecond
    refine ⟨first :: texts, by simp, .cons (fun hreturn ↦ ?_) htexts⟩
    have heq := hfirst.eq_of_notMem (by simpa using hreturn)
    exact List.append_cancel_right heq

end Sheds

/-! ### Where they are dropped -/

theorem sheds_unifyBreaks (text : Text) : Sheds text text.unifyBreaks := by
  fun_induction unifyBreaks text with
  | case1 => exact .nil
  | case2 rest ih => exact .drop (.keep '\n' ih)
  | case3 c rest _ ih => exact .keep c ih

/-- Carriage returns at the end of a line are part of its ending. -/
theorem sheds_returns {returns : Text} (h : ∀ c ∈ returns, c = '\r') :
    Sheds (returns ++ ['\n']) ['\n'] := by
  induction returns with
  | nil => exact .refl _
  | cons c returns ih =>
    obtain ⟨rfl, hreturns⟩ := List.forall_mem_cons.mp h
    exact .drop (ih hreturns)

/-- What is trimmed of a line are carriage returns. -/
theorem exists_trimReturns (line : Text) :
    ∃ returns : Text, line = line.trimReturns ++ returns ∧ ∀ c ∈ returns, c = '\r' := by
  refine ⟨line.rtakeWhile (· == '\r'), ?_, fun c hc ↦ ?_⟩
  · exact (List.rdropWhile_append_rtakeWhile ..).symm
  · exact beq_iff_eq.mp (List.mem_rtakeWhile_imp (p := (· == '\r')) hc)

end Dialogue.Text
