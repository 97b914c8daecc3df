import Dialogue.Text.Basic

/-!
# Alternatives in braces

A pattern may hold alternatives between braces, separated by commas. `expandBraces` lists the
patterns that it stands for: one for every choice of an alternative, the choice in the first braces
varying slowest. What is between the first opening brace and the first closing brace behind it is
split; the pattern with one alternative in its place is expanded again, until no braces are left or
the opening one is never closed. Every round takes an opening brace away, so the rounds come to an
end.
-/

set_option autoImplicit false
set_option relaxedAutoImplicit false

namespace Dialogue.Pattern

open Text

/-- Cuts a pattern at its first opening brace and the first closing brace behind it: what stands
before, between and behind them. -/
def cutBraces? (pattern : Text) : Option (Text × Text × Text) :=
  match pattern.dropWhile (· != '\x7b') with
  | [] => none
  | _ :: rest =>
    match rest.dropWhile (· != '\x7d') with
    | [] => none
    | _ :: after =>
      some (pattern.takeWhile (· != '\x7b'), rest.takeWhile (· != '\x7d'), after)

/-- How many braces a pattern opens. -/
def openings (pattern : Text) : Nat :=
  pattern.count '\x7b'

/-! ### Every round takes an opening brace away -/

theorem openings_append (a b : Text) : openings (a ++ b) = openings a + openings b := by
  simp [openings]

theorem openings_of_cutBraces? {pattern before inside after : Text}
    (h : cutBraces? pattern = some (before, inside, after)) :
    openings before + openings inside + openings after < openings pattern := by
  simp only [cutBraces?] at h
  split at h
  · contradiction
  · next _ rest hopen =>
    split at h
    · contradiction
    · next _ _ hclose =>
      simp only [Option.some.injEq, Prod.mk.injEq] at h
      obtain ⟨rfl, rfl, rfl⟩ := h
      have hp := congrArg openings (eq_append_of_dropWhile_ne hopen)
      have hr := congrArg openings (eq_append_of_dropWhile_ne hclose)
      simp only [openings, List.count_append, List.count_cons] at hp hr ⊢
      simp only [beq_self_eq_true, if_true] at hp
      omega

theorem openings_le_of_mem_splitOn {separator : Char} {text piece : Text}
    (h : piece ∈ splitOn separator text) : openings piece ≤ openings text := by
  induction text generalizing piece with
  | nil => simp_all [splitOn]
  | cons c rest ih =>
    have hrest : openings rest ≤ openings (c :: rest) := by
      simp only [openings]
      exact List.Sublist.count_le _ (List.sublist_cons_self _ _)
    simp only [splitOn] at h
    split at h
    · rcases List.mem_cons.1 h with rfl | hmem
      · simp [openings]
      · exact Nat.le_trans (ih hmem) hrest
    · split at h
      · simp only [List.mem_singleton] at h
        subst h
        simp [openings, List.count_cons]
      · next first others heq =>
        rcases List.mem_cons.1 h with rfl | hmem
        · have := ih (heq ▸ List.mem_cons_self : first ∈ splitOn separator rest)
          simp only [openings, List.count_cons] at this ⊢
          omega
        · exact Nat.le_trans (ih (heq ▸ List.mem_cons_of_mem _ hmem)) hrest

/-! ### Expansion -/

/-- The patterns without alternatives that a pattern stands for, in the order of the choices. -/
def expandBraces (pattern : Text) : List Text :=
  match _h : cutBraces? pattern with
  | none => [pattern]
  | some (before, inside, after) =>
    (splitOn ',' inside).attach.flatMap fun ⟨choice, _⟩ ↦
      expandBraces (before ++ choice ++ after)
termination_by openings pattern
decreasing_by
  have hcut := openings_of_cutBraces? _h
  have hchoice := openings_le_of_mem_splitOn ‹choice ∈ splitOn ',' inside›
  simp only [openings_append]
  omega

end Dialogue.Pattern
