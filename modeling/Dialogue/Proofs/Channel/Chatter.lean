import Dialogue.Channel.Chatter
import Mathlib.Data.List.Basic

/-!
# Chatter and line breaks

An output is chatter if it bears one of the two marks (`isChatter_iff`). Marks without line breaks
do not tell a text from the same text with lines behind it (`isChatter_append_newline`), so the
bytes that are held back for an output are chatter exactly if the output is.
-/

set_option autoImplicit false
set_option relaxedAutoImplicit false

namespace Dialogue.Marks

/-- Neither mark holds a line break. -/
def OneLine (marks : Marks) : Prop :=
  '\n' ∉ marks.error ∧ '\n' ∉ marks.info

instance (marks : Marks) : Decidable marks.OneLine :=
  inferInstanceAs (Decidable (_ ∧ _))

/-- A text begins with a mark that is not empty. -/
def BorneBy (marks : Marks) (text : Text) : Prop :=
  ∃ mark ∈ [marks.error, marks.info], mark ≠ [] ∧ mark <+: text

theorem bears_iff {mark text : Text} : bears mark text = true ↔ mark ≠ [] ∧ mark <+: text := by
  simp [bears]

theorem isChatter_iff {marks : Marks} {text : Text} :
    marks.isChatter text = true ↔ marks.BorneBy text := by
  simp only [isChatter, Bool.or_eq_true, bears_iff, BorneBy, List.exists_mem_cons_iff,
    List.not_mem_nil, false_and, exists_false, or_false]

instance (marks : Marks) (text : Text) : Decidable (marks.BorneBy text) :=
  decidable_of_iff _ isChatter_iff

/-- Text behind a line break makes no mark that has none. -/
theorem prefix_append_newline_iff {mark : Text} (hmark : '\n' ∉ mark) (text rest : Text) :
    mark <+: text ++ '\n' :: rest ↔ mark <+: text := by
  induction mark generalizing text with
  | nil => simp
  | cons c mark ih =>
    obtain ⟨hc, hmark⟩ := not_or.mp (List.mem_cons.not.mp hmark)
    cases text with
    | nil => simp [List.cons_prefix_cons, Ne.symm hc]
    | cons x text => simp [List.cons_prefix_cons, ih hmark]

/-- A text is as much chatter as its first line. -/
theorem isChatter_append_newline {marks : Marks} (h : marks.OneLine) (text rest : Text) :
    marks.isChatter (text ++ '\n' :: rest) = marks.isChatter text := by
  rw [Bool.eq_iff_iff, isChatter_iff, isChatter_iff]
  simp only [BorneBy, List.exists_mem_cons_iff, List.not_mem_nil, false_and, exists_false, or_false,
    prefix_append_newline_iff h.1, prefix_append_newline_iff h.2]

/-- A lone line break is no chatter. -/
theorem isChatter_newline {marks : Marks} (h : marks.OneLine) : marks.isChatter ['\n'] = false := by
  rw [← List.nil_append ['\n'], isChatter_append_newline h, ← Bool.not_eq_true, isChatter_iff]
  rintro ⟨mark, -, hne, hprefix⟩
  exact hne (List.prefix_nil.mp hprefix)

end Dialogue.Marks
