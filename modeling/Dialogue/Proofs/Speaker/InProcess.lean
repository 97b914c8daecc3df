import Dialogue.Proofs.Console.Refused
import Dialogue.Proofs.Speaker.Console

/-!
# Programs that speak line by line

A program that speaks line by line is given by what it says before its next read, as a function of
the lines it has read so far. Inside the harness it prints those lines, reads, and starts again
until it reads the terminator (`Behaviour.speaking`). It passes exactly if everything it says is
heard: its first lines where the first input is due, and the lines it says after each input as the
output of that input and as nothing else (`passes_answer_iff`, `passes_speaking_iff`).
-/

set_option autoImplicit false
set_option relaxedAutoImplicit false

namespace Dialogue

/-- Says lines, given what was read so far, reads the next one and starts again, until the
terminator is read. -/
def Behaviour.speaking (speak : List Text → List Text) (reads : Nat) : Behaviour :=
  printLines (answer (fun history line ↦ speak (history.reverse ++ [line])) [] reads) (speak [])

/-- A program that speaks line by line inside the harness. -/
def Program.speaking (name : Text) (speak : List Text → List Text) : Program :=
  .ofReads name fun _ reads ↦ Behaviour.speaking speak reads

/-! ### How a run is judged -/

namespace Run

/-- A run that has ended so is judged to have passed, once everything has gone out. -/
def Passes (run : Ending × Console) : Prop :=
  (judge run.1 run.2.emitAll.2.channel).1 = .passed

instance (run : Ending × Console) : Decidable (Passes run) :=
  inferInstanceAs (Decidable (_ = _))

variable {script : Script} {marks : Marks} {ending : Ending} {console : Console}

theorem not_passes_of_faulted {fault : Fault} : ¬Passes (.faulted fault, console) := by
  intro hpasses
  obtain ⟨hended, -⟩ := judge_of_passed hpasses
  contradiction

theorem passes_of_done (h : Stage.done.At script marks console) : Passes (.returned, console) := by
  cases h with
  | @done channel h =>
    have hturn := h.inStep.turn_eq_drained_iff.mpr h.sent
    rw [Passes, Console.emitAll_nil]
    simp only [judge, h.failure, faultOf?, Channel.finish, hturn, if_true]

/-- Nothing passes while an output is due. -/
theorem not_passes_of_answering (hmarks : marks.OneLine) {case : Script.Case} {held : List Text}
    {later : List Script.Case} (h : (Stage.answering case held later).At script marks console) :
    ¬Passes (.returned, console) := by
  intro hpasses
  obtain ⟨-, hfailure, hturn, -⟩ := judge_of_passed hpasses
  cases h with
  | @answering _ _ _ channel h =>
    rcases List.eq_nil_or_concat' held with rfl | ⟨init, last, rfl⟩
    · have hpending : Text.Utf8.encode (Stage.ended []) = [] := rfl
      simp only [hpending, Console.emitAll_nil, h.faces.turn_eq] at hturn
      contradiction
    · obtain ⟨deviation, after, hemit⟩ := h.emitAll_refused hmarks
      have hmakes :=
        Console.makes_emitAll ⟨channel, Text.Utf8.encode (Stage.ended (init ++ [last]))⟩
      rw [hemit] at hmakes hfailure
      exact absurd (hmakes.failure_eq.symm.trans hfailure) (by simp)

end Run

/-! ### Whole programs -/

namespace Behaviour

open Run (Passes)

variable {script : Script} {marks : Marks} {speak : List Text → List Text}

/-- A program goes on behind lines that are printed, and ends with one that is refused. -/
theorem run_printLines (next : Behaviour) (lines : List Text) (console : Console) :
    (printLines next lines).run console =
      match console.printAll lines with
      | (.error deviation, after) => (.faulted (.deviation deviation), after)
      | (.ok (), after) => next.run after := by
  induction lines generalizing console with
  | nil => rfl
  | cons line lines ih =>
    rw [printLines, run, Console.printAll]
    rcases hprint : console.printLine line with ⟨deviation | _, after⟩
    · simp only [Console.perform, hprint]
      rfl
    · simp only [Console.perform, hprint]
      exact ih after

/-- A line that is read is answered. -/
theorem run_answer_of_line {respond : List Text → Text → List Text} {history : List Text}
    {reads : Nat} {console after : Console} {line : Text}
    (hread : console.readLine = (.ok line, after)) :
    (answer respond history (reads + 1)).run console =
      if line = terminator then (.returned, after)
      else
        (printLines (answer respond (line :: history) reads) (respond history line)).run after := by
  rw [answer, run]
  simp only [Console.perform, hread, Console.Reply.ofLine]
  split <;> rfl

/-- A read that is refused ends the program. -/
theorem run_answer_of_refused {respond : List Text → Text → List Text} {history : List Text}
    {reads : Nat} {console after : Console} {deviation : Deviation}
    (hread : console.readLine = (.error deviation, after)) :
    (answer respond history (reads + 1)).run console =
      (.faulted (.deviation deviation), after) := by
  rw [answer, run]
  simp only [Console.perform, hread, Console.Reply.ofLine]
  rfl

/-- Where an input is due, a program passes from there on exactly if it attends to the cases that
are left. -/
theorem passes_answer_iff (hmarks : marks.OneLine)
    (hplain : ∀ heard, ∀ line ∈ speak heard, line.Plain) {cases : List Script.Case}
    {history : List Text} {reads : Nat} {console : Console} (hreads : cases.length < reads)
    (h : (Stage.listening cases).At script marks console) :
    Passes ((answer (fun history line ↦ speak (history.reverse ++ [line])) history reads).run
        console) ↔ Stage.Attends marks speak history.reverse cases := by
  induction cases generalizing history reads console with
  | nil =>
    obtain ⟨reads, rfl⟩ := Nat.exists_eq_add_of_lt hreads
    obtain ⟨after, hread, hafter⟩ := h.readLine_terminator
    rw [run_answer_of_line hread, if_pos rfl]
    exact iff_of_true (Run.passes_of_done hafter) trivial
  | cons case later ih =>
    obtain ⟨reads, rfl⟩ := Nat.exists_eq_add_one_of_ne_zero (Nat.ne_zero_of_lt hreads)
    obtain ⟨after, hread, hafter⟩ := h.readLine_case
    rw [run_answer_of_line hread]
    split_ifs with hend
    · -- The program takes the input for the terminator, and an output is still due.
      exact iff_of_false (Run.not_passes_of_answering hmarks hafter) fun hattends ↦ hattends.1 hend
    · have hsaid := hplain (history.reverse ++ [case.input])
      cases hhear : (Stage.answering case [] later).hearAll marks
          (speak (history.reverse ++ [case.input])) with
      | none =>
        obtain ⟨deviation, last, hprint⟩ := hafter.printAll_of_none hmarks hsaid hhear
        rw [run_printLines, hprint]
        exact iff_of_false Run.not_passes_of_faulted
          fun hattends ↦ absurd (hhear.symm.trans hattends.2.1) (by simp)
      | some next =>
        obtain ⟨last, hprint, hlast⟩ := hafter.printAll_of_some hmarks hsaid hhear
        rw [run_printLines, hprint]
        dsimp only
        rw [List.length_cons] at hreads
        rcases Stage.hearAll_answering hhear with rfl | ⟨held, rfl⟩
        · have hreverse : (case.input :: history).reverse = history.reverse ++ [case.input] :=
            List.reverse_cons
          rw [ih (Nat.lt_of_succ_lt_succ hreads) hlast, hreverse]
          exact ⟨fun hattends ↦ ⟨hend, hhear, hattends⟩, fun hattends ↦ hattends.2.2⟩
        · -- Too few lines have been said when the program reads again.
          obtain ⟨more, rfl⟩ := Nat.exists_eq_add_one_of_ne_zero (Nat.ne_zero_of_lt
            (Nat.lt_of_succ_lt_succ hreads))
          obtain ⟨deviation, final, hrefused⟩ := hlast.readLine_refused hmarks
          rw [run_answer_of_refused hrefused]
          exact iff_of_false Run.not_passes_of_faulted
            fun hattends ↦ absurd (hhear.symm.trans hattends.2.1) (by simp)

/-- A program passes exactly if what it says first is heard where the first input is due, and it
attends to all cases. -/
theorem passes_speaking_iff (hmarks : marks.OneLine)
    (hplain : ∀ heard, ∀ line ∈ speak heard, line.Plain) {cases : List Script.Case}
    {reads : Nat} {console : Console} (hreads : cases.length < reads)
    (h : (Stage.listening cases).At script marks console) :
    Passes ((speaking speak reads).run console) ↔
      (Stage.listening cases).hearAll marks (speak []) = some (.listening cases) ∧
        Stage.Attends marks speak [] cases := by
  cases hhear : (Stage.listening cases).hearAll marks (speak []) with
  | none =>
    obtain ⟨deviation, after, hprint⟩ := h.printAll_of_none hmarks (hplain []) hhear
    rw [speaking, run_printLines, hprint]
    exact iff_of_false Run.not_passes_of_faulted (by simp)
  | some next =>
    obtain ⟨after, hprint, hafter⟩ := h.printAll_of_some hmarks (hplain []) hhear
    obtain rfl := (Stage.hearAll_listening_eq_some_iff.mp hhear).1
    rw [speaking, run_printLines, hprint]
    dsimp only
    rw [passes_answer_iff hmarks hplain hreads hafter]
    simp

end Behaviour

end Dialogue
