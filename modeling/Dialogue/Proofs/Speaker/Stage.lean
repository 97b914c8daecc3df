import Dialogue.Proofs.Channel.Left
import Dialogue.Proofs.Run.Conforming
import Dialogue.Proofs.Speaker.Line

/-!
# How lines fare in a script

For a program that prints whole lines, a script is an automaton. It waits for an input to be read,
or for the lines of an output, of which it may hold some already (`Stage`). A line that is printed
moves it on or fails (`Stage.hear`), and so do several lines one after the other (`Stage.hearAll`).
Where an input is due, only chatter is heard (`hearAll_listening_cons`), and behind the last output
also empty lines. Where an output is due, remarks in front of it are heard (`hearAll_remarks`), and
then the lines of the output and nothing behind them but what is heard where the next input is due.
`Stage.Attends` says that a program gives every input of a script its output in this way.

The one pattern that does not fit in is a lone line break, which is satisfied by the end of a line
instead of a line (`Stage.Sound`).
-/

set_option autoImplicit false
set_option relaxedAutoImplicit false

namespace Dialogue

/-- How many lines an output of a case takes up. -/
def Script.Case.span (case : Script.Case) : Nat :=
  match case.mode with
  | .errorSentinel => 1
  | _ => case.pattern.count '\n' + 1

/-- An output is what a case expects, and no lone line break. -/
def Script.Case.Accepts (case : Script.Case) (text : Text) : Prop :=
  text ≠ [] ∧ text ≠ ['\n'] ∧ case.mode.accepts case.pattern text = true

instance (case : Script.Case) (text : Text) : Decidable (case.Accepts text) :=
  inferInstanceAs (Decidable (_ ∧ _ ∧ _))

namespace Script.Case

theorem span_pos (case : Case) : 0 < case.span := by
  unfold span
  split <;> exact Nat.succ_pos _

/-- An output that is compared as a whole has as many lines as the case says. -/
theorem Accepts.count_eq {case : Case} {text : Text} (h : case.Accepts text)
    (hmode : case.mode ≠ .errorSentinel) : text.count '\n' + 1 = case.span := by
  have htrue := h.2.2
  cases hcase : case.mode with
  | exact =>
    rw [hcase] at htrue
    have heq : text = case.pattern := beq_iff_eq.mp htrue
    rw [span, hcase, heq]
  | caseInsensitive =>
    rw [hcase] at htrue
    have heq : text.lowerCase = case.pattern.lowerCase := beq_iff_eq.mp htrue
    have hnewline : '\n'.toNat < 0x41 := by decide
    rw [span, hcase, ← Text.count_lowerCase hnewline text, heq, Text.count_lowerCase hnewline]
  | errorSentinel => exact absurd hcase hmode

end Script.Case

/-- Where a program that prints lines stands in a script. -/
inductive Stage where
  /-- The input of the next case is to be read, or the terminator behind the last one. -/
  | listening (cases : List Script.Case)
  /-- The output of a case is to be given, of which some lines are there. -/
  | answering (case : Script.Case) (held : List Text) (later : List Script.Case)
  /-- The terminator has been read. -/
  | done
  deriving Repr, DecidableEq

namespace Stage

/-- What a stage waits for. -/
def turn : Stage → Turn
  | listening _ => .awaitingRead
  | answering _ _ _ => .awaitingWrite
  | done => .drained

/-- The lines of an output, each with its line break. -/
def ended (lines : List Text) : Text :=
  lines.flatMap (· ++ ['\n'])

/-- What becomes of a stage when a line is printed; none if the line is refused. -/
def hear (marks : Marks) : Stage → Text → Option Stage
  | listening cases, line =>
    if marks.isChatter line ∨ line = [] ∧ cases = [] then some (listening cases) else none
  | answering case held later, line =>
    if held = [] ∧ marks.isChatter line then some (answering case [] later)
    else if held.length + 1 < case.span then some (answering case (held ++ [line]) later)
    else if case.Accepts (ended held ++ line) then some (listening later)
    else none
  | done, line => if marks.isChatter line ∨ line = [] then some done else none

/-- What becomes of a stage when lines are printed one after the other. -/
def hearAll (marks : Marks) : Stage → List Text → Option Stage
  | stage, [] => some stage
  | stage, line :: rest => (stage.hear marks line).bind fun next ↦ next.hearAll marks rest

/-- No case expects a lone line break. -/
def Sound (cases : List Script.Case) : Prop :=
  ∀ case ∈ cases, case.expectation ≠ loneBreak

/-! ### Lines that are held -/

theorem ended_append (held : List Text) (line : Text) :
    ended (held ++ [line]) = ended held ++ line ++ ['\n'] := by
  simp [ended]

theorem count_ended {held : List Text} (hplain : ∀ line ∈ held, line.Plain) :
    (ended held).count '\n' = held.length := by
  induction held with
  | nil => rfl
  | cons line held ih =>
    obtain ⟨hline, hheld⟩ := List.forall_mem_cons.mp hplain
    rw [ended, List.flatMap_cons, List.count_append, List.count_append, ← ended, ih hheld,
      List.count_eq_zero_of_not_mem hline.1, List.length_cons]
    simp [Nat.add_comm]

theorem count_ended_append {held : List Text} {line : Text} (hplain : ∀ line ∈ held, line.Plain)
    (hline : line.Plain) : (ended held ++ line).count '\n' = held.length := by
  rw [List.count_append, count_ended hplain, List.count_eq_zero_of_not_mem hline.1]
  rfl

theorem return_notMem_ended {held : List Text} (hplain : ∀ line ∈ held, line.Plain) :
    '\r' ∉ ended held := by
  intro hmem
  obtain ⟨line, hline, hreturn⟩ := List.mem_flatMap.mp hmem
  rcases List.mem_append.mp hreturn with hreturn | hreturn
  · exact (hplain line hline).2 hreturn
  · simp at hreturn

theorem return_notMem_ended_append {held : List Text} {line : Text}
    (hplain : ∀ line ∈ held, line.Plain) (hline : line.Plain) : '\r' ∉ ended held ++ line :=
  fun hmem ↦ (List.mem_append.mp hmem).elim (return_notMem_ended hplain) hline.2

/-- Lines are as much chatter as the first of them. -/
theorem isChatter_ended_append {marks : Marks} (hmarks : marks.OneLine) {held : List Text}
    {line : Text} (hfirst : ∀ line ∈ held.head?, marks.isChatter line = false)
    (hline : held = [] → marks.isChatter line = false) :
    marks.isChatter (ended held ++ line) = false := by
  cases held with
  | nil => exact hline rfl
  | cons first held =>
    have hcons : ended (first :: held) ++ line = first ++ '\n' :: (ended held ++ line) := by
      simp [ended]
    rw [hcons, Marks.isChatter_append_newline hmarks]
    exact hfirst first rfl

/-- The bytes that are held back when a line is printed behind lines that are held. -/
theorem encode_ended_append (held : List Text) (line : Text) :
    Text.Utf8.encode (ended held) ++ (Text.Utf8.encode line ++ [newlineByte]) =
      Text.Utf8.encode (ended held ++ line) ++ [newlineByte] := by
  rw [Text.Utf8.encode_append, List.append_assoc]

/-! ### Several lines -/

section HearAll

variable {marks : Marks} {case : Script.Case} {later : List Script.Case}

theorem hearAll_append (marks : Marks) (stage : Stage) (first second : List Text) :
    stage.hearAll marks (first ++ second) =
      (stage.hearAll marks first).bind fun next ↦ next.hearAll marks second := by
  induction first generalizing stage with
  | nil => rfl
  | cons line first ih =>
    simp only [List.cons_append, hearAll, Option.bind_assoc, ih]

/-- Where an input is due, lines change nothing or are refused. -/
theorem hearAll_listening_eq_some_iff {cases : List Script.Case} {lines : List Text}
    {next : Stage} :
    (listening cases).hearAll marks lines = some next ↔
      next = listening cases ∧
        ∀ line ∈ lines, marks.isChatter line = true ∨ line = [] ∧ cases = [] := by
  induction lines with
  | nil => exact ⟨fun h ↦ ⟨(Option.some.inj h).symm, by simp⟩, fun h ↦ congrArg some h.1.symm⟩
  | cons line lines ih =>
    simp only [hearAll, hear, List.forall_mem_cons]
    split_ifs with hheard
    · simp only [Option.bind_some, ih, hheard, true_and]
    · simp [hheard]

/-- In front of an input, only chatter may be printed. -/
theorem hearAll_listening_cons {lines : List Text} :
    (listening (case :: later)).hearAll marks lines = some (listening (case :: later)) ↔
      ∀ line ∈ lines, marks.isChatter line = true := by
  simp [hearAll_listening_eq_some_iff]

/-- Behind the last output it makes no difference whether the terminator has been read. -/
theorem hearAll_done_eq_some_iff {lines : List Text} {next : Stage} :
    done.hearAll marks lines = some next ↔
      next = done ∧ (listening []).hearAll marks lines = some (listening []) := by
  rw [hearAll_listening_eq_some_iff]
  induction lines with
  | nil => exact ⟨fun h ↦ ⟨(Option.some.inj h).symm, rfl, by simp⟩, fun h ↦ congrArg some h.1.symm⟩
  | cons line lines ih =>
    simp only [hearAll, hear, List.forall_mem_cons, true_and, and_true] at ih ⊢
    split_ifs with hheard
    · simp only [Option.bind_some, ih, hheard, true_and]
    · simp [hheard]

/-- Remarks in front of an output leave it due. -/
theorem hearAll_remarks {remarks : List Text}
    (h : ∀ line ∈ remarks, marks.isChatter line = true) :
    (answering case [] later).hearAll marks remarks = some (answering case [] later) := by
  induction remarks with
  | nil => rfl
  | cons line remarks ih =>
    obtain ⟨hline, hremarks⟩ := List.forall_mem_cons.mp h
    rw [hearAll, hear, if_pos ⟨rfl, hline⟩]
    exact ih hremarks

/-- Where an output is due, a line is held, or completes it, or is refused. -/
theorem hear_answering {held : List Text} {line : Text} {next : Stage}
    (h : (answering case held later).hear marks line = some next) :
    next = listening later ∨ ∃ held', next = answering case held' later := by
  simp only [hear] at h
  split_ifs at h
  · exact .inr ⟨[], (Option.some.inj h).symm⟩
  · exact .inr ⟨held ++ [line], (Option.some.inj h).symm⟩
  · exact .inl (Option.some.inj h).symm

theorem hearAll_answering {held : List Text} {lines : List Text} {next : Stage}
    (h : (answering case held later).hearAll marks lines = some next) :
    next = listening later ∨ ∃ held', next = answering case held' later := by
  induction lines generalizing held with
  | nil => exact .inr ⟨held, (Option.some.inj h).symm⟩
  | cons line lines ih =>
    obtain ⟨between, hhear, hrest⟩ := Option.bind_eq_some_iff.mp h
    rcases hear_answering hhear with rfl | ⟨held', rfl⟩
    · exact .inl (hearAll_listening_eq_some_iff.mp hrest).1
    · exact ih hrest

end HearAll

/-! ### A whole dialogue -/

/-- A program that says these lines, given what it has read so far, gives every case its output and
nothing more, and stops only behind the last one. -/
def Attends (marks : Marks) (speak : List Text → List Text) :
    List Text → List Script.Case → Prop
  | _, [] => True
  | heard, case :: later =>
    case.input ≠ terminator ∧
      (answering case [] later).hearAll marks (speak (heard ++ [case.input])) =
        some (listening later) ∧
      Attends marks speak (heard ++ [case.input]) later

end Stage

end Dialogue
