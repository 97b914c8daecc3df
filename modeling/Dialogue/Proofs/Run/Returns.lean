import Dialogue.Proofs.Console.Returns
import Dialogue.Proofs.Run.Faithful
import Dialogue.Proofs.Run.Splitting

/-!
# Programs that write carriage returns

A program that writes a carriage return in front of every line feed (`Behaviour.withReturns`) is
judged like the program that writes the line feeds alone. At consoles that differ in the same way
every action of the one has the same reply as that of the other, so the two programs take the same
way and end alike (`Behaviour.run_withReturns`), and leave the same channel behind
(`finalState_withReturns`). `returns_transparent` states it for any actions and for programs.
-/

set_option autoImplicit false
set_option relaxedAutoImplicit false

namespace Dialogue

open Console (Action)

namespace Behaviour

/-- The program with a carriage return in front of every line feed that it writes. -/
def withReturns : Behaviour → Behaviour
  | stop ending => stop ending
  | act action next => act action.withReturns fun reply ↦ (next reply).withReturns

/-- Both programs end alike, and what is held back then differs by carriage returns. -/
theorem run_withReturns (behaviour : Behaviour) {console : Console} (h : console.Unreturned)
    (hactions : ∀ action ∈ behaviour.actions console, returnByte ∉ action.bytes) :
    behaviour.withReturns.run console.withReturns =
        ((behaviour.run console).1, (behaviour.run console).2.withReturns) ∧
      (behaviour.run console).2.Unreturned := by
  induction behaviour generalizing console with
  | stop ending => exact ⟨rfl, h⟩
  | act action next ih =>
    obtain ⟨hbytes, hrest⟩ := List.forall_mem_cons.mp hactions
    rw [withReturns, run, h.perform_withReturns hbytes]
    exact ih _ (h.perform hbytes) hrest

end Behaviour

namespace Run

/-- Both programs leave the same channel when all that they held back has gone out. -/
theorem finalState_withReturns (name opening : Text) {behaviour : List Text → Behaviour}
    {script : Script} {marks : Marks} (hmarks : marks.Unbroken)
    (hactions : ∀ action ∈ (behaviour script.argumentList).actions
      (Console.opened (openChannel script marks opening)), returnByte ∉ action.bytes) :
    finalState (Program.ofBehaviour name fun arguments ↦ (behaviour arguments).withReturns) script
        marks opening =
      finalState (Program.ofBehaviour name behaviour) script marks opening := by
  have hopened : (Console.opened (openChannel script marks opening)).Unreturned :=
    ⟨hmarks, List.not_mem_nil⟩
  obtain ⟨hrun, hlast⟩ := (behaviour script.argumentList).run_withReturns hopened hactions
  change (_, _) = (_, _)
  have hsame : (Console.opened (openChannel script marks opening)).withReturns =
      Console.opened (openChannel script marks opening) := rfl
  rw [hsame] at hrun
  simp only [Program.ofBehaviour, hrun, hlast.emitAll]
  rfl

/-- Programs end lines with a carriage return and a line feed, or with the line feed alone, and it
makes no difference. Whatever the channel has been through, if no mark holds a line feed or a
carriage return, and for any actions that write no carriage return: with a carriage return in front
of every line feed that is written, each action has the same reply and leaves the same channel
behind it, with its counts and its turn, its transcript and the deviation on record. So the report
on a program and its log are the same as well. -/
theorem returns_transparent :
    (∀ (channel : Channel) (actions : List Action), channel.marks.Unbroken →
      (∀ action ∈ actions, returnByte ∉ action.bytes) →
        (Console.opened channel).observe (actions.map Action.withReturns) =
          (Console.opened channel).observe actions) ∧
    ∀ (host : Host) (name : Text) (behaviour : List Text → Behaviour) (path : Path)
      (script : Script) (options : Options), options.marks.Unbroken →
      (∀ action ∈ (behaviour script.argumentList).actions
        (Console.opened (openChannel script options.marks path.displayName)),
        returnByte ∉ action.bytes) →
        logged host (Program.ofBehaviour name fun arguments ↦ (behaviour arguments).withReturns)
            path script options =
          logged host (Program.ofBehaviour name behaviour) path script options := by
  refine ⟨fun channel actions hmarks hactions ↦ ?_,
    fun host name behaviour path script options hmarks hactions ↦ ?_⟩
  · have hopened : (Console.opened channel).Unreturned := ⟨hmarks, List.not_mem_nil⟩
    exact hopened.observe_withReturns hactions
  · have hfinal := finalState_withReturns name path.displayName hmarks hactions
    have hreport :
        Run.script (Program.ofBehaviour name fun arguments ↦ (behaviour arguments).withReturns)
            path script options.marks =
          Run.script (Program.ofBehaviour name behaviour) path script options.marks :=
      script_eq_of_judge_eq (by rw [hfinal])
    rw [logged, logged, hreport]

/-- An output of two lines whose second one has no line break yet when a line is read: the carriage
return inside is held back with it, and goes out unified. -/
theorem returns_transparent_two_lines :
    let script : Script :=
      ⟨none, [.input "x".toList, .expect "a\nb".toList .exact], List.cons_ne_nil _ _⟩
    let console := Console.opened (Channel.start script Marks.standard)
    let actions : List Action := [.read, .printLine "a".toList, .write [98], .read]
    let behaviour := fun _ : List Text ↦ Behaviour.follow (actions.map (.act · false))
    let report (behaviour : List Text → Behaviour) :=
      (logged default (Program.ofBehaviour [] behaviour) default script ⟨Marks.standard, none⟩).1
    actions.map Action.withReturns = [.read, .write [97, 13, 10], .write [98], .read] ∧
      console.observe (actions.map Action.withReturns) = console.observe actions ∧
      (console.observe actions).map (fun (reply, channel) ↦ (reply, channel.outputsMatched)) =
        [(.line "x".toList, 0), (.done, 0), (.done, 0), (.line "quit".toList, 1)] ∧
      report (fun arguments ↦ (behaviour arguments).withReturns) = report behaviour ∧
      (report behaviour).outcome = .passed := by
  intro script console actions behaviour report
  obtain ⟨hobserve, hreport⟩ := returns_transparent
  have hmarks : Marks.standard.Unbroken := by decide
  have hbytes : ∀ action ∈ actions, returnByte ∉ action.bytes := by decide +kernel
  have hwritten : ∀ action ∈ (behaviour script.argumentList).actions (Console.opened
      (openChannel script Marks.standard (default : Path).displayName)),
      returnByte ∉ action.bytes := by
    decide +kernel
  exact ⟨by decide +kernel, hobserve (Channel.start script Marks.standard) actions hmarks hbytes,
    by decide +kernel, congrArg Prod.fst
      (hreport default [] behaviour default script ⟨Marks.standard, none⟩ hmarks hwritten),
    by decide +kernel⟩

end Run

end Dialogue
