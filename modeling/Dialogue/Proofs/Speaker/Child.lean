import Dialogue.Proofs.Peer.Passed
import Dialogue.Proofs.Speaker.InProcess

/-!
# Speaking from outside of the harness

A program that speaks line by line may also run as a process of its own (`Peer.speaking`). It does
not notice what the harness waits for: what it says is queued until an output is due, so lines that
are said too early meet a later output (`exists_converses_answering`). A conversation that ends well
(`Peer.EndsWell`) therefore says less than a run inside the harness. It says the same if the process
is timely, that is, if nothing but chatter is queued whenever an input is sent. Then each input is
answered by what the process says to it and nothing else (`exists_converses_input`), and by
induction on the cases so is the whole script (`exists_converses_listening`,
`passes_play_speaking_iff`).
-/

set_option autoImplicit false
set_option relaxedAutoImplicit false

namespace Dialogue

/-- Where a process stands that speaks line by line. -/
structure Peer.Speech where
  /-- What it has read. -/
  heard : List Text
  /-- What it has said and nobody has received yet. -/
  waiting : List Text
  /-- The terminator has been read. -/
  stopped : Bool
  deriving Repr, DecidableEq

/-- A process that says lines, given what it has read so far, reads the next line and starts again,
until it reads the terminator. It takes every line. What it says arrives at once and in order, and
it exits in time. -/
def Peer.speaking (speak : List Text → List Text) : Peer where
  State := Speech
  initial := ⟨[], speak [], false⟩
  send line speech :=
    (true,
      if speech.stopped then speech
      else if line = terminator then { speech with stopped := true }
      else
        let heard := speech.heard ++ [line]
        ⟨heard, speech.waiting ++ speak heard, false⟩)
  receive speech :=
    match speech.waiting with
    | line :: rest => (.line line, { speech with waiting := rest })
    | [] => (if speech.stopped then .closed else .silence, speech)
  close speech := (true, speech.waiting.map some)
  ahead speech := speech.waiting.length
  ahead_receive_lt := by
    rintro ⟨heard, waiting, stopped⟩ after text h
    cases waiting with
    | nil => cases stopped <;> simp at h
    | cons line rest =>
      simp only [Prod.mk.injEq] at h
      simp [← h.2]

/-- A program that speaks line by line and runs as a process of its own. -/
def Program.speakingApart (name : Text) (limit : Duration) (speak : List Text → List Text) :
    Program :=
  .ofPeer name limit fun _ ↦ .ok (Peer.speaking speak)

namespace Peer

open Run (Passes)

section Send

variable (speak : List Text → List Text)

theorem send_terminator {line : Text} (heard waiting : List Text) (h : line = terminator) :
    (speaking speak).send line (Speech.mk heard waiting false) =
      (true, Speech.mk heard waiting true) := by
  subst h
  rfl

theorem send_input {line : Text} (heard waiting : List Text) (h : line ≠ terminator) :
    (speaking speak).send line (Speech.mk heard waiting false) =
      (true, Speech.mk (heard ++ [line]) (waiting ++ speak (heard ++ [line])) false) := by
  simp [speaking, h]

end Send

/-! ### Conversations that end well -/

/-- A conversation ends without a fault, the process exits in time, what is left over is passed on,
and then nothing is missing. -/
def EndsWell (peer : Peer) (result : Option Fault × Console × peer.State) : Prop :=
  result.1 = none ∧ (peer.close result.2.2).1 = true ∧
    ∃ last, passOn result.2.1 (peer.close result.2.2).2 = (none, last) ∧ Passes (.returned, last)

/-- A process passes exactly if the clock can wait for its exit and the conversation with it ends
well. -/
theorem passes_play_iff {peer : Peer} {limit : Duration} {console : Console} :
    Passes (peer.play limit console) ↔
      limit.nanoseconds < clockLimit * 1000000000 ∧
        peer.EndsWell (peer.converse limit console peer.initial) := by
  constructor
  · intro hpasses
    rcases hplay : peer.play limit console with ⟨ending, last⟩
    rw [hplay] at hpasses
    obtain ⟨rfl, -⟩ := Run.judge_of_passed hpasses
    obtain ⟨hlimit, after, state, hconverse, hclose, hpass⟩ := play_eq_returned_iff.mp hplay
    rw [hconverse]
    exact ⟨hlimit, rfl, hclose, last, hpass, hpasses⟩
  · rintro ⟨hlimit, hnone, hclose, last, hpass, hpasses⟩
    have hplay := play_eq_returned_iff.mpr ⟨hlimit, _, _, Prod.ext hnone rfl, hclose, hpass⟩
    rwa [hplay]

/-- Passing on lines is printing them. -/
theorem passOn_map_some (console : Console) (lines : List Text) :
    passOn console (lines.map some) =
      match console.printAll lines with
      | (.error deviation, after) => (some (.deviation deviation), after)
      | (.ok (), after) => (none, after) := by
  induction lines generalizing console with
  | nil => rfl
  | cons line lines ih =>
    rw [List.map_cons, passOn, Console.printAll]
    rcases console.printLine line with ⟨deviation | _, after⟩
    · rfl
    · exact ih after

/-! ### Timeliness -/

/-- Whenever one of the first inputs is sent, nothing but chatter is queued. -/
def Timely (marks : Marks) (inputs : Nat) (moments : List (Moment Speech)) : Prop :=
  ∀ moment ∈ (moments.filter (·.sending?.isSome)).take inputs,
    ∀ line ∈ moment.state.waiting, marks.isChatter line = true

section Timely

variable {marks : Marks} {inputs : Nat} {moment : Moment Speech} {moments : List (Moment Speech)}

theorem timely_cons (hsending : moment.sending?.isSome = true) :
    Timely marks (inputs + 1) (moment :: moments) ↔
      (∀ line ∈ moment.state.waiting, marks.isChatter line = true) ∧
        Timely marks inputs moments := by
  have hfilter : (moment :: moments).filter (·.sending?.isSome) =
      moment :: moments.filter (·.sending?.isSome) := List.filter_cons_of_pos hsending
  rw [Timely, hfilter, List.take_succ_cons, List.forall_mem_cons, Timely]

/-- What is received in between makes no difference. -/
theorem timely_append {received : List (Moment Speech)}
    (hreceived : ∀ moment ∈ received, moment.sending? = none) :
    Timely marks inputs (received ++ moments) ↔ Timely marks inputs moments := by
  have hfilter : received.filter (·.sending?.isSome) = [] :=
    List.filter_eq_nil_iff.mpr fun moment hmem ↦ by simp [hreceived moment hmem]
  rw [Timely, List.filter_append, hfilter, List.nil_append, Timely]

end Timely

/-! ### What is left over -/

section LeftOver

variable {script : Script} {marks : Marks} {speak : List Text → List Text} {console : Console}
  {heard waiting : List Text}

/-- Behind the terminator the conversation ends well if the lines that are queued are heard. -/
theorem endsWell_iff_of_done (hmarks : marks.OneLine) (h : Stage.done.At script marks console)
    (hwaiting : ∀ line ∈ waiting, line.Plain) :
    (speaking speak).EndsWell (none, console, ⟨heard, waiting, true⟩) ↔
      Stage.done.hearAll marks waiting = some .done := by
  have hpass := passOn_map_some console waiting
  cases hhear : Stage.done.hearAll marks waiting with
  | none =>
    obtain ⟨deviation, after, hprint⟩ := h.printAll_of_none hmarks hwaiting hhear
    rw [hprint] at hpass
    refine iff_of_false ?_ (by simp)
    rintro ⟨-, -, last, hlast, -⟩
    exact absurd (congrArg Prod.fst (hpass.symm.trans hlast)) (by simp)
  | some next =>
    obtain ⟨after, hprint, hafter⟩ := h.printAll_of_some hmarks hwaiting hhear
    obtain ⟨rfl, -⟩ := Stage.hearAll_done_eq_some_iff.mp hhear
    rw [hprint] at hpass
    exact iff_of_true ⟨rfl, rfl, after, hpass, Run.passes_of_done hafter⟩ rfl

/-- Nothing ends well while an output is due and nothing is queued. -/
theorem not_endsWell_of_answering (hmarks : marks.OneLine) {case : Script.Case}
    {held : List Text} {later : List Script.Case}
    (h : (Stage.answering case held later).At script marks console) (stopped : Bool) :
    ¬(speaking speak).EndsWell (none, console, ⟨heard, [], stopped⟩) := by
  rintro ⟨-, -, last, hlast, hpasses⟩
  obtain ⟨-, rfl⟩ := Prod.mk.inj hlast
  exact Run.not_passes_of_answering hmarks h hpasses

end LeftOver

/-! ### Answers -/

section Answers

variable {script : Script} {marks : Marks} {console : Console} {waiting : List Text}
  (speak : List Text → List Text) (limit : Duration) (heard : List Text) (stopped : Bool)

/-- Where an output is due, lines are received until it is there, and the others stay queued; or it
is never there, and the conversation does not end well. -/
theorem exists_converses_answering (hmarks : marks.OneLine) {case : Script.Case}
    {held : List Text} {later : List Script.Case}
    (h : (Stage.answering case held later).At script marks console)
    (hwaiting : ∀ line ∈ waiting, line.Plain) :
    (∃ received after left,
      (speaking speak).Leads console (Speech.mk heard waiting stopped) received after
        (Speech.mk heard left stopped) ∧
      (Stage.listening later).At script marks after ∧
      (∀ moment ∈ received, moment.sending? = none) ∧ left <:+ waiting ∧
      (Stage.answering case held later).hearAll marks waiting =
        (Stage.listening later).hearAll marks left) ∨
    (∃ moments result,
      (speaking speak).Converses limit console (Speech.mk heard waiting stopped) moments result ∧
      ¬(speaking speak).EndsWell result ∧
      (Stage.answering case held later).hearAll marks waiting ≠ some (.listening later)) := by
  induction waiting generalizing held console with
  | nil =>
    refine .inr ?_
    have hnever : (Stage.answering case held later).hearAll marks [] ≠ some (.listening later) := by
      simp [Stage.hearAll]
    cases stopped with
    | false =>
      refine ⟨_, _, .ends (.silence h.turn_eq rfl), fun hends ↦ ?_, hnever⟩
      exact absurd hends.1 (by simp)
    | true =>
      exact ⟨_, _, .ends (.closed h.turn_eq rfl), not_endsWell_of_answering hmarks h true, hnever⟩
  | cons line waiting ih =>
    obtain ⟨hline, hlater⟩ := List.forall_mem_cons.mp hwaiting
    have hreceive : (speaking speak).receive (Speech.mk heard (line :: waiting) stopped) =
        (.line line, Speech.mk heard waiting stopped) := rfl
    cases hhear : (Stage.answering case held later).hear marks line with
    | none =>
      obtain ⟨deviation, after, hprint⟩ := h.printLine_of_none hmarks hline hhear
      refine .inr ⟨_, _, .ends (.refusedLine h.turn_eq hreceive hprint), fun hends ↦ ?_, ?_⟩
      · exact absurd hends.1 (by simp)
      · simp [Stage.hearAll, hhear]
    | some next =>
      have hall : (Stage.answering case held later).hearAll marks (line :: waiting) =
          next.hearAll marks waiting := by
        rw [Stage.hearAll, hhear, Option.bind_some]
      obtain ⟨between, hprint, hbetween⟩ := h.printLine_of_some hmarks hline hhear
      have hstep := GoesOn.passedOn h.turn_eq hreceive hprint
      rcases Stage.hear_answering hhear with rfl | ⟨held', rfl⟩
      · refine .inl ⟨_, between, waiting, .goesOn hstep .here, hbetween, ?_,
          List.suffix_cons line waiting, hall⟩
        exact List.forall_mem_singleton.mpr rfl
      · rcases ih hbetween hlater with
          ⟨received, after, left, hleads, hafter, hreceived, hleft, hheard⟩ |
          ⟨moments, result, hconverses, hends, hnever⟩
        · refine .inl ⟨_, after, left, .goesOn hstep hleads, hafter, ?_,
            hleft.trans (List.suffix_cons line waiting), hall.trans hheard⟩
          exact List.forall_mem_cons.mpr ⟨rfl, hreceived⟩
        · exact .inr ⟨_, result, .goesOn hstep hconverses, hends, hall ▸ hnever⟩

end Answers

/-! ### Whole conversations -/

section Conversation

variable {script : Script} {marks : Marks} {case : Script.Case} {cases later : List Script.Case}
  {console : Console} {waiting : List Text} (speak : List Text → List Text) (limit : Duration)
  (heard : List Text)

/-- An input that is sent while more than chatter is queued makes the conversation untimely,
whatever comes then. -/
theorem exists_converses_untimely
    (h : (Stage.listening (case :: later)).At script marks console)
    (huntimely : ¬∀ line ∈ waiting, marks.isChatter line = true) :
    ∃ moments result,
      (speaking speak).Converses limit console (Speech.mk heard waiting false) moments result ∧
      ¬Timely marks (later.length + 1) moments := by
  obtain ⟨after, hread, -⟩ := h.readLine_case
  obtain ⟨next, hsend⟩ : ∃ next, (speaking speak).send case.input (Speech.mk heard waiting false) =
    (true, next) := ⟨_, rfl⟩
  have hstep := GoesOn.sent h.turn_eq hread hsend fun _ ↦ rfl
  obtain ⟨moments, hlater⟩ := exists_converses (speaking speak) limit after _
  exact ⟨_, _, .goesOn hstep hlater, fun htimely ↦ huntimely ((timely_cons rfl).mp htimely).1⟩

/-- A process that takes an input for the terminator does not answer it. -/
theorem exists_converses_stopped (hmarks : marks.OneLine)
    (h : (Stage.listening (case :: later)).At script marks console)
    (hwaiting : ∀ line ∈ waiting, line.Plain)
    (hchatter : ∀ line ∈ waiting, marks.isChatter line = true) (hend : case.input = terminator) :
    ∃ moments result,
      (speaking speak).Converses limit console (Speech.mk heard waiting false) moments result ∧
      ¬(speaking speak).EndsWell result := by
  obtain ⟨after, hread, hafter⟩ := h.readLine_case
  have hstep := GoesOn.sent h.turn_eq hread (send_terminator speak heard waiting hend)
    fun _ ↦ rfl
  rcases exists_converses_answering speak limit heard true hmarks hafter hwaiting with
    ⟨received, last, left, -, -, -, -, hheard⟩ | ⟨moments, result, hlater, hwell, -⟩
  · rw [Stage.hearAll_remarks hchatter] at hheard
    exact absurd (Stage.hearAll_listening_eq_some_iff.mp hheard.symm).1 (by simp)
  · exact ⟨_, result, .goesOn hstep hlater, hwell⟩

/-- An input that is sent in time is answered by what the process says to it alone. Either that is
the answer, and what stands behind it stays queued, or the conversation does not end well. -/
theorem exists_converses_input (hmarks : marks.OneLine)
    (h : (Stage.listening (case :: later)).At script marks console)
    (hplain : ∀ line ∈ waiting ++ speak (heard ++ [case.input]), line.Plain)
    (hchatter : ∀ line ∈ waiting, marks.isChatter line = true) (hinput : case.input ≠ terminator) :
    (∃ received after left,
      (speaking speak).Leads console (Speech.mk heard waiting false)
        (⟨Speech.mk heard waiting false, .sent case.input true⟩ :: received) after
        (Speech.mk (heard ++ [case.input]) left false) ∧
      (Stage.listening later).At script marks after ∧
      (∀ moment ∈ received, moment.sending? = none) ∧ (∀ line ∈ left, line.Plain) ∧
      (Stage.answering case [] later).hearAll marks (speak (heard ++ [case.input])) =
        (Stage.listening later).hearAll marks left) ∨
    (∃ moments result,
      (speaking speak).Converses limit console (Speech.mk heard waiting false) moments result ∧
      ¬(speaking speak).EndsWell result ∧
      (Stage.answering case [] later).hearAll marks (speak (heard ++ [case.input])) ≠
        some (.listening later)) := by
  obtain ⟨after, hread, hafter⟩ := h.readLine_case
  have hstep := GoesOn.sent h.turn_eq hread (send_input speak heard waiting hinput) fun _ ↦ rfl
  -- The remarks that are queued already leave the output due.
  have hanswer : (Stage.answering case [] later).hearAll marks
      (waiting ++ speak (heard ++ [case.input])) =
      (Stage.answering case [] later).hearAll marks (speak (heard ++ [case.input])) := by
    rw [Stage.hearAll_append, Stage.hearAll_remarks hchatter, Option.bind_some]
  rcases exists_converses_answering speak limit (heard ++ [case.input]) false hmarks hafter
      hplain with
    ⟨received, last, left, hleads, hlast, hreceived, hleft, hheard⟩ |
    ⟨moments, result, hlater, hwell, hnever⟩
  · exact .inl ⟨received, last, left, .goesOn hstep hleads, hlast, hreceived,
      fun line hmem ↦ hplain line (hleft.subset hmem), hanswer.symm.trans hheard⟩
  · exact .inr ⟨_, result, .goesOn hstep hlater, hwell, hanswer ▸ hnever⟩

/-- Where an input is due, the conversation ends well and is timely exactly if what is queued is
heard there and the process attends to the cases that are left. -/
theorem exists_converses_listening (hmarks : marks.OneLine)
    (hplain : ∀ heard, ∀ line ∈ speak heard, line.Plain) (hwaiting : ∀ line ∈ waiting, line.Plain)
    (h : (Stage.listening cases).At script marks console) :
    ∃ moments result,
      (speaking speak).Converses limit console (Speech.mk heard waiting false) moments result ∧
      ((speaking speak).EndsWell result ∧ Timely marks cases.length moments ↔
        (Stage.listening cases).hearAll marks waiting = some (.listening cases) ∧
          Stage.Attends marks speak heard cases) := by
  induction cases generalizing console heard waiting with
  | nil =>
    obtain ⟨after, hread, hafter⟩ := h.readLine_terminator
    have hstep := GoesOn.sent h.turn_eq hread (send_terminator speak heard waiting rfl) fun _ ↦ rfl
    refine ⟨_, _, .goesOn hstep (.ends (.drained hafter.turn_eq)), ?_⟩
    rw [endsWell_iff_of_done hmarks hafter hwaiting, Stage.hearAll_done_eq_some_iff]
    simp [Timely, Stage.Attends]
  | cons case later ih =>
    by_cases hchatter : ∀ line ∈ waiting, marks.isChatter line = true
    swap
    · obtain ⟨moments, result, hconverses, huntimely⟩ :=
        exists_converses_untimely speak limit heard h hchatter
      exact ⟨moments, result, hconverses, iff_of_false (fun hwell ↦ huntimely hwell.2)
        fun hheard ↦ hchatter (Stage.hearAll_listening_cons.mp hheard.1)⟩
    by_cases hinput : case.input = terminator
    · obtain ⟨moments, result, hconverses, hwell⟩ :=
        exists_converses_stopped speak limit heard hmarks h hwaiting hchatter hinput
      exact ⟨moments, result, hconverses, iff_of_false (fun h ↦ hwell h.1) fun h ↦ h.2.1 hinput⟩
    have hqueued := List.forall_mem_append.mpr ⟨hwaiting, hplain (heard ++ [case.input])⟩
    rcases exists_converses_input speak limit heard hmarks h hqueued hchatter hinput with
      ⟨received, last, left, hleads, hlast, hreceived, hleft, hanswer⟩ |
      ⟨moments, result, hconverses, hwell, hnever⟩
    · obtain ⟨moments, result, hlater, hiff⟩ := ih (heard ++ [case.input]) hleft hlast
      rw [← hanswer] at hiff
      refine ⟨_, result, hleads.converses hlater, fun ⟨hwell, hsent⟩ ↦ ?_,
        fun ⟨_, _, hattends⟩ ↦ ?_⟩
      · have hrest := (timely_append hreceived).mp ((timely_cons rfl).mp hsent).2
        exact ⟨Stage.hearAll_listening_cons.mpr hchatter, hinput, hiff.mp ⟨hwell, hrest⟩⟩
      · obtain ⟨hwell, hrest⟩ := hiff.mpr hattends
        exact ⟨hwell, (timely_cons rfl).mpr ⟨hchatter, (timely_append hreceived).mpr hrest⟩⟩
    · exact ⟨moments, result, hconverses, iff_of_false (fun h ↦ hwell h.1)
        fun h ↦ hnever h.2.2.1⟩

/-- A process passes and is timely exactly if the clock can wait for its exit, what it says first is
heard where the first input is due, and it attends to all cases. -/
theorem passes_play_speaking_iff {speak : List Text → List Text} {limit : Duration}
    (hmarks : marks.OneLine) (hplain : ∀ heard, ∀ line ∈ speak heard, line.Plain)
    (h : (Stage.listening cases).At script marks console) :
    Passes ((speaking speak).play limit console) ∧
        Timely marks cases.length ((speaking speak).moments limit console) ↔
      limit.nanoseconds < clockLimit * 1000000000 ∧
        (Stage.listening cases).hearAll marks (speak []) = some (.listening cases) ∧
          Stage.Attends marks speak [] cases := by
  obtain ⟨moments, result, hconverses, hiff⟩ :=
    exists_converses_listening speak limit [] hmarks hplain (hplain []) h
  obtain ⟨rfl, rfl⟩ := converses_iff.mp hconverses
  rw [passes_play_iff, and_assoc]
  exact and_congr_right fun _ ↦ hiff

end Conversation

end Peer

end Dialogue
