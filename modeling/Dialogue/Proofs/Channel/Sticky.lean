import Dialogue.Proofs.Channel.Order

/-!
# The first refusal

A request that is refused leaves its channel as it was, but for the record of the deviation
(`Transition.after_of_refused`). Behind a record the channel is closed: everything but a note is
refused for the deviation that is recorded, and nothing but a note changes anything
(`Transition.of_failure`). By induction on what is asked later, a closed channel differs from what
it was by the lines that are noted, which stand behind the transcript (`serveAll_of_failure`), and
its answers are all alike (`answer_of_failure`). `refusal_sticks` is this for every channel that is
reached on a script, where the deviation is that of the first refusal of all.
-/

set_option autoImplicit false
set_option relaxedAutoImplicit false

namespace Dialogue.Channel

/-! ### Notes -/

/-- The line that a request notes. -/
def Request.noted? : Request → Option Text
  | note line => some line
  | _ => none

/-- The channel with some lines noted. -/
def noteAll (channel : Channel) (lines : List Text) : Channel :=
  lines.foldl note channel

/-- A note changes the transcript only, and takes no account of a recorded deviation. -/
theorem noteAll_failure (channel : Channel) (failure : Option Deviation) (lines : List Text) :
    { channel with failure := failure }.noteAll lines =
      { channel with
        failure := failure
        transcript := (channel.noteAll lines).transcript } := by
  induction lines generalizing channel with
  | nil => rfl
  | cons line lines ih => exact ih (channel.note line)

/-! ### One request -/

/-- A refusal changes nothing but the record. -/
theorem Transition.after_of_refused {channel after : Channel} {request : Request}
    {deviation : Deviation} (h : channel.Transition request (.refused deviation) after) :
    after = { channel with failure := some deviation } := by
  cases h with
  | repeated hfailure => rw [← hfailure]
  | refused => rfl

/-- Behind a recorded deviation a note is taken, and everything else is refused for that deviation
and changes nothing. -/
theorem Transition.of_failure {channel after : Channel} {request : Request} {answer : Answer}
    {deviation : Deviation} (h : channel.Transition request answer after)
    (hfailure : channel.failure = some deviation) :
    answer = (if request.noted?.isSome then .done else .refused deviation) ∧
      after = channel.noteAll request.noted?.toList := by
  cases h with
  | @repeated _ recorded hrecorded hrequest =>
    obtain rfl : recorded = deviation := Option.some.inj (hrecorded.symm.trans hfailure)
    cases request with
    | note line => exact absurd rfl (hrequest line)
    | read | write | finish => exact ⟨rfl, rfl⟩
  | note => exact ⟨rfl, rfl⟩
  | refused hnone | input hnone | terminator hnone | output hnone | chatter hnone | newline hnone
  | finish hnone =>
    rw [hnone] at hfailure
    contradiction

/-! ### Any requests -/

theorem failure_noteAll (channel : Channel) (lines : List Text) :
    (channel.noteAll lines).failure = channel.failure := by
  induction lines generalizing channel with
  | nil => rfl
  | cons line lines ih => exact ih (channel.note line)

section Failure

variable {channel : Channel} {deviation : Deviation}

/-- Behind a recorded deviation the channel changes by what is noted. -/
theorem serveAll_of_failure (h : channel.failure = some deviation) (requests : List Request) :
    channel.serveAll requests = channel.noteAll (requests.filterMap Request.noted?) := by
  induction requests generalizing channel with
  | nil => rfl
  | cons request rest ih =>
    have hafter := ((transition_serve channel request).of_failure h).2
    have hnoted := (failure_noteAll channel request.noted?.toList).trans h
    rw [serveAll_cons, hafter, ih hnoted, noteAll, noteAll, ← List.foldl_append]
    cases request <;> rfl

/-- Behind a recorded deviation the answers are all alike. -/
theorem answer_of_failure (h : channel.failure = some deviation) {requests : List Request} :
    ∀ exchange ∈ channel.exchanges requests,
      exchange.answer =
        if exchange.request.noted?.isSome then .done else .refused deviation := by
  induction requests generalizing channel with
  | nil => simp [exchanges]
  | cons request rest ih =>
    obtain ⟨hanswer, hafter⟩ := (transition_serve channel request).of_failure h
    have hnoted := (failure_noteAll channel request.noted?.toList).trans h
    rw [exchanges, List.forall_mem_cons]
    exact ⟨hanswer, ih (hafter ▸ hnoted)⟩

end Failure

/-- Failures are atomic and sticky. Whatever was asked of the channel of a script before, a request
that is refused changes neither the counts nor the turn, nor what may follow, nor the transcript: it
only leaves on record the deviation, which is that of the first refusal of all. Whatever is asked
later, everything but a note is refused for the same deviation, and the channel differs from what it
was by that record and by the lines that are noted, behind what the transcript held. -/
theorem refusal_sticks (script : Script) (marks : Marks) (earlier : List Request)
    {request : Request} {deviation : Deviation}
    (hrefused :
      (((start script marks).serveAll earlier).serve request).1 = .refused deviation) :
    let before := (start script marks).serveAll earlier
    let after := (before.serve request).2
    firstRefusal? ((start script marks).exchanges (earlier ++ [request])) = some deviation ∧
      after = { before with failure := some deviation } ∧
      ∀ later : List Request,
        (∀ exchange ∈ after.exchanges later,
          exchange.answer =
            if exchange.request.noted?.isSome then .done else .refused deviation) ∧
        after.serveAll later =
          { before with
            failure := some deviation
            transcript := (before.noteAll (later.filterMap Request.noted?)).transcript } ∧
        before.transcript <+: (after.serveAll later).transcript := by
  intro before after
  have htransition := transition_serve before request
  rw [show (before.serve request).1 = _ from hrefused] at htransition
  have hafter : after = { before with failure := some deviation } := htransition.after_of_refused
  have hfailure : after.failure = some deviation := by rw [hafter]
  refine ⟨?_, hafter, fun later ↦ ⟨answer_of_failure hfailure, ?_, ?_⟩⟩
  · have hrecorded := recorded_serveAll script marks (earlier ++ [request])
    rw [← hrecorded.failure, serveAll_append]
    exact hfailure
  · rw [serveAll_of_failure hfailure, hafter, noteAll_failure]
  · have htranscript : after.transcript = before.transcript := by rw [hafter]
    rw [← htranscript]
    exact transcript_grows_serveAll after later

/-- The wrong answer is held against a program for good, also when the right one follows. -/
theorem refusal_sticks_wrong_sum :
    let script : Script :=
      ⟨none, [.input "add 2 3".toList, .expect "5".toList .exact], List.cons_ne_nil _ _⟩
    let before := (start script Marks.standard).serveAll [.note "Test: sum".toList, .read]
    let wrong : Deviation := .mismatch "5".toList "6".toList
    let after := (before.serve (.write "6".toList)).2
    let later : List Request := [.write "5".toList, .note "late".toList, .read, .finish]
    (before.serve (.write "6".toList)).1 = .refused wrong ∧
      after = { before with failure := some wrong } ∧
      (after.exchanges later).map Exchange.answer =
        [.refused wrong, .done, .refused wrong, .refused wrong] ∧
      (after.serveAll later).transcript = "Test: sum\nlate\n".toList := by
  intro script before wrong after later
  have hrefused : (before.serve (.write "6".toList)).1 = .refused wrong := by decide +kernel
  obtain ⟨-, hafter, hlater⟩ :=
    refusal_sticks script Marks.standard [.note "Test: sum".toList, .read] hrefused
  obtain ⟨-, hfinal, -⟩ := hlater later
  refine ⟨hrefused, hafter, by decide +kernel, ?_⟩
  rw [show after.serveAll later = _ from hfinal]
  decide +kernel

end Dialogue.Channel
