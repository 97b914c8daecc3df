import Dialogue.Proofs.Console.Request

/-!
# After a refusal

A channel that has refused something changes no more, whatever is done at its console
(`channel_perform_of_failure`, `channel_run_of_failure`): it answers every request with the
deviation that it recorded. Conversely, what a console refuses is recorded on its channel
(`failure_of_drain`, `failure_of_perform`). So from the first refusal on, it makes no difference to
the channel what a program does.
-/

set_option autoImplicit false
set_option relaxedAutoImplicit false

namespace Dialogue

namespace Channel

/-! ### What is recorded -/

/-- A refusal is recorded. -/
theorem Transition.failure_of_refused {channel after : Channel} {request : Request}
    {deviation : Deviation} (h : channel.Transition request (.refused deviation) after) :
    after.failure = some deviation := by
  cases h with
  | repeated hfailure => exact hfailure
  | refused => rfl

/-- What is recorded stays recorded. -/
theorem Transition.failure_of_failure {channel after : Channel} {request : Request}
    {answer : Answer} {deviation : Deviation} (h : channel.Transition request answer after)
    (hfailure : channel.failure = some deviation) : after.failure = some deviation := by
  cases h with
  | repeated | note => exact hfailure
  | refused hnone | input hnone | terminator hnone | output hnone | chatter hnone | newline hnone
  | finish hnone =>
    rw [hnone] at hfailure
    contradiction

/-- Nothing is recorded without a refusal. -/
theorem Transition.failure_of_granted {channel after : Channel} {request : Request}
    {answer : Answer} (h : channel.Transition request answer after)
    (hfailure : channel.failure = none) (hanswer : answer.refusal? = none) :
    after.failure = none := by
  cases h with
  | repeated | refused => contradiction
  | input | terminator | output | chatter | newline | note | finish => exact hfailure

/-- The marks of chatter stay as they were chosen. -/
theorem Transition.marks_eq {channel after : Channel} {request : Request} {answer : Answer}
    (h : channel.Transition request answer after) : after.marks = channel.marks := by
  cases h <;> rfl

theorem marks_serveAll (channel : Channel) (requests : List Request) :
    (channel.serveAll requests).marks = channel.marks := by
  induction requests generalizing channel with
  | nil => rfl
  | cons request rest ih =>
    rw [serveAll_cons, ih]
    exact (transition_serve channel request).marks_eq

theorem failure_serveAll_of_failure {channel : Channel} {deviation : Deviation}
    (h : channel.failure = some deviation) (requests : List Request) :
    (channel.serveAll requests).failure = some deviation := by
  induction requests generalizing channel with
  | nil => exact h
  | cons request rest ih => exact ih ((transition_serve channel request).failure_of_failure h)

/-- The first refusal of some requests is recorded behind them. -/
theorem failure_serveAll_of_refusal {channel : Channel} {requests : List Request}
    {deviation : Deviation} (h : firstRefusal? (channel.exchanges requests) = some deviation) :
    (channel.serveAll requests).failure = some deviation := by
  induction requests generalizing channel with
  | nil => contradiction
  | cons request rest ih =>
    have htransition := transition_serve channel request
    rw [exchanges, firstRefusal?, List.findSome?_cons] at h
    cases hanswer : (channel.serve request).1 with
    | refused refused =>
      simp only [exchange, hanswer, Answer.refusal?, Option.some.injEq] at h
      subst h
      rw [hanswer] at htransition
      exact failure_serveAll_of_failure htransition.failure_of_refused rest
    | line | done =>
      simp only [exchange, hanswer, Answer.refusal?] at h
      exact ih h

/-- If all requests are granted, nothing is recorded behind them. -/
theorem failure_serveAll_of_granted {channel : Channel} {requests : List Request}
    (hfailure : channel.failure = none) (h : firstRefusal? (channel.exchanges requests) = none) :
    (channel.serveAll requests).failure = none := by
  induction requests generalizing channel with
  | nil => exact hfailure
  | cons request rest ih =>
    rw [firstRefusal?_eq_none_iff, exchanges, List.forall_mem_cons] at h
    obtain ⟨hanswer, hrest⟩ := h
    have hafter := (transition_serve channel request).failure_of_granted hfailure hanswer
    exact ih hafter (firstRefusal?_eq_none_iff.mpr hrest)

namespace Makes

variable {α : Type} {channel after : Channel} {requests : List Request}

theorem failure_eq_none {value : α} (h : channel.Makes requests (.ok value) after)
    (hfailure : channel.failure = none) : after.failure = none := by
  rw [← h.after_eq]
  exact failure_serveAll_of_granted hfailure h.refusal

theorem marks_eq {result : Except Deviation α} (h : channel.Makes requests result after) :
    after.marks = channel.marks := by
  rw [← h.after_eq, marks_serveAll]

theorem failure_eq {deviation : Deviation}
    (h : channel.Makes requests (.error deviation : Except Deviation α) after) :
    after.failure = some deviation := by
  rw [← h.after_eq]
  exact failure_serveAll_of_refusal h.refusal

end Makes

theorem failure_of_write {channel after : Channel} {text : Text} {deviation : Deviation}
    (h : channel.write text = (.error deviation, after)) : after.failure = some deviation := by
  have hmakes := channel.makes_write text
  rw [h] at hmakes
  exact hmakes.failure_eq

/-- What is refused of some bytes is recorded. -/
theorem failure_of_drain {channel : Channel} {bytes : List UInt8} {deviation : Deviation}
    {after : Console} (h : channel.drain bytes = (.error deviation, after)) :
    after.channel.failure = some deviation := by
  have hmakes := channel.makes_drain bytes
  rw [h] at hmakes
  exact hmakes.failure_eq

/-! ### What changes no more -/

section Failure

variable {channel : Channel} {deviation : Deviation}

theorem write_of_failure (h : channel.failure = some deviation) (text : Text) :
    channel.write text = (.error deviation, channel) := by
  rw [write, h]

theorem read_of_failure (h : channel.failure = some deviation) :
    channel.read = (.error deviation, channel) := by
  rw [read, h]

theorem writeLine_of_failure (h : channel.failure = some deviation) (line : List UInt8) :
    channel.writeLine line = (.error deviation, channel) := by
  simp only [writeLine, write_of_failure h, ite_self]

theorem channel_drain_of_failure (h : channel.failure = some deviation) (bytes : List UInt8) :
    (channel.drain bytes).2.channel = channel := by
  rw [drain]
  split
  · rfl
  · rw [writeLine_of_failure h]

end Failure

end Channel

/-! ### At the console -/

namespace Console

variable {console : Console} {deviation : Deviation}

theorem channel_emitPartial_of_failure (h : console.channel.failure = some deviation) :
    console.emitPartial.2.channel = console.channel := by
  simp only [emitPartial]
  split
  · rfl
  · rw [Channel.write_of_failure h]

theorem channel_emitAll_of_failure (h : console.channel.failure = some deviation) :
    console.emitAll.2.channel = console.channel := by
  have hdrain := Channel.channel_drain_of_failure h console.pending
  change console.drain.2.channel = console.channel at hdrain
  simp only [emitAll]
  rcases hresult : console.drain with ⟨refused | _, after⟩
  · rw [hresult] at hdrain
    exact hdrain
  · rw [hresult] at hdrain
    dsimp only at hdrain ⊢
    have hafter : after.channel.failure = some deviation := hdrain ▸ h
    split
    · exact hdrain
    · rw [Channel.writeLine_of_failure hafter, Channel.write_of_failure hafter, ite_self]
      exact hdrain

theorem channel_readLine_of_failure (h : console.channel.failure = some deviation) :
    console.readLine.2.channel = console.channel := by
  have hemit := channel_emitAll_of_failure h
  simp only [readLine]
  rcases hresult : console.emitAll with ⟨refused | _, after⟩
  · rw [hresult] at hemit
    exact hemit
  · rw [hresult] at hemit
    have hafter : after.channel.failure = some deviation := by
      rw [hemit]
      exact h
    dsimp only at hemit ⊢
    rw [Channel.read_of_failure hafter, ← hemit]

theorem channel_offer_of_failure (h : console.channel.failure = some deviation)
    (bytes : List UInt8) : (console.offer bytes).2.channel = console.channel :=
  Channel.channel_drain_of_failure h _

/-- Once something has been refused, no action changes the channel. -/
theorem channel_perform_of_failure (h : console.channel.failure = some deviation)
    (action : Action) : (console.perform action).2.channel = console.channel := by
  cases action with
  | read => exact channel_readLine_of_failure h
  | printLine text => exact channel_offer_of_failure h _
  | write bytes =>
    simp only [perform, writeBytes]
    split
    · rfl
    · exact channel_offer_of_failure h bytes
  | offer bytes => exact channel_offer_of_failure h bytes
  | flush => exact channel_emitPartial_of_failure h
  | finish => exact channel_emitAll_of_failure h
  | askTurn => rfl

/-- What is refused at a console is recorded on its channel. -/
theorem failure_of_perform {action : Action}
    (h : (console.perform action).1.refusal? = some deviation) :
    (console.perform action).2.channel.failure = some deviation := by
  obtain ⟨hafter, hrefusal⟩ := console.makes_perform action
  rw [← hafter]
  exact Channel.failure_serveAll_of_refusal (hrefusal.trans h)

/-- An action that leaves no refusal behind has not been refused. -/
theorem refusal?_eq_none {action : Action}
    (h : (console.perform action).2.channel.failure = none) :
    (console.perform action).1.refusal? = none := by
  rw [Option.eq_none_iff_forall_ne_some]
  intro deviation hrefusal
  rw [failure_of_perform hrefusal] at h
  contradiction

theorem marks_perform (console : Console) (action : Action) :
    (console.perform action).2.channel.marks = console.channel.marks := by
  rw [← (console.makes_perform action).1, Channel.marks_serveAll]

end Console

/-- Once something has been refused, no program changes the channel. -/
theorem Behaviour.channel_run_of_failure (behaviour : Behaviour) {console : Console}
    {deviation : Deviation} (h : console.channel.failure = some deviation) :
    (behaviour.run console).2.channel = console.channel := by
  induction behaviour generalizing console with
  | stop ending => rfl
  | act action next ih =>
    have hperform := Console.channel_perform_of_failure h action
    rw [run, ih _ (by rw [hperform]; exact h), hperform]

end Dialogue
