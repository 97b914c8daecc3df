import Dialogue.Channel.Progress
import Mathlib.Tactic.SplitIfs

/-!
# Requests to a channel

Whatever a program does, its channel is asked for four things only: to read a line, to write an
output, to note a line, and to finish. `Channel.serve` answers one such request and
`Channel.exchanges` a list of them, each exchange with the channel as it was before and after.

`Channel.Transition` says once what a request can do: the answer, the channel afterwards, and the
condition under which it happens. A new refusal has one of the causes of `Channel.Deviates`.
`transition_serve` is the inversion lemma that the invariants of a channel are derived from: they
are shown for each transition, and no later proof opens `read`, `write` or `finish` again.
-/

set_option autoImplicit false
set_option relaxedAutoImplicit false

namespace Dialogue.Channel

/-! ### Requests and answers -/

/-- What a channel can be asked for. -/
inductive Request where
  | read
  | write (text : Text)
  | note (line : Text)
  | finish
  deriving Repr, DecidableEq, Inhabited

/-- The answer to a request. -/
inductive Answer where
  | line (text : Text)
  | done
  | refused (deviation : Deviation)
  deriving Repr, DecidableEq, Inhabited

namespace Answer

/-- The answer that gives a line back, unless the request is refused. -/
def ofLine : Except Deviation Text → Answer
  | .ok text => .line text
  | .error deviation => .refused deviation

/-- The answer that gives nothing back, unless the request is refused. -/
def ofResult : Except Deviation Unit → Answer
  | .ok () => .done
  | .error deviation => .refused deviation

/-- The deviation for which a request was refused. -/
def refusal? : Answer → Option Deviation
  | refused deviation => some deviation
  | _ => none

end Answer

/-- Answers a request. A note is always taken. -/
def serve (channel : Channel) : Request → Answer × Channel
  | .read => (.ofLine channel.read.1, channel.read.2)
  | .write text => (.ofResult (channel.write text).1, (channel.write text).2)
  | .note line => (.done, channel.note line)
  | .finish => (.ofResult channel.finish.1, channel.finish.2)

/-- The channel after some requests. -/
def serveAll (channel : Channel) (requests : List Request) : Channel :=
  requests.foldl (fun channel request ↦ (channel.serve request).2) channel

/-- A request and its answer, with the channel before and after them. -/
structure Exchange where
  before : Channel
  request : Request
  answer : Answer
  after : Channel
  deriving Repr, DecidableEq

/-- The exchange that a request makes. -/
def exchange (channel : Channel) (request : Request) : Exchange :=
  ⟨channel, request, (channel.serve request).1, (channel.serve request).2⟩

/-- The exchanges that some requests make, one after the other. -/
def exchanges (channel : Channel) : List Request → List Exchange
  | [] => []
  | request :: rest => channel.exchange request :: exchanges (channel.serve request).2 rest

@[simp]
theorem serveAll_nil (channel : Channel) : channel.serveAll [] = channel := rfl

@[simp]
theorem serveAll_cons (channel : Channel) (request : Request) (rest : List Request) :
    channel.serveAll (request :: rest) = (channel.serve request).2.serveAll rest := rfl

theorem serveAll_append (channel : Channel) (first second : List Request) :
    channel.serveAll (first ++ second) = (channel.serveAll first).serveAll second :=
  List.foldl_append

/-- The exchanges of two lists of requests are those of the first, and then those of the second on
the channel that the first leaves. -/
theorem exchanges_append (channel : Channel) (first second : List Request) :
    channel.exchanges (first ++ second) =
      channel.exchanges first ++ (channel.serveAll first).exchanges second := by
  induction first generalizing channel with
  | nil => rfl
  | cons request rest ih =>
    simp only [List.cons_append, exchanges, serveAll_cons, ih]

/-- An exchange among others is made by one of the requests, on the channel that the requests before
it leave. -/
theorem exchanges_eq_append_cons {channel : Channel} {requests : List Request}
    {earlier later : List Exchange} {exchange : Exchange}
    (h : channel.exchanges requests = earlier ++ exchange :: later) :
    ∃ first request second, requests = first ++ request :: second ∧
      earlier = channel.exchanges first ∧
      exchange = (channel.serveAll first).exchange request ∧
      later = (channel.serveAll (first ++ [request])).exchanges second := by
  induction requests generalizing channel earlier with
  | nil => simp [exchanges] at h
  | cons request rest ih =>
    cases earlier with
    | nil =>
      simp only [exchanges, List.nil_append, List.cons.injEq] at h
      exact ⟨[], request, rest, rfl, rfl, h.1.symm, h.2.symm⟩
    | cons other earlier =>
      simp only [exchanges, List.cons_append, List.cons.injEq] at h
      obtain ⟨first, found, second, hrequests, hearlier, hexchange, hlater⟩ := ih h.2
      refine ⟨request :: first, found, second, ?_, ?_, hexchange, hlater⟩
      · rw [hrequests, List.cons_append]
      · rw [exchanges, ← h.1, ← hearlier]

/-! ### What a request can do -/

/-- The causes of a new refusal, on a channel without a recorded deviation. -/
inductive Deviates (channel : Channel) : Request → Deviation → Prop
  /-- A line is asked for while an output is due. -/
  | readBeforeOutput (hturn : channel.turn = .awaitingWrite) :
    Deviates channel .read
      (.violation (.readBeforeOutputs (channel.outputTotal - channel.outputsMatched)))
  /-- A line is asked for after the terminator. -/
  | readAfterTerminator (hturn : channel.turn = .drained) :
    Deviates channel .read (.violation .readAfterTerminator)
  /-- A lone line break ends nothing and satisfies nothing. -/
  | strayNewline {text expected : Text}
    (hchatter : channel.marks.isChatter text.unifyBreaks = false)
    (hnewline : text.unifyBreaks = ['\n']) (hdue : channel.dueOutput? ≠ some (['\n'], .exact))
    (hallowed : channel.newlineAllowed = false)
    (hleft : channel.outputsMatched ≠ channel.outputTotal) :
    Deviates channel (.write text) (.mismatch expected "new line".toList)
  /-- An output does not satisfy the pattern that is due. -/
  | mismatch {text : Text} (hchatter : channel.marks.isChatter text.unifyBreaks = false)
    (hvalue : text.unifyBreaks ≠ ['\n']) (hturn : channel.turn = .awaitingWrite)
    (hpattern : ∀ pattern mode, channel.current? = some (.expect pattern mode) →
      mode.accepts pattern text.unifyBreaks = false) :
    Deviates channel (.write text) (.mismatch channel.describeCurrent text.unifyBreaks)
  /-- An output comes while an input is due. -/
  | wroteBeforeInput {text : Text} (hchatter : channel.marks.isChatter text.unifyBreaks = false)
    (hvalue : text.unifyBreaks ≠ ['\n']) (hturn : channel.turn = .awaitingRead)
    (hleft : channel.outputsMatched < channel.outputTotal) :
    Deviates channel (.write text)
      (.violation (.wroteBeforeInput text.unifyBreaks (channel.inputsRead + 1)))
  /-- An output comes after the last one that was expected. -/
  | wroteAfterEnd {text : Text} (hchatter : channel.marks.isChatter text.unifyBreaks = false)
    (hvalue : text.unifyBreaks ≠ ['\n']) (hturn : channel.turn ≠ .awaitingWrite)
    (hend : channel.turn = .awaitingRead → channel.outputTotal ≤ channel.outputsMatched) :
    Deviates channel (.write text) (.violation (.wroteAfterEnd text.unifyBreaks))
  /-- The run ends before its script. -/
  | unfinished (hturn : channel.turn ≠ .drained) :
    Deviates channel .finish (.incomplete channel.pending)

/-- What a request can do to a channel: its answer, and the channel afterwards. -/
inductive Transition (channel : Channel) : Request → Answer → Channel → Prop
  /-- A deviation that is recorded answers everything but a note. -/
  | repeated {request : Request} {deviation : Deviation}
    (hfailure : channel.failure = some deviation) (hrequest : ∀ line, request ≠ .note line) :
    Transition channel request (.refused deviation) channel
  /-- A new deviation is recorded. -/
  | refused {request : Request} {deviation : Deviation} (hfailure : channel.failure = none)
    (hcause : channel.Deviates request deviation) :
    Transition channel request (.refused deviation) { channel with failure := some deviation }
  /-- The line that is due is handed out. -/
  | input {line : Text} (hfailure : channel.failure = none) (hturn : channel.turn = .awaitingRead)
    (hcurrent : channel.current? = some (.input line)) :
    Transition channel .read (.line line)
      { channel with inputsRead := channel.inputsRead + 1 }.passTurn
  /-- The terminator is handed out. -/
  | terminator (hfailure : channel.failure = none) (hturn : channel.turn = .awaitingRead)
    (hcurrent : ∀ line, channel.current? ≠ some (.input line)) :
    Transition channel .read (.line terminator) { channel with terminatorSent := true }.passTurn
  /-- An output satisfies the pattern that is due. -/
  | output {text pattern : Text} {mode : MatchMode} (hfailure : channel.failure = none)
    (hchatter : channel.marks.isChatter text.unifyBreaks = false)
    (hturn : channel.turn = .awaitingWrite)
    (hcurrent : channel.current? = some (.expect pattern mode))
    (haccepts : mode.accepts pattern text.unifyBreaks = true) :
    Transition channel (.write text) .done (channel.accept text.unifyBreaks)
  /-- Chatter goes to the transcript. -/
  | chatter {text : Text} (hfailure : channel.failure = none)
    (hchatter : channel.marks.isChatter text.unifyBreaks = true) :
    Transition channel (.write text) .done { channel with
      transcript := channel.transcript ++ text.unifyBreaks
      newlineAllowed := true }
  /-- A lone line break ends what was written before it, or stands behind the last output. -/
  | newline {text : Text} (hfailure : channel.failure = none)
    (hchatter : channel.marks.isChatter text.unifyBreaks = false)
    (hnewline : text.unifyBreaks = ['\n']) (hdue : channel.dueOutput? ≠ some (['\n'], .exact))
    (hallowed : channel.newlineAllowed = true ∨ channel.outputsMatched = channel.outputTotal) :
    Transition channel (.write text) .done { channel with
      transcript := channel.transcript ++ ['\n']
      newlineAllowed := false }
  /-- A note goes to the transcript. -/
  | note {line : Text} : Transition channel (.note line) .done (channel.note line)
  /-- The run ends with its script. -/
  | finish (hfailure : channel.failure = none) (hturn : channel.turn = .drained) :
    Transition channel .finish .done channel

theorem transition_read (channel : Channel) :
    channel.Transition .read (.ofLine channel.read.1) channel.read.2 := by
  unfold read
  split
  · next hfailure => exact .repeated hfailure (by simp)
  · next hfailure =>
    split
    · next hturn =>
      split
      · next hcurrent => exact .input hfailure hturn hcurrent
      · next hcurrent => exact .terminator hfailure hturn fun line h ↦ hcurrent line h
    · next hturn => exact .refused hfailure (.readBeforeOutput hturn)
    · next hturn => exact .refused hfailure (.readAfterTerminator hturn)

/-- An output is due only while the program is to write. -/
theorem turn_of_dueOutput? {channel : Channel} {due : Text × MatchMode}
    (h : channel.dueOutput? = some due) : channel.turn = .awaitingWrite := by
  simp only [dueOutput?] at h
  split at h
  · assumption
  · contradiction

/-- A lone line break without a recorded deviation. -/
theorem transition_writeNewline {channel : Channel} {text : Text}
    (hfailure : channel.failure = none)
    (hchatter : channel.marks.isChatter text.unifyBreaks = false)
    (hnewline : text.unifyBreaks = ['\n']) :
    channel.Transition (.write text) (.ofResult channel.writeNewline.1)
      channel.writeNewline.2 := by
  simp only [writeNewline]
  split_ifs with hdue hallowed
  · have haccepts : MatchMode.exact.accepts ['\n'] text.unifyBreaks = true := by
      rw [hnewline]
      rfl
    have h := Transition.output hfailure hchatter (turn_of_dueOutput? hdue)
      (current?_of_dueOutput? hdue) haccepts
    rwa [hnewline] at h
  · exact .newline hfailure hchatter hnewline hdue hallowed
  · simp only [not_or, Bool.not_eq_true] at hallowed
    exact .refused hfailure (.strayNewline hchatter hnewline hdue hallowed.1 hallowed.2)

/-- An output without a recorded deviation. -/
theorem transition_writeValue {channel : Channel} {text : Text}
    (hfailure : channel.failure = none)
    (hchatter : channel.marks.isChatter text.unifyBreaks = false)
    (hvalue : text.unifyBreaks ≠ ['\n']) :
    channel.Transition (.write text) (.ofResult (channel.writeValue text.unifyBreaks).1)
      (channel.writeValue text.unifyBreaks).2 := by
  unfold writeValue
  split
  · next hturn =>
    split
    · next pattern mode hcurrent =>
      split_ifs with haccepts
      · exact .output hfailure hchatter hturn hcurrent haccepts
      · refine .refused hfailure (.mismatch hchatter hvalue hturn fun other how hother ↦ ?_)
        rw [hcurrent] at hother
        obtain ⟨rfl, rfl⟩ := Step.expect.inj (Option.some.inj hother)
        simpa using haccepts
    · next hcurrent =>
      exact .refused hfailure
        (.mismatch hchatter hvalue hturn fun pattern mode h ↦ absurd h (hcurrent pattern mode))
  · next hturn =>
    split_ifs with hleft
    · exact .refused hfailure (.wroteBeforeInput hchatter hvalue hturn hleft)
    · exact .refused hfailure
        (.wroteAfterEnd hchatter hvalue (by simp [hturn]) fun _ ↦ Nat.le_of_not_lt hleft)
  · next hturn =>
    exact .refused hfailure (.wroteAfterEnd hchatter hvalue (by simp [hturn]) (by simp [hturn]))

theorem transition_write (channel : Channel) (text : Text) :
    channel.Transition (.write text) (.ofResult (channel.write text).1)
      (channel.write text).2 := by
  unfold write
  split
  · next hfailure => exact .repeated hfailure (by simp)
  · next hfailure =>
    dsimp only
    split_ifs with hchatter hnewline
    · exact .chatter hfailure hchatter
    · exact transition_writeNewline hfailure (by simpa using hchatter) hnewline
    · exact transition_writeValue hfailure (by simpa using hchatter) hnewline

theorem transition_finish (channel : Channel) :
    channel.Transition .finish (.ofResult channel.finish.1) channel.finish.2 := by
  unfold finish
  split
  · next hfailure => exact .repeated hfailure (by simp)
  · next hfailure =>
    split_ifs with hturn
    · exact .finish hfailure hturn
    · exact .refused hfailure (.unfinished hturn)

/-- A request does one of the things that `Transition` names. -/
theorem transition_serve (channel : Channel) (request : Request) :
    channel.Transition request (channel.serve request).1 (channel.serve request).2 := by
  cases request with
  | read => exact transition_read channel
  | write text => exact transition_write channel text
  | note line => exact .note
  | finish => exact transition_finish channel

/-! ### What a transcript keeps -/

/-- A note stands behind the transcript, on a line of its own. -/
theorem transcript_note (channel : Channel) (line : Text) :
    (channel.note line).transcript = channel.transcript ++
      ((if channel.transcript = [] ∨ channel.transcript.getLast? = some '\n' then [] else ['\n'])
        ++ line ++ ['\n']) := by
  simp only [note]
  split_ifs <;> simp

theorem transcript_grows_note (channel : Channel) (line : Text) :
    channel.transcript <+: (channel.note line).transcript := by
  rw [transcript_note]
  exact List.prefix_append _ _

/-- Nothing is taken back from a transcript. -/
theorem Transition.transcript_grows {channel after : Channel} {request : Request}
    {answer : Answer} (h : channel.Transition request answer after) :
    channel.transcript <+: after.transcript := by
  cases h with
  | repeated | refused | input | terminator | finish => exact List.prefix_rfl
  | output | chatter | newline => exact List.prefix_append _ _
  | note => exact transcript_grows_note channel _

theorem transcript_grows_serveAll (channel : Channel) (requests : List Request) :
    channel.transcript <+: (channel.serveAll requests).transcript := by
  induction requests generalizing channel with
  | nil => exact List.prefix_rfl
  | cons request rest ih =>
    exact (transition_serve channel request).transcript_grows.trans (ih _)

end Dialogue.Channel
