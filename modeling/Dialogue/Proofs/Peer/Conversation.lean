import Dialogue.Peer
import Mathlib.Tactic.SplitIfs

/-!
# Conversations step by step

What passes between a process and the harness are lines that are sent and what is received in
between (`Peer.Passage`). A conversation goes on with a line that is sent or a line that is passed
on (`Peer.GoesOn`), for a while (`Peer.Leads`), and ends with what `Peer.Ends` names.
`Peer.Converses` is a whole conversation in such steps, with everything that passes; what holds of
conversations is shown by induction on them.

A process is overheard if everything that passes is noted down, together with the state of the
process before it (`Peer.overheard`). That changes nothing in the conversation, so `Peer.moments` is
what passes when the process itself is talked to. `converses_iff` ties all of this together: the
steps of `Converses` are those of `Peer.converse`, and no others.
-/

set_option autoImplicit false
set_option relaxedAutoImplicit false

namespace Dialogue

namespace Peer

/-! ### What passes -/

/-- Something that passes between a process and the harness. -/
inductive Passage where
  /-- A line is sent to the process, which takes it or listens no more. -/
  | sent (line : Text) (taken : Bool)
  /-- The process is waited for. -/
  | received (what : Received)
  deriving Repr, DecidableEq

/-- Something that passes, with the state of the process before it. -/
structure Moment (State : Type) where
  state : State
  passage : Passage

namespace Moment

variable {State : Type}

/-- The line that is sent, and whether it is taken. -/
def sending? (moment : Moment State) : Option (Text × Bool) :=
  match moment.passage with
  | .sent line taken => some (line, taken)
  | .received _ => none

/-- The line that is received. -/
def line? (moment : Moment State) : Option Text :=
  match moment.passage with
  | .received (.line text) => some text
  | _ => none

end Moment

/-- A process of which everything that passes is noted down. -/
def overheard (peer : Peer) : Peer where
  State := peer.State × List (Moment peer.State)
  initial := (peer.initial, [])
  sendError? := fun line (state, _) ↦ peer.sendError? line state
  send := fun line (state, moments) ↦
    let (taken, next) := peer.send line state
    (taken, (next, moments ++ [⟨state, .sent line taken⟩]))
  receive := fun (state, moments) ↦
    let (what, next) := peer.receive state
    (what, (next, moments ++ [⟨state, .received what⟩]))
  close state := peer.close state.1
  ahead state := peer.ahead state.1
  ahead_receive_lt := by
    rintro ⟨state, moments⟩ ⟨after, later⟩ text h
    obtain ⟨hwhat, hafter⟩ := Prod.mk.inj h
    obtain ⟨rfl, -⟩ := Prod.mk.inj hafter
    exact peer.ahead_receive_lt (Prod.ext hwhat rfl)

/-- What passes in a conversation. -/
def moments (peer : Peer) (limit : Duration) (console : Console) : List (Moment peer.State) :=
  (peer.overheard.converse limit console peer.overheard.initial).2.2.2

/-! ### Steps -/

/-- A conversation goes on. -/
inductive GoesOn (peer : Peer) (console : Console) (state : peer.State) :
    Moment peer.State → Console → peer.State → Prop
  /-- A line can be sent. Only the terminator must be taken. -/
  | sent {line : Text} {taken : Bool} {after : Console} {next : peer.State}
    (hturn : console.channel.turn = .awaitingRead) (hread : console.readLine = (.ok line, after))
    (hsend : peer.send line state = (taken, next)) (htaken : line = terminator → taken = true)
    (hable : peer.sendError? line state = none := by rfl) :
    GoesOn peer console state ⟨state, .sent line taken⟩ after next
  /-- A line is passed on. -/
  | passedOn {text : Text} {after : Console} {next : peer.State}
    (hturn : console.channel.turn = .awaitingWrite)
    (hreceive : peer.receive state = (.line text, next))
    (hprint : console.printLine text = (.ok (), after)) :
    GoesOn peer console state ⟨state, .received (.line text)⟩ after next

/-- A conversation ends, with a fault or without. -/
inductive Ends (peer : Peer) (limit : Duration) (console : Console) (state : peer.State) :
    List (Moment peer.State) → Option Fault × Console × peer.State → Prop
  | drained (hturn : console.channel.turn = .drained) :
    Ends peer limit console state [] (none, console, state)
  | refusedRead {deviation : Deviation} {after : Console}
    (hturn : console.channel.turn = .awaitingRead)
    (hread : console.readLine = (.error deviation, after)) :
    Ends peer limit console state [] (some (.deviation deviation), after, state)
  | unsendable {line reason : Text} {after : Console} (hturn : console.channel.turn = .awaitingRead)
    (hread : console.readLine = (.ok line, after))
    (herror : peer.sendError? line state = some reason) :
    Ends peer limit console state [] (some (.transfer (.other reason)), after, state)
  | untaken {after : Console} {next : peer.State} (hturn : console.channel.turn = .awaitingRead)
    (hread : console.readLine = (.ok terminator, after))
    (hsend : peer.send terminator state = (false, next))
    (hable : peer.sendError? terminator state = none := by rfl) :
    Ends peer limit console state [⟨state, .sent terminator false⟩]
      (some unreadTerminator, after, next)
  | refusedLine {text : Text} {deviation : Deviation} {after : Console} {next : peer.State}
    (hturn : console.channel.turn = .awaitingWrite)
    (hreceive : peer.receive state = (.line text, next))
    (hprint : console.printLine text = (.error deviation, after)) :
    Ends peer limit console state [⟨state, .received (.line text)⟩]
      (some (.deviation deviation), after, next)
  | unreadable {next : peer.State} (hturn : console.channel.turn = .awaitingWrite)
    (hreceive : peer.receive state = (.unreadable, next)) :
    Ends peer limit console state [⟨state, .received .unreadable⟩]
      (some unreadableFault, console, next)
  | silence {next : peer.State} (hturn : console.channel.turn = .awaitingWrite)
    (hreceive : peer.receive state = (.silence, next)) :
    Ends peer limit console state [⟨state, .received .silence⟩]
      (some (.silence limit), console, next)
  | closed {next : peer.State} (hturn : console.channel.turn = .awaitingWrite)
    (hreceive : peer.receive state = (.closed, next)) :
    Ends peer limit console state [⟨state, .received .closed⟩] (none, console, next)

/-- A conversation goes on for a while. -/
inductive Leads (peer : Peer) : Console → peer.State → List (Moment peer.State) → Console →
    peer.State → Prop
  | here {console : Console} {state : peer.State} : Leads peer console state [] console state
  | goesOn {console between after : Console} {state middle next : peer.State}
    {moment : Moment peer.State} {moments : List (Moment peer.State)}
    (hstep : peer.GoesOn console state moment between middle)
    (hlater : Leads peer between middle moments after next) :
    Leads peer console state (moment :: moments) after next

/-- A conversation goes on until it ends. -/
inductive Converses (peer : Peer) (limit : Duration) : Console → peer.State →
    List (Moment peer.State) → Option Fault × Console × peer.State → Prop
  | ends {console : Console} {state : peer.State} {moments : List (Moment peer.State)}
    {result : Option Fault × Console × peer.State}
    (hends : peer.Ends limit console state moments result) :
    Converses peer limit console state moments result
  | goesOn {console after : Console} {state next : peer.State} {moment : Moment peer.State}
    {moments : List (Moment peer.State)} {result : Option Fault × Console × peer.State}
    (hstep : peer.GoesOn console state moment after next)
    (hlater : Converses peer limit after next moments result) :
    Converses peer limit console state (moment :: moments) result

section Steps

variable {peer : Peer} {limit : Duration} {console after : Console} {state next : peer.State}

theorem converse_of_goesOn {moment : Moment peer.State}
    (h : peer.GoesOn console state moment after next) :
    peer.converse limit console state = peer.converse limit after next := by
  rw [converse]
  cases h with
  | sent hturn hread hsend htaken hable =>
    simp only [hturn]
    split
    · next heq => simp [hread] at heq
    · next heq =>
      obtain ⟨hline, rfl⟩ := Prod.mk.inj (hread.symm.trans heq)
      obtain rfl := Except.ok.inj hline
      simp only [hable, hsend]
      rw [if_neg]
      simpa using fun huntaken heq ↦ absurd (htaken heq) (by simp [huntaken])
  | passedOn hturn hreceive hprint =>
    simp only [hturn]
    split
    · next heq =>
      obtain ⟨htext, rfl⟩ := Prod.mk.inj (hreceive.symm.trans heq)
      obtain rfl := Received.line.inj htext
      split
      · next herror => simp [hprint] at herror
      · next hok =>
        obtain ⟨-, rfl⟩ := Prod.mk.inj (hprint.symm.trans hok)
        rfl
    all_goals next heq => simp [hreceive] at heq

theorem converse_of_ends {moments : List (Moment peer.State)}
    {result : Option Fault × Console × peer.State}
    (h : peer.Ends limit console state moments result) :
    peer.converse limit console state = result := by
  rw [converse]
  cases h with
  | drained hturn => simp only [hturn]
  | refusedRead hturn hread =>
    simp only [hturn]
    split
    · next heq =>
      obtain ⟨hdeviation, rfl⟩ := Prod.mk.inj (hread.symm.trans heq)
      obtain rfl := Except.error.inj hdeviation
      rfl
    · next heq => simp [hread] at heq
  | unsendable hturn hread herror =>
    simp only [hturn]
    split
    · next heq => simp [hread] at heq
    · next heq =>
      obtain ⟨hline, rfl⟩ := Prod.mk.inj (hread.symm.trans heq)
      obtain rfl := Except.ok.inj hline
      simp only [herror]
  | untaken hturn hread hsend hable =>
    simp only [hturn]
    split
    · next heq => simp [hread] at heq
    · next heq =>
      obtain ⟨hline, rfl⟩ := Prod.mk.inj (hread.symm.trans heq)
      obtain rfl := Except.ok.inj hline
      simp [hable, hsend]
  | refusedLine hturn hreceive hprint =>
    simp only [hturn]
    split
    · next heq =>
      obtain ⟨htext, rfl⟩ := Prod.mk.inj (hreceive.symm.trans heq)
      obtain rfl := Received.line.inj htext
      split
      · next herror =>
        obtain ⟨hdeviation, rfl⟩ := Prod.mk.inj (hprint.symm.trans herror)
        obtain rfl := Except.error.inj hdeviation
        rfl
      · next hok => simp [hprint] at hok
    all_goals next heq => simp [hreceive] at heq
  | unreadable hturn hreceive | silence hturn hreceive | closed hturn hreceive =>
    simp only [hturn]
    split
    all_goals next heq => simp_all

end Steps

/-! ### Whole conversations -/

/-- The conversation that is led with a process consists of such steps. -/
theorem exists_converses (peer : Peer) (limit : Duration) (console : Console)
    (state : peer.State) :
    ∃ moments, peer.Converses limit console state moments
      (peer.converse limit console state) := by
  fun_induction peer.converse limit console state with
  | case1 console state hturn => exact ⟨_, .ends (.drained hturn)⟩
  | case2 console state hturn deviation after hread => exact ⟨_, .ends (.refusedRead hturn hread)⟩
  | case3 console state hturn line after hread reason herror =>
    exact ⟨_, .ends (.unsendable hturn hread herror)⟩
  | case4 console state hturn line after hread hable taken next hsend huntaken =>
    obtain ⟨htaken, hline⟩ : taken = false ∧ line = terminator := by simpa using huntaken
    subst htaken hline
    exact ⟨_, .ends (.untaken hturn hread hsend hable)⟩
  | case5 console state hturn line after hread hable taken next hsend htaken ih =>
    obtain ⟨moments, hlater⟩ := ih
    exact ⟨_, .goesOn (.sent hturn hread hsend (fun hline ↦ by simpa [hline] using htaken) hable)
      hlater⟩
  | case6 console state hturn text next hreceive deviation after hprint =>
    exact ⟨_, .ends (.refusedLine hturn hreceive hprint)⟩
  | case7 console state hturn text next hreceive after hprint ih =>
    obtain ⟨moments, hlater⟩ := ih
    exact ⟨_, .goesOn (.passedOn hturn hreceive hprint) hlater⟩
  | case8 console state hturn next hreceive => exact ⟨_, .ends (.unreadable hturn hreceive)⟩
  | case9 console state hturn next hreceive => exact ⟨_, .ends (.silence hturn hreceive)⟩
  | case10 console state hturn next hreceive => exact ⟨_, .ends (.closed hturn hreceive)⟩

variable {peer : Peer} {limit : Duration} {console : Console} {state next : peer.State}
  {moments : List (Moment peer.State)} {result : Option Fault × Console × peer.State}

theorem Converses.converse_eq (h : peer.Converses limit console state moments result) :
    peer.converse limit console state = result := by
  induction h with
  | ends hends => exact converse_of_ends hends
  | goesOn hstep _ ih => exact (converse_of_goesOn hstep).trans ih

/-- A conversation that has gone on for a while ends where it ends from there on. -/
theorem Leads.converses {after : Console} {earlier : List (Moment peer.State)}
    (h : peer.Leads console state earlier after next)
    (hlater : peer.Converses limit after next moments result) :
    peer.Converses limit console state (earlier ++ moments) result := by
  induction h with
  | here => exact hlater
  | goesOn hstep _ ih => exact .goesOn hstep (ih hlater)

/-- A whole conversation goes on for a while, and ends there. -/
theorem Converses.exists_leads (h : peer.Converses limit console state moments result) :
    ∃ earlier last lastState left, moments = earlier ++ left ∧
      peer.Leads console state earlier last lastState ∧
      peer.Ends limit last lastState left result := by
  induction h with
  | ends hends => exact ⟨[], _, _, _, rfl, .here, hends⟩
  | goesOn hstep _ ih =>
    obtain ⟨earlier, last, lastState, left, rfl, hleads, hends⟩ := ih
    exact ⟨_ :: earlier, last, lastState, left, rfl, .goesOn hstep hleads, hends⟩

/-! ### Overhearing -/

theorem send_overheard {line : Text} {taken : Bool} (h : peer.send line state = (taken, next))
    (earlier : List (Moment peer.State)) :
    peer.overheard.send line (state, earlier) =
      (taken, (next, earlier ++ [⟨state, .sent line taken⟩])) := by
  simp only [overheard, h]

theorem receive_overheard {what : Received} (h : peer.receive state = (what, next))
    (earlier : List (Moment peer.State)) :
    peer.overheard.receive (state, earlier) =
      (what, (next, earlier ++ [⟨state, .received what⟩])) := by
  simp only [overheard, h]

/-- What is noted down is what passes, and nothing else changes. -/
theorem Converses.overheard_eq (h : peer.Converses limit console state moments result)
    (earlier : List (Moment peer.State)) :
    peer.overheard.converse limit console (state, earlier) =
      (result.1, result.2.1, (result.2.2, earlier ++ moments)) := by
  induction h generalizing earlier with
  | ends hends =>
    cases hends with
    | drained hturn =>
      rw [List.append_nil]
      exact converse_of_ends (.drained hturn)
    | refusedRead hturn hread =>
      rw [List.append_nil]
      exact converse_of_ends (.refusedRead hturn hread)
    | unsendable hturn hread herror =>
      rw [List.append_nil]
      exact converse_of_ends (.unsendable hturn hread herror)
    | untaken hturn hread hsend hable =>
      exact converse_of_ends (.untaken hturn hread (send_overheard hsend earlier) hable)
    | refusedLine hturn hreceive hprint =>
      exact converse_of_ends (.refusedLine hturn (receive_overheard hreceive earlier) hprint)
    | unreadable hturn hreceive =>
      exact converse_of_ends (.unreadable hturn (receive_overheard hreceive earlier))
    | silence hturn hreceive =>
      exact converse_of_ends (.silence hturn (receive_overheard hreceive earlier))
    | closed hturn hreceive =>
      exact converse_of_ends (.closed hturn (receive_overheard hreceive earlier))
  | goesOn hstep _ ih =>
    cases hstep with
    | sent hturn hread hsend htaken hable =>
      rw [converse_of_goesOn (.sent hturn hread (send_overheard hsend earlier) htaken hable), ih,
        List.append_assoc, List.singleton_append]
    | passedOn hturn hreceive hprint =>
      rw [converse_of_goesOn (.passedOn hturn (receive_overheard hreceive earlier) hprint), ih,
        List.append_assoc, List.singleton_append]

/-- A conversation from the start consists of these steps exactly if it leads there and this is what
passes. -/
theorem converses_iff {moments : List (Moment peer.State)} :
    peer.Converses limit console peer.initial moments result ↔
      peer.converse limit console peer.initial = result ∧
        peer.moments limit console = moments := by
  have hmoments {moments : List (Moment peer.State)}
      {result : Option Fault × Console × peer.State}
      (h : peer.Converses limit console peer.initial moments result) :
      peer.moments limit console = moments := by
    have heq := h.overheard_eq []
    change peer.overheard.converse limit console peer.overheard.initial = _ at heq
    rw [Peer.moments, heq]
    rfl
  constructor
  · exact fun h ↦ ⟨h.converse_eq, hmoments h⟩
  · rintro ⟨rfl, rfl⟩
    obtain ⟨others, h⟩ := peer.exists_converses limit console peer.initial
    rwa [hmoments h]

end Peer

end Dialogue
