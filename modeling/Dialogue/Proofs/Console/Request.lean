import Dialogue.Behaviour
import Dialogue.Proofs.Channel.Order
import Dialogue.Proofs.Text.Utf8

/-!
# The requests of a console

A console asks its channel on behalf of a program. What it asks for depends on the bytes it holds
back and on where the channel stands, and it stops asking at the first refusal. `lineRequests`,
`drainRequests`, `partialRequests` and `allRequests` list the requests of each part of a console,
`Console.requests` those of an action and `Behaviour.requests` those of a whole program.

`Channel.Makes` ties such a list to what is observed: the channel afterwards is the one that the
requests leave, and the result is a refusal exactly if one of the requests is refused, for the
reason of the first one. `makes_perform` says so of every action, and `serveAll_requests` that a
program leaves its channel as its requests do. What holds of a channel after any requests therefore
holds of it in every run. None of the requests is to write an output without characters
(`write_nil_notMem_requests`).
-/

set_option autoImplicit false
set_option relaxedAutoImplicit false

namespace Dialogue

namespace Channel

/-! ### Requests with one result -/

/-- The deviation for which something was refused. -/
def refusalOf {α : Type} : Except Deviation α → Option Deviation
  | .ok _ => none
  | .error deviation => some deviation

/-- Some requests leave a channel as it is afterwards, and the result is a refusal for the first of
them that is refused. -/
structure Makes {α : Type} (channel : Channel) (requests : List Request)
    (result : Except Deviation α) (after : Channel) : Prop where
  after_eq : channel.serveAll requests = after
  refusal : firstRefusal? (channel.exchanges requests) = refusalOf result

theorem makes_nil {α : Type} (channel : Channel) (value : α) :
    channel.Makes [] (.ok value) channel :=
  ⟨rfl, rfl⟩

theorem makes_write (channel : Channel) (text : Text) :
    channel.Makes [.write text] (channel.write text).1 (channel.write text).2 where
  after_eq := rfl
  refusal := by
    simp only [exchanges, exchange, serve, firstRefusal?, List.findSome?_singleton]
    rcases (channel.write text).1 with _ | _ <;> rfl

theorem makes_read (channel : Channel) :
    channel.Makes [.read] channel.read.1 channel.read.2 where
  after_eq := rfl
  refusal := by
    simp only [exchanges, exchange, serve, firstRefusal?, List.findSome?_singleton]
    rcases channel.read.1 with _ | _ <;> rfl

namespace Makes

variable {α β : Type} {channel between after : Channel} {first second : List Request}

/-- Requests that are all granted are followed by others. -/
theorem append {value : α} {result : Except Deviation β}
    (hfirst : channel.Makes first (.ok value) between)
    (hsecond : between.Makes second result after) :
    channel.Makes (first ++ second) result after where
  after_eq := by rw [serveAll_append, hfirst.after_eq, hsecond.after_eq]
  refusal := by
    have hnone : firstRefusal? (channel.exchanges first) = none := hfirst.refusal
    rw [exchanges_append, hfirst.after_eq, firstRefusal?, List.findSome?_append, ← firstRefusal?,
      hnone, Option.none_or, ← firstRefusal?, hsecond.refusal]

/-- A refusal is passed on as the result of something else. -/
theorem refused {deviation : Deviation}
    (h : channel.Makes first (.error deviation : Except Deviation α) after) :
    channel.Makes first (.error deviation : Except Deviation β) after :=
  ⟨h.after_eq, h.refusal⟩

end Makes

/-! ### Lines -/

/-- The requests that a line makes: the line, and its line break unless the line is refused. -/
def lineRequests (channel : Channel) (line : List UInt8) : List Request :=
  let text := (Text.Utf8.decodeLossy line).trimReturns
  if text = [] then [.write ['\n']]
  else
    match (channel.write text).1 with
    | .error _ => [.write text]
    | .ok () => [.write text, .write ['\n']]

theorem makes_writeLine (channel : Channel) (line : List UInt8) :
    channel.Makes (channel.lineRequests line) (channel.writeLine line).1
      (channel.writeLine line).2 := by
  simp only [lineRequests, writeLine]
  split_ifs with hempty
  · exact channel.makes_write ['\n']
  · have hline := channel.makes_write (Text.Utf8.decodeLossy line).trimReturns
    rcases hwrite : channel.write (Text.Utf8.decodeLossy line).trimReturns with
      ⟨deviation | _, between⟩
    · rw [hwrite] at hline
      exact hline
    · rw [hwrite] at hline
      exact hline.append (between.makes_write ['\n'])

/-- The requests of the lines that are complete, up to one that is refused. -/
def drainRequests (channel : Channel) (bytes : List UInt8) : List Request :=
  match _h : cutLines (channel.spanOf bytes) bytes with
  | none => []
  | some (line, rest) =>
    channel.lineRequests line ++
      match channel.writeLine line with
      | (.error _, _) => []
      | (.ok (), after) => after.drainRequests rest
termination_by bytes.length
decreasing_by exact length_lt_of_cutLines _h

theorem makes_drain (channel : Channel) (bytes : List UInt8) :
    channel.Makes (channel.drainRequests bytes) (channel.drain bytes).1
      (channel.drain bytes).2.channel := by
  fun_induction channel.drain bytes with
  | case1 channel bytes hcut =>
    rw [drainRequests]
    split
    · exact channel.makes_nil ()
    · next hsome => rw [hcut] at hsome; contradiction
  | case2 channel bytes line rest hcut deviation after hwrite =>
    have hline := channel.makes_writeLine line
    rw [hwrite] at hline
    rw [drainRequests]
    split
    · next hnone => rw [hcut] at hnone; contradiction
    · next hsome =>
      obtain ⟨rfl, rfl⟩ := Prod.mk.inj (Option.some.inj (hcut.symm.trans hsome))
      rw [hwrite, List.append_nil]
      exact hline
  | case3 channel bytes line rest hcut after hwrite ih =>
    have hline := channel.makes_writeLine line
    rw [hwrite] at hline
    rw [drainRequests]
    split
    · next hnone => rw [hcut] at hnone; contradiction
    · next hsome =>
      obtain ⟨rfl, rfl⟩ := Prod.mk.inj (Option.some.inj (hcut.symm.trans hsome))
      rw [hwrite]
      exact hline.append ih

end Channel

/-! ### Actions -/

namespace Console

open Channel

/-- The requests of an unfinished line. -/
def partialRequests (console : Console) : List Channel.Request :=
  if console.pending = [] ∨ newlineByte ∈ console.pending then []
  else [.write (Text.Utf8.decodeLossy console.pending)]

/-- The requests of all that is held back. -/
def allRequests (console : Console) : List Channel.Request :=
  console.channel.drainRequests console.pending ++
    match console.drain with
    | (.error _, _) => []
    | (.ok (), after) =>
      if after.pending = [] then []
      else if after.pending.getLast? = some newlineByte then
        after.channel.lineRequests after.pending.dropLast
      else [.write (Text.Utf8.decodeLossy after.pending)]

/-- The requests of a read: all that is held back, and the read unless something is refused. -/
def readRequests (console : Console) : List Channel.Request :=
  console.allRequests ++
    match console.emitAll.1 with
    | .error _ => []
    | .ok () => [.read]

/-- The requests of an action. -/
def requests (console : Console) : Action → List Channel.Request
  | .read => console.readRequests
  | .printLine text =>
    console.channel.drainRequests
      (console.pending ++ (Text.Utf8.encode text ++ [newlineByte]))
  | .write bytes =>
    if bytes = [] then [] else console.channel.drainRequests (console.pending ++ bytes)
  | .offer bytes => console.channel.drainRequests (console.pending ++ bytes)
  | .flush => console.partialRequests
  | .finish => console.allRequests
  | .askTurn => []

/-- The deviation for which an action was refused. -/
def Reply.refusal? : Reply → Option Deviation
  | .refused deviation => some deviation
  | _ => none

theorem refusal?_ofResult (result : Except Deviation Unit) :
    (Reply.ofResult result).refusal? = refusalOf result := by
  rcases result with _ | _ <;> rfl

theorem refusal?_ofLine (result : Except Deviation Text) :
    (Reply.ofLine result).refusal? = refusalOf result := by
  rcases result with _ | _ <;> rfl

theorem eq_ok_of_refusal?_ofResult {result : Except Deviation Unit}
    (h : (Reply.ofResult result).refusal? = none) : result = .ok () := by
  rcases result with _ | _
  · contradiction
  · rfl

theorem exists_eq_ok_of_refusal?_ofLine {result : Except Deviation Text}
    (h : (Reply.ofLine result).refusal? = none) : ∃ line, result = .ok line := by
  rcases result with _ | line
  · contradiction
  · exact ⟨line, rfl⟩

theorem makes_emitPartial (console : Console) :
    console.channel.Makes console.partialRequests console.emitPartial.1
      console.emitPartial.2.channel := by
  simp only [partialRequests, emitPartial]
  split_ifs with hnothing
  · exact console.channel.makes_nil ()
  · exact console.channel.makes_write _

theorem makes_emitAll (console : Console) :
    console.channel.Makes console.allRequests console.emitAll.1 console.emitAll.2.channel := by
  have hdrain := console.channel.makes_drain console.pending
  change console.channel.Makes _ console.drain.1 console.drain.2.channel at hdrain
  simp only [allRequests, emitAll]
  rcases hresult : console.drain with ⟨deviation | _, after⟩
  · rw [hresult] at hdrain
    rw [List.append_nil]
    exact hdrain
  · rw [hresult] at hdrain
    refine hdrain.append ?_
    dsimp only
    split_ifs with hempty hlast
    · exact after.channel.makes_nil ()
    · exact after.channel.makes_writeLine _
    · exact after.channel.makes_write _

theorem makes_readLine (console : Console) :
    console.channel.Makes console.readRequests console.readLine.1 console.readLine.2.channel := by
  have hall := console.makes_emitAll
  simp only [readRequests, readLine]
  rcases hresult : console.emitAll with ⟨deviation | _, after⟩
  · rw [hresult] at hall
    rw [List.append_nil]
    exact hall.refused
  · rw [hresult] at hall
    exact hall.append after.channel.makes_read

theorem makes_offer (console : Console) (bytes : List UInt8) :
    console.channel.Makes (console.channel.drainRequests (console.pending ++ bytes))
      (console.offer bytes).1 (console.offer bytes).2.channel :=
  console.channel.makes_drain _

/-- Every action leaves the channel as its requests do, and is refused if one of them is. -/
theorem makes_perform (console : Console) (action : Action) :
    console.channel.serveAll (console.requests action) = (console.perform action).2.channel ∧
      firstRefusal? (console.channel.exchanges (console.requests action)) =
        (console.perform action).1.refusal? := by
  cases action with
  | read =>
    have h := console.makes_readLine
    exact ⟨h.after_eq, h.refusal.trans (refusal?_ofLine _).symm⟩
  | printLine text =>
    have h := console.makes_offer (Text.Utf8.encode text ++ [newlineByte])
    exact ⟨h.after_eq, h.refusal.trans (refusal?_ofResult _).symm⟩
  | write bytes =>
    simp only [requests, perform, writeBytes]
    split_ifs with hempty
    · exact ⟨rfl, rfl⟩
    · have h := console.makes_offer bytes
      exact ⟨h.after_eq, h.refusal.trans (refusal?_ofResult _).symm⟩
  | offer bytes =>
    have h := console.makes_offer bytes
    exact ⟨h.after_eq, h.refusal.trans (refusal?_ofResult _).symm⟩
  | flush =>
    have h := console.makes_emitPartial
    exact ⟨h.after_eq, h.refusal.trans (refusal?_ofResult _).symm⟩
  | finish =>
    have h := console.makes_emitAll
    exact ⟨h.after_eq, h.refusal.trans (refusal?_ofResult _).symm⟩
  | askTurn => exact ⟨rfl, rfl⟩

end Console

/-! ### Programs -/

/-- The requests of a program, from its start at a console on. -/
def Behaviour.requests : Behaviour → Console → List Channel.Request
  | stop _, _ => []
  | act action next, console =>
    console.requests action ++
      (next (console.perform action).1).requests (console.perform action).2

/-- A program leaves its channel as its requests do. -/
theorem Behaviour.serveAll_requests (behaviour : Behaviour) (console : Console) :
    console.channel.serveAll (behaviour.requests console) =
      (behaviour.run console).2.channel := by
  induction behaviour generalizing console with
  | stop ending => rfl
  | act action next ih =>
    rw [requests, Channel.serveAll_append, (console.makes_perform action).1, ih, run]

/-! ### No output without characters -/

namespace Channel

theorem write_nil_notMem_lineRequests (channel : Channel) (line : List UInt8) :
    Request.write [] ∉ channel.lineRequests line := by
  simp only [lineRequests]
  split_ifs with hempty
  · simp
  · have hne := Ne.symm hempty
    split <;> simp [hne]

theorem write_nil_notMem_drainRequests (channel : Channel) (bytes : List UInt8) :
    Request.write [] ∉ channel.drainRequests bytes := by
  fun_induction channel.drainRequests bytes with
  | case1 => exact List.not_mem_nil
  | case2 channel bytes line rest hcut ih =>
    rw [List.mem_append, not_or]
    refine ⟨channel.write_nil_notMem_lineRequests line, ?_⟩
    split
    · exact List.not_mem_nil
    · exact ih _

end Channel

namespace Console

theorem write_nil_notMem_allRequests (console : Console) :
    Channel.Request.write [] ∉ console.allRequests := by
  unfold allRequests
  rw [List.mem_append, not_or]
  refine ⟨Channel.write_nil_notMem_drainRequests _ _, ?_⟩
  split
  · exact List.not_mem_nil
  · split_ifs with hempty
    · exact List.not_mem_nil
    · exact Channel.write_nil_notMem_lineRequests _ _
    · simpa using (Text.Utf8.decodeLossy_ne_nil hempty).symm

/-- A console writes no output without characters to its channel. -/
theorem write_nil_notMem_requests (console : Console) (action : Action) :
    Channel.Request.write [] ∉ console.requests action := by
  cases action with
  | read =>
    change _ ∉ console.allRequests ++ _
    rw [List.mem_append, not_or]
    refine ⟨console.write_nil_notMem_allRequests, ?_⟩
    split <;> simp
  | printLine text => exact Channel.write_nil_notMem_drainRequests _ _
  | write bytes =>
    change _ ∉ ite _ _ _
    split_ifs
    · exact List.not_mem_nil
    · exact Channel.write_nil_notMem_drainRequests _ _
  | offer bytes => exact Channel.write_nil_notMem_drainRequests _ _
  | flush =>
    change _ ∉ ite _ _ _
    split_ifs with hstays
    · exact List.not_mem_nil
    · have hne := Text.Utf8.decodeLossy_ne_nil (not_or.mp hstays).1
      simpa using hne.symm
  | finish => exact console.write_nil_notMem_allRequests
  | askTurn => exact List.not_mem_nil

end Console

theorem Behaviour.write_nil_notMem_requests (behaviour : Behaviour) (console : Console) :
    Channel.Request.write [] ∉ behaviour.requests console := by
  induction behaviour generalizing console with
  | stop ending => exact List.not_mem_nil
  | act action next ih =>
    rw [requests, List.mem_append, not_or]
    exact ⟨console.write_nil_notMem_requests action, ih _ _⟩

end Dialogue
