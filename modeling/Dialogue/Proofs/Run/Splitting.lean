import Dialogue.Proofs.Console.Buffering
import Dialogue.Run.Log

/-!
# Programs that split their output differently

Two programs are told apart by their reports only if they differ in more than in how they split
their output (`Behaviour.SameOutput`): into how many writes, whether a line is printed or written
with its line break, and whether they flush before a read or behind a line break. What such programs
do after a refusal need not agree at all, because the channel then changes no more.

Each of these differences is transparent at any console (`Console.Alike`), so both programs end at
channels that are the same, and with the same ending as long as nothing has been refused
(`Behaviour.SameOutput.agree`). `buffering_transparent` puts the parts together.
-/

set_option autoImplicit false
set_option relaxedAutoImplicit false

namespace Dialogue

namespace Behaviour

open Console (Action refusal?_eq_none)

/-- An action that writes bytes. -/
def WritesBytes (action : List UInt8 → Action) : Prop :=
  action = .write ∨ action = .offer

/-- Two programs do the same but for how they split their output, unless something is refused. -/
inductive SameOutput : Behaviour → Behaviour → Prop
  | refl (behaviour : Behaviour) : SameOutput behaviour behaviour
  | symm {first second : Behaviour} : SameOutput first second → SameOutput second first
  | trans {first second third : Behaviour} :
    SameOutput first second → SameOutput second third → SameOutput first third
  /-- Both do the same first. -/
  | act {action : Action} {next other : Console.Reply → Behaviour}
    (hlater : ∀ reply, reply.refusal? = none → SameOutput (next reply) (other reply)) :
    SameOutput (act action next) (act action other)
  /-- One writes in two parts what the other writes at once. -/
  | split {action : List UInt8 → Action} (haction : WritesBytes action) (first second : List UInt8)
    {next other : Console.Reply → Behaviour} (hother : other .done = act (action second) next) :
    SameOutput (act (action first) other) (act (action (first ++ second)) next)
  /-- One prints a line that the other writes with its line break. -/
  | line (text : Text) (next : Console.Reply → Behaviour) :
    SameOutput (act (.printLine text) next)
      (act (.write (Text.Utf8.encode text ++ [newlineByte])) next)
  /-- One flushes before a line is read. -/
  | flushRead {next other : Console.Reply → Behaviour} (hother : other .done = act .read next) :
    SameOutput (act .flush other) (act .read next)
  /-- One flushes behind a line break. -/
  | flushLine {action : List UInt8 → Action} (haction : WritesBytes action) {bytes : List UInt8}
    (hlast : bytes.getLast? = some newlineByte) {next other : Console.Reply → Behaviour}
    (hother : other .done = act .flush next) :
    SameOutput (act (action bytes) other) (act (action bytes) next)

/-! ### Where a program ends -/

/-- How a program ends at a console, and its channel when everything has gone out. -/
def conclusion (behaviour : Behaviour) (console : Console) : Ending × Channel :=
  ((behaviour.run console).1, (behaviour.run console).2.emitAll.2.channel)

theorem conclusion_act (action : Action) (next : Console.Reply → Behaviour) (console : Console) :
    (act action next).conclusion console =
      (next (console.perform action).1).conclusion (console.perform action).2 := rfl

/-- A program that starts behind a refusal leaves the channel as it is. -/
theorem conclusion_of_failure (behaviour : Behaviour) {console : Console} {deviation : Deviation}
    (h : console.channel.failure = some deviation) :
    (behaviour.conclusion console).2 = console.channel := by
  have hrun := behaviour.channel_run_of_failure h
  have hemit := Console.channel_emitAll_of_failure (hrun ▸ h)
  exact hemit.trans hrun

/-- Two conclusions lead to the same verdict. -/
def Agree (first second : Ending × Channel) : Prop :=
  first.2 = second.2 ∧ (second.2.failure = none → first.1 = second.1)

namespace Agree

variable {first second third : Ending × Channel}

theorem refl (conclusion : Ending × Channel) : Agree conclusion conclusion := ⟨rfl, fun _ ↦ rfl⟩

theorem symm (h : Agree first second) : Agree second first :=
  ⟨h.1.symm, fun hnone ↦ (h.2 (h.1 ▸ hnone)).symm⟩

theorem trans (hfirst : Agree first second) (hsecond : Agree second third) : Agree first third :=
  ⟨hfirst.1.trans hsecond.1,
    fun hnone ↦ (hfirst.2 (hsecond.1.symm ▸ hnone)).trans (hsecond.2 hnone)⟩

/-- Behind a refusal any two programs agree, if they start at the same channel. -/
theorem of_failure {behaviour other : Behaviour} {console console' : Console}
    {deviation : Deviation} (h : console.channel.failure = some deviation)
    (hchannel : console'.channel = console.channel) :
    Agree (behaviour.conclusion console) (other.conclusion console') := by
  have hfirst := behaviour.conclusion_of_failure h
  have hfailure : console'.channel.failure = some deviation := hchannel ▸ h
  have hsecond := other.conclusion_of_failure hfailure
  refine ⟨hfirst.trans (hchannel.symm.trans hsecond.symm), fun hnone ↦ ?_⟩
  rw [hsecond, hchannel, h] at hnone
  contradiction

end Agree

/-! ### What makes no difference -/

/-- An action that is done or refused, and gives nothing else back. -/
def GivesNothing (action : Action) : Prop :=
  ∀ console : Console, (console.perform action).1.refusal? = none →
    (console.perform action).1 = .done

theorem refusal?_ofResult_eq_none {result : Except Deviation Unit}
    (h : (Console.Reply.ofResult result).refusal? = none) :
    Console.Reply.ofResult result = .done := by
  rcases result with _ | _
  · contradiction
  · rfl

theorem givesNothing_flush : GivesNothing .flush := fun _ ↦ refusal?_ofResult_eq_none

theorem WritesBytes.givesNothing {action : List UInt8 → Action} (h : WritesBytes action)
    (bytes : List UInt8) : GivesNothing (action bytes) := by
  rcases h with rfl | rfl <;> exact fun _ ↦ refusal?_ofResult_eq_none

/-- A program may do in two parts what another one does at once, if the two parts leave a console
that cannot be told apart and have the same reply. -/
theorem agree_of_parts {part rest whole : Action} {next other : Console.Reply → Behaviour}
    {console : Console} (hpart : GivesNothing part) (hother : other .done = act rest next)
    (halike : ((console.perform part).2.perform rest).2.Alike (console.perform whole).2)
    (hreply : (console.perform whole).2.channel.failure = none →
      ((console.perform part).2.perform rest).1 = (console.perform whole).1) :
    Agree ((act part other).conclusion console) ((act whole next).conclusion console) := by
  rw [conclusion_act, conclusion_act]
  cases hrefusal : (console.perform part).1.refusal? with
  | some deviation =>
    -- The channel is the one at which the first part was refused, on both sides.
    have hfailure := Console.failure_of_perform hrefusal
    have hchannel := halike.1.symm.trans (Console.channel_perform_of_failure hfailure rest)
    exact .of_failure hfailure hchannel
  | none =>
    rw [hpart console hrefusal, hother, conclusion_act]
    cases hfailure : (console.perform whole).2.channel.failure with
    | some deviation => exact (Agree.of_failure hfailure halike.1).symm
    | none =>
      rw [hreply hfailure, halike.2 hfailure]
      exact .refl _

/-- Writing in two parts makes no difference. -/
theorem alike_split {action : List UInt8 → Action} (haction : WritesBytes action)
    {console : Console} (hmarks : console.channel.marks.OneLine) (first second : List UInt8) :
    ((console.perform (action first)).2.perform (action second)).2.Alike
      (console.perform (action (first ++ second))).2 := by
  rcases haction with rfl | rfl
  · exact Console.alike_writeBytes hmarks first second
  · exact Console.alike_offer hmarks first second

/-- A flush behind a line break is no action at all. -/
theorem perform_flush {action : List UInt8 → Action} (haction : WritesBytes action)
    (console : Console) {bytes : List UInt8} (hlast : bytes.getLast? = some newlineByte) :
    (console.perform (action bytes)).2.perform .flush =
      (.done, (console.perform (action bytes)).2) := by
  have hne : bytes ≠ [] := by
    rintro rfl
    contradiction
  have hflush : (console.offer bytes).2.emitPartial = _ := Console.emitPartial_of_getLast? hlast
  rcases haction with rfl | rfl
  · simp only [Console.perform, Console.writeBytes, if_neg hne, hflush]
    rfl
  · simp only [Console.perform, hflush]
    rfl

/-- Programs with the same output end at the same channel, and in the same way as long as nothing
has been refused. -/
theorem SameOutput.agree {first second : Behaviour} (h : SameOutput first second)
    {console : Console} (hmarks : console.channel.marks.OneLine) :
    Agree (first.conclusion console) (second.conclusion console) := by
  induction h generalizing console with
  | refl behaviour => exact .refl _
  | symm _ ih => exact (ih hmarks).symm
  | trans _ _ ihfirst ihsecond => exact (ihfirst hmarks).trans (ihsecond hmarks)
  | @act action next other _ ih =>
    rw [conclusion_act, conclusion_act]
    cases hrefusal : (console.perform action).1.refusal? with
    | some deviation => exact .of_failure (Console.failure_of_perform hrefusal) rfl
    | none => exact ih _ hrefusal (by rwa [Console.marks_perform])
  | @split action haction first second next other hother =>
    have halike := alike_split haction hmarks first second
    refine agree_of_parts (haction.givesNothing first) hother halike fun hnone ↦ ?_
    rw [haction.givesNothing _ _ (refusal?_eq_none hnone)]
    rw [← halike.1] at hnone
    exact haction.givesNothing _ _ (refusal?_eq_none hnone)
  | line text next =>
    rw [conclusion_act, conclusion_act, Console.perform, Console.perform,
      Console.printLine_eq_writeBytes]
    exact .refl _
  | flushRead hother =>
    have hread : (console.perform .flush).2.perform .read = console.perform .read := by
      simp only [Console.perform, Console.readLine_emitPartial]
    exact agree_of_parts givesNothing_flush hother (.of_eq (congrArg Prod.snd hread))
      fun _ ↦ congrArg Prod.fst hread
  | @flushLine action haction bytes hlast next other hother =>
    have hflush := perform_flush haction console hlast
    refine agree_of_parts (haction.givesNothing bytes) hother (.of_eq (by rw [hflush]))
      fun hnone ↦ ?_
    rw [haction.givesNothing _ _ (refusal?_eq_none hnone), hflush]

end Behaviour

/-! ### The verdict -/

namespace Run

open Behaviour

/-- Conclusions that agree are judged alike. -/
theorem judge_eq_of_agree {first second : Ending × Channel} (h : Agree first second) :
    judge first.1 first.2 = judge second.1 second.2 := by
  rw [judge, judge, h.1]
  split
  · rfl
  · next hnone => rw [h.2 hnone]

/-- What is reported of a program follows from how it is judged. -/
theorem script_eq_of_judge_eq {program other : Program} {path : Path} {script : Script}
    {marks : Marks}
    (h : judge (finalState program script marks path.displayName).1
        (finalState program script marks path.displayName).2 =
      judge (finalState other script marks path.displayName).1
        (finalState other script marks path.displayName).2) :
    Run.script program path script marks = Run.script other path script marks := by
  simp only [Run.script, h]

/-- Programs with the same output have the same report, log and all. -/
theorem logged_eq_of_sameOutput (host : Host) (name : Text) {first second : List Text → Behaviour}
    (path : Path) (script : Script) (options : Options) (hmarks : options.marks.OneLine)
    (hsame : SameOutput (first script.argumentList) (second script.argumentList)) :
    logged host (Program.ofBehaviour name first) path script options =
      logged host (Program.ofBehaviour name second) path script options := by
  let channel := openChannel script options.marks path.displayName
  have hopened : (Console.opened channel).channel.marks.OneLine := hmarks
  have hagree : Agree
      (finalState (Program.ofBehaviour name first) script options.marks path.displayName)
      (finalState (Program.ofBehaviour name second) script options.marks path.displayName) :=
    hsame.agree hopened
  rw [logged, logged, script_eq_of_judge_eq (judge_eq_of_agree hagree)]

/-- Buffering is transparent. At any console, whatever its channel has been through and whatever it
holds back, bytes that are written in two parts leave the channel that they leave when written at
once, and the same is held back unless something has been refused. A line is printed as it is
written with its line break. A flush makes no difference to a read right behind it, and none at all
right behind a line break. Hence the report on a program does not depend on how it splits its
output. -/
theorem buffering_transparent :
    (∀ (console : Console) (first second : List UInt8), console.channel.marks.OneLine →
      let apart := ((console.offer first).2.offer second).2
      let together := (console.offer (first ++ second)).2
      apart.channel = together.channel ∧
        (together.channel.failure = none → apart.pending = together.pending)) ∧
    (∀ (console : Console) (first second : List UInt8), console.channel.marks.OneLine →
      let apart := ((console.writeBytes first).2.writeBytes second).2
      let together := (console.writeBytes (first ++ second)).2
      apart.channel = together.channel ∧
        (together.channel.failure = none → apart.pending = together.pending)) ∧
    (∀ (console : Console) (text : Text),
      console.printLine text = console.writeBytes (Text.Utf8.encode text ++ [newlineByte])) ∧
    (∀ console : Console, console.emitPartial.2.readLine = console.readLine) ∧
    (∀ (console : Console) (bytes : List UInt8), bytes.getLast? = some newlineByte →
      (console.offer bytes).2.emitPartial = (.ok (), (console.offer bytes).2)) ∧
    ∀ (host : Host) (name : Text) (first second : List Text → Behaviour) (path : Path)
      (script : Script) (options : Options), options.marks.OneLine →
      (∀ arguments, SameOutput (first arguments) (second arguments)) →
        logged host (Program.ofBehaviour name first) path script options =
          logged host (Program.ofBehaviour name second) path script options := by
  refine ⟨fun console first second hmarks ↦ ?_, fun console first second hmarks ↦ ?_,
    Console.printLine_eq_writeBytes, Console.readLine_emitPartial,
    fun console bytes ↦ Console.emitPartial_of_getLast?, ?_⟩
  · have halike := Console.alike_offer hmarks first second
    exact ⟨halike.1, fun hnone ↦ congrArg Console.pending (halike.2 hnone)⟩
  · have halike := Console.alike_writeBytes hmarks first second
    exact ⟨halike.1, fun hnone ↦ congrArg Console.pending (halike.2 hnone)⟩
  · intro host name first second path script options hmarks hsame
    exact logged_eq_of_sameOutput host name path script options hmarks (hsame _)

/-- A character may be split between two writes. -/
theorem buffering_transparent_split_character :
    let script : Script :=
      ⟨none, [.input "x".toList, .expect "é".toList .exact], List.cons_ne_nil _ _⟩
    let console : Console := ⟨(Channel.start script Marks.standard).read.2, []⟩
    let apart := ((console.offer [0xC3]).2.offer [0xA9, 10]).2
    let together := (console.offer [0xC3, 0xA9, 10]).2
    let written := fun _ : List Text ↦ follow [.act .read false, .act (.write [0xC3]) false,
      .act (.write [0xA9, 10]) false, .act .read false]
    let printed := fun _ : List Text ↦ follow [.act .read false, .act (.printLine "é".toList) false,
      .act .read false]
    let report (behaviour : List Text → Behaviour) :=
      (logged default (Program.ofBehaviour [] behaviour) default script ⟨Marks.standard, none⟩).1
    together.channel.outputsMatched = 1 ∧ together.channel.failure = none ∧
      apart.channel = together.channel ∧ apart.pending = together.pending ∧
      report written = report printed := by
  intro script console apart together written printed report
  have hmarks : Marks.standard.OneLine := by decide
  have hmatched : together.channel.outputsMatched = 1 := by decide +kernel
  have hfailure : together.channel.failure = none := by decide +kernel
  obtain ⟨hoffer, -, -, -, -, hreport⟩ := buffering_transparent
  obtain ⟨hchannel, hpending⟩ := hoffer console [0xC3] [0xA9, 10] hmarks
  have hbytes : Text.Utf8.encode "é".toList ++ [newlineByte] = [0xC3, 0xA9, 10] := by decide +kernel
  -- What is done after a refusal differs, but need not agree.
  have hprinted : SameOutput (follow [.act (.printLine "é".toList) false, .act .read false])
      (follow [.act (.write [0xC3, 0xA9, 10]) false, .act .read false]) := by
    refine (SameOutput.line _ _).trans ?_
    rw [hbytes]
    refine .act fun reply hreply ↦ ?_
    cases reply with
    | refused => contradiction
    | line | done | turn => exact .refl _
  have hsame : SameOutput (written []) (printed []) := by
    refine .act fun reply hreply ↦ ?_
    cases reply with
    | refused => contradiction
    | line | done | turn =>
      exact (SameOutput.split (.inl rfl) [0xC3] [0xA9, 10] rfl).trans hprinted.symm
  exact ⟨hmatched, hfailure, hchannel, hpending hfailure,
    congrArg Prod.fst (hreport default [] written printed default script ⟨Marks.standard, none⟩
      hmarks fun _ ↦ hsame)⟩

end Run

end Dialogue
