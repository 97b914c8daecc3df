import Dialogue.Proofs.Console.Refused
import Dialogue.Proofs.Console.Transcript
import Dialogue.Proofs.Run.Verdict
import Mathlib.Data.List.Infix

/-!
# The transcript of a run

A run is looked at between any two actions of its program and, while an action is under way, between
any two requests to the channel (`Run.snapshots`). At each of these moments the transcript is the
opening line followed by a first part of what the program has written so far, and between two
actions the console holds back the rest, unless something was refused (`Snapshot.Faithful`).

The invariant is `Console.Shows`, which is stated against the whole text that was written: an action
carries it on, because it relays what it writes (`Console.Shows.perform`), and a refusal freezes it.
While an action is under way the transcript only grows, so it lies between the two
(`Console.Shows.snapshots`). `transcript_faithful` adds what is said in the end: the transcript in
the report has nothing behind that first part but, if the run failed, the reason on a line of its
own.
-/

set_option autoImplicit false
set_option relaxedAutoImplicit false

namespace Dialogue

open Console (Action)

/-! ### Moments -/

/-- What there is to see at a moment of a run. -/
structure Snapshot where
  /-- What the program has written so far. -/
  written : List UInt8
  channel : Channel
  /-- What the console holds back, unless an action is under way. -/
  held? : Option (List UInt8)

/-- The transcript is an opening and a first part of the text that was written. Between two actions
the rest of it is held back, as long as nothing was refused. -/
def Snapshot.Faithful (opening : Text) (snapshot : Snapshot) : Prop :=
  ∃ text shown, snapshot.written = Text.Utf8.encode text ∧ shown <+: text ∧
    snapshot.channel.transcript = opening ++ shown ∧
    (snapshot.channel.failure = none →
      ∀ held ∈ snapshot.held?, Text.Utf8.encode shown ++ held = snapshot.written)

namespace Console

/-- What there is to see between two actions. -/
def snapshot (console : Console) (written : List UInt8) : Snapshot :=
  ⟨written, console.channel, some console.pending⟩

/-- What there is to see while an action is under way: before each of its requests, and behind the
last. -/
def snapshots (console : Console) (written : List UInt8) (action : Action) : List Snapshot :=
  (console.requests action).inits.map fun made ↦
    ⟨written ++ action.bytes, console.channel.serveAll made, none⟩

/-- An action that writes a text without carriage returns, if it writes anything. -/
def Action.Plain (action : Action) : Prop :=
  ∃ text, action.bytes = Text.Utf8.encode text ∧ '\r' ∉ text

end Console

namespace Behaviour

/-- What a program does at a console. -/
def actions : Behaviour → Console → List Action
  | stop _, _ => []
  | act action next, console =>
    action :: (next (console.perform action).1).actions (console.perform action).2

/-- What a program writes at a console. -/
def written (behaviour : Behaviour) (console : Console) : List UInt8 :=
  (behaviour.actions console).flatMap Action.bytes

/-- What there is to see of a program that starts at a console behind what was written before. -/
def snapshots : Behaviour → Console → List UInt8 → List Snapshot
  | stop _, console, written => [console.snapshot written]
  | act action next, console, written =>
    console.snapshot written :: (console.snapshots written action ++
      (next (console.perform action).1).snapshots (console.perform action).2
        (written ++ action.bytes))

end Behaviour

/-- What there is to see of a run, from the opening line on: while the program runs, while
everything that is left goes out, behind that, and when the run has been judged. -/
def Run.snapshots (behaviour : Behaviour) (script : Script) (marks : Marks) (name : Text) :
    List Snapshot :=
  let console := Console.opened (openChannel script marks name)
  let written := behaviour.written console
  let (ending, last) := behaviour.run console
  let final := last.emitAll.2
  behaviour.snapshots console [] ++ (last.snapshots written .finish ++
    [final.snapshot written, ⟨written, (judge ending final.channel).2, some final.pending⟩])

/-! ### The invariant -/

namespace Console

/-- The transcript is an opening and a first part of a text without carriage returns, and the rest
of the text is held back, as long as nothing was refused. -/
def Shows (opening text : Text) (console : Console) : Prop :=
  '\r' ∉ text ∧ ∃ shown rest, text = shown ++ rest ∧
    console.channel.transcript = opening ++ shown ∧
    (console.channel.failure = none → console.pending = Text.Utf8.encode rest)

namespace Shows

variable {opening text more : Text} {console : Console} {action : Action}

theorem opened {channel : Channel} (h : channel.transcript = opening) :
    (Console.opened channel).Shows opening [] :=
  ⟨List.not_mem_nil, [], [], rfl, h.trans (List.append_nil _).symm, fun _ ↦ rfl⟩

/-- What an action writes is shown or held back behind the text before it. -/
theorem perform (h : console.Shows opening text) (hbytes : action.bytes = Text.Utf8.encode more)
    (hplain : '\r' ∉ more) : (console.perform action).2.Shows opening (text ++ more) := by
  obtain ⟨hreturn, shown, rest, rfl, htranscript, hrest⟩ := h
  have hall : '\r' ∉ shown ++ rest ++ more := List.not_mem_append hreturn hplain
  rcases hfailure : console.channel.failure with _ | deviation
  · obtain ⟨left, ⟨gone, added, heq, hsheds, hadded⟩, hleft⟩ :=
      relays_perform (hrest hfailure) hbytes
    have hgone : added = gone := hsheds.eq_of_notMem fun hmem ↦ by
      refine hall ?_
      rw [List.append_assoc, heq]
      exact List.mem_append_right _ (List.mem_append_left _ hmem)
    refine ⟨hall, shown ++ gone, left, ?_, ?_, fun hnone ↦ hleft (refusal?_eq_none hnone)⟩
    · rw [List.append_assoc, heq, List.append_assoc]
    · rw [hadded, htranscript, hgone, List.append_assoc]
  · have hchannel := channel_perform_of_failure hfailure action
    refine ⟨hall, shown, rest ++ more, List.append_assoc .., hchannel ▸ htranscript, fun hnone ↦ ?_⟩
    rw [hchannel, hfailure] at hnone
    contradiction

theorem snapshot (h : console.Shows opening text) :
    (console.snapshot (Text.Utf8.encode text)).Faithful opening := by
  obtain ⟨-, shown, rest, rfl, htranscript, hrest⟩ := h
  refine ⟨_, shown, rfl, List.prefix_append shown rest, htranscript, fun hnone held hheld ↦ ?_⟩
  obtain rfl : console.pending = held := Option.some.inj hheld
  rw [hrest hnone]
  exact (Text.Utf8.encode_append shown rest).symm

/-- While an action is under way, the transcript lies between what it was and what it will be. -/
theorem snapshots (h : console.Shows opening text) (hbytes : action.bytes = Text.Utf8.encode more)
    (hplain : '\r' ∉ more) :
    ∀ snapshot ∈ console.snapshots (Text.Utf8.encode text) action, snapshot.Faithful opening := by
  obtain ⟨-, final, left, hfinal, hafter, -⟩ := h.perform hbytes hplain
  obtain ⟨-, shown, -, -, hbefore, -⟩ := h
  simp only [Console.snapshots, List.mem_map, List.mem_inits]
  rintro _ ⟨made, ⟨later, hmade⟩, rfl⟩
  obtain ⟨added, hadded⟩ := Channel.transcript_grows_serveAll console.channel made
  obtain ⟨others, hothers⟩ :=
    Channel.transcript_grows_serveAll (console.channel.serveAll made) later
  rw [← Channel.serveAll_append, hmade, (console.makes_perform action).1, hafter, ← hadded, hbefore,
    List.append_assoc, List.append_assoc, List.append_cancel_left_eq] at hothers
  refine ⟨text ++ more, shown ++ added, ?_, ?_, ?_, fun _ held hheld ↦ by contradiction⟩
  · rw [hbytes, Text.Utf8.encode_append]
  · exact ⟨others ++ left, by rw [hfinal, ← hothers]; simp⟩
  · rw [← hadded, hbefore, List.append_assoc]

end Shows

end Console

/-- A program carries the invariant to its end, and every moment of it is faithful. -/
theorem Behaviour.shows_run {opening text : Text} {behaviour : Behaviour} {console : Console}
    (h : console.Shows opening text)
    (hplain : ∀ action ∈ behaviour.actions console, action.Plain) :
    (∀ snapshot ∈ behaviour.snapshots console (Text.Utf8.encode text), snapshot.Faithful opening) ∧
      ∃ more, behaviour.written console = Text.Utf8.encode more ∧
        (behaviour.run console).2.Shows opening (text ++ more) := by
  induction behaviour generalizing console text with
  | stop ending =>
    rw [snapshots, List.forall_mem_singleton]
    exact ⟨h.snapshot, [], rfl, (List.append_nil text).symm ▸ h⟩
  | act action next ih =>
    rw [actions, List.forall_mem_cons] at hplain
    obtain ⟨⟨first, hbytes, hreturn⟩, hlater⟩ := hplain
    obtain ⟨hsnapshots, more, hmore, hrun⟩ := ih _ (h.perform hbytes hreturn) hlater
    refine ⟨?_, first ++ more, ?_, ?_⟩
    · rw [snapshots, List.forall_mem_cons, List.forall_mem_append, hbytes,
        ← Text.Utf8.encode_append]
      exact ⟨h.snapshot, h.snapshots hbytes hreturn, hsnapshots⟩
    · rw [written, actions, List.flatMap_cons, hbytes, Text.Utf8.encode_append, ← hmore, written]
    · rw [run, ← List.append_assoc]
      exact hrun

namespace Run

/-! ### The closing line -/

theorem transcript_openChannel (script : Script) (marks : Marks) (name : Text) :
    (openChannel script marks name).transcript = openingLine marks name ++ ['\n'] := by
  rw [openChannel, Channel.transcript_note]
  rfl

/-- Behind a line, a text ends with a line if it does so by itself. -/
theorem ends_line_iff (line shown : Text) :
    (line ++ ['\n'] ++ shown = [] ∨ (line ++ ['\n'] ++ shown).getLast? = some '\n') ↔
      (shown = [] ∨ shown.getLast? = some '\n') := by
  rcases List.eq_nil_or_concat shown with rfl | ⟨first, c, rfl⟩
  · simp
  · rw [List.concat_eq_append, ← List.append_assoc, List.getLast?_concat, List.getLast?_concat]
    simp

/-- Judging a run leaves it faithful. -/
theorem faithful_judge {opening : Text} {written : List UInt8} {channel : Channel}
    {held? : Option (List UInt8)} (h : Snapshot.Faithful opening ⟨written, channel, held?⟩)
    (ending : Ending) : Snapshot.Faithful opening ⟨written, (judge ending channel).2, held?⟩ := by
  obtain ⟨text, shown, hwritten, hshown, htranscript, hheld⟩ := h
  refine ⟨text, shown, hwritten, hshown, (transcript_judge ending channel).trans htranscript, ?_⟩
  obtain heq | ⟨-, deviation, heq⟩ := judge_snd ending channel
  · rw [heq]
    exact hheld
  · rw [heq]
    intro hnone
    contradiction

/-- The transcript in a report is that of the run, and behind it, if the run failed, the reason on a
line of its own. -/
theorem transcript_logged (host : Host) (program : Program) (path : Path) (script : Script)
    (options : Options) :
    let final := (finalState program script options.marks path.displayName).2
    let report := (logged host program path script options).1
    report.transcript =
      match report.outcome with
      | .passed => final.transcript
      | .failed failure => (final.note (options.marks.errorLine failure.message)).transcript := by
  intro final report
  obtain ⟨houtcome, -, -⟩ := logged_fst host program path script options
  have hreport := congrArg Report.transcript (withoutLog_logged host program path script options)
  have hjudge := transcript_judge (finalState program script options.marks path.displayName).1 final
  change report.outcome = _ at houtcome
  change report.transcript = _ at hreport
  simp only [Run.script] at hreport
  rcases hcase : judge (finalState program script options.marks path.displayName).1
    (finalState program script options.marks path.displayName).2 with ⟨outcome, after⟩
  simp only [hcase, final] at houtcome hjudge hreport
  rw [houtcome, hreport]
  rcases outcome with _ | failure
  · exact hjudge
  · dsimp only
    rw [Channel.transcript_note, Channel.transcript_note, hjudge]

/-- The transcript is faithful to what a program writes without carriage returns. At every moment of
a run it is the opening line and a first part of what has been written so far, and between two
actions the rest is held back, as long as nothing was refused. The transcript in the report is the
opening line and the part that is shown in the end. That is everything if the run passes, and a run
that fails has the reason behind it, on a line of its own. -/
theorem transcript_faithful (host : Host) (name : Text) (behaviour : List Text → Behaviour)
    (path : Path) (script : Script) (options : Options)
    (hplain : ∀ action ∈ (behaviour script.argumentList).actions
      (Console.opened (openChannel script options.marks path.displayName)), action.Plain) :
    let started := behaviour script.argumentList
    let console := Console.opened (openChannel script options.marks path.displayName)
    let opening := options.marks.infoLine ("## file: ".toList ++ path.displayName) ++ ['\n']
    let program := Program.ofBehaviour name behaviour
    let report := (logged host program path script options).1
    (∀ snapshot ∈ snapshots started script options.marks path.displayName,
        snapshot.Faithful opening) ∧
      ∃ text shown, started.written console = Text.Utf8.encode text ∧ shown <+: text ∧
        (finalState program script options.marks path.displayName).2.transcript =
          opening ++ shown ∧
        (report.outcome = .passed → shown = text ∧ report.transcript = opening ++ shown) ∧
        ∀ failure, report.outcome = .failed failure →
          report.transcript = opening ++ shown ++
            ((if shown = [] ∨ shown.getLast? = some '\n' then [] else ['\n']) ++
              options.marks.errorLine failure.message ++ ['\n']) := by
  intro started console opening program report
  have hopened : console.Shows opening [] := .opened (transcript_openChannel ..)
  obtain ⟨hsnapshots, text, hwritten, hrun⟩ := started.shows_run hopened hplain
  rw [List.nil_append] at hrun
  let last := (started.run console).2
  -- What is left goes out as in any action that writes nothing.
  have hfinal : (last.perform .finish).2.Shows opening (text ++ []) :=
    hrun.perform rfl List.not_mem_nil
  change last.emitAll.2.Shows opening _ at hfinal
  rw [List.append_nil] at hfinal
  have hsnapshot := hfinal.snapshot
  obtain ⟨-, shown, rest, htext, htranscript, hrest⟩ := hfinal
  refine ⟨?_, text, shown, hwritten, ⟨rest, htext.symm⟩, htranscript, fun hpassed ↦ ?_,
    fun failure hfailed ↦ ?_⟩
  · change ∀ snapshot ∈ started.snapshots console [] ++
      (last.snapshots (started.written console) .finish ++
        [last.emitAll.2.snapshot (started.written console), ⟨started.written console,
          (judge (started.run console).1 last.emitAll.2.channel).2,
          some last.emitAll.2.pending⟩]), _
    rw [hwritten, List.forall_mem_append, List.forall_mem_append, List.forall_mem_cons,
      List.forall_mem_singleton]
    exact ⟨hsnapshots, hrun.snapshots rfl List.not_mem_nil, hsnapshot, faithful_judge hsnapshot _⟩
  · obtain ⟨-, hnone, -, hreport⟩ := logged_of_passed hpassed
    change last.emitAll.2.channel.failure = none at hnone
    have hdone : (last.perform .finish).1.refusal? = none := Console.refusal?_eq_none hnone
    have hnothing : Text.Utf8.encode rest = [] :=
      (hrest hnone).symm.trans (Console.pending_emitAll (Console.eq_ok_of_refusal?_ofResult hdone))
    rw [Text.Utf8.encode_eq_nil_iff] at hnothing
    rw [hnothing, List.append_nil] at htext
    exact ⟨htext.symm, hreport.trans htranscript⟩
  · have hreport := transcript_logged host program path script options
    let final := last.emitAll.2.channel
    change report.transcript = match report.outcome with
      | .passed => final.transcript
      | .failed failure =>
        (final.note (options.marks.errorLine failure.message)).transcript at hreport
    rw [hfailed] at hreport
    dsimp only at hreport
    rw [hreport, Channel.transcript_note, htranscript]
    simp only [opening, ends_line_iff]

/-- A program that goes on writing after its last output has been matched is refused, and what it
wrote too much is not shown. -/
theorem transcript_faithful_stray_output :
    let script : Script :=
      ⟨none, [.input "add 2 3".toList, .expect "5".toList .exact], List.cons_ne_nil _ _⟩
    let behaviour := Behaviour.follow
      [.act .read false, .act (.write (Text.Utf8.encode "5\nbye".toList)) false, .act .read false]
    let path : Path := ⟨"sum.test".toList⟩
    let report := (logged default (Program.ofBehaviour [] fun _ ↦ behaviour) path script
      ⟨Marks.standard, none⟩).1
    (∀ snapshot ∈ snapshots behaviour script Marks.standard "sum.test".toList,
        snapshot.Faithful "Test: ## file: sum.test\n".toList) ∧
      report.transcript = "Test: ## file: sum.test\n5\n".toList ++
        "$Error: protocol violation: wrote 'bye' after the end of the expected output\n".toList := by
  intro script behaviour path report
  have hactions : behaviour.actions
      (Console.opened (openChannel script Marks.standard path.displayName)) =
        [.read, .write (Text.Utf8.encode "5\nbye".toList), .read] := by
    decide +kernel
  have hplain : ∀ action ∈ behaviour.actions
      (Console.opened (openChannel script Marks.standard path.displayName)), action.Plain := by
    rw [hactions]
    simp only [List.forall_mem_cons]
    exact ⟨⟨[], rfl, by decide⟩, ⟨_, rfl, by decide⟩, ⟨[], rfl, by decide⟩, by simp⟩
  obtain ⟨hsnapshots, -⟩ :=
    transcript_faithful default [] (fun _ ↦ behaviour) path script ⟨Marks.standard, none⟩ hplain
  exact ⟨hsnapshots, by decide +kernel⟩

end Run

end Dialogue
