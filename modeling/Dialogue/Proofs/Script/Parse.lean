import Dialogue.Proofs.Script.Block

/-!
# Parsing scripts

The entries that are read from logical lines are those of the grammar: cases and remarks where
something stands before them (`entriesOf_true_eq_ok_iff`), and arguments in front of them otherwise
(`entriesOf_false_eq_ok_iff`). `parse_eq_ok_iff` puts the layers together: a text is parsed exactly
if the grammar derives it, and the script has the arguments and the cases of the derivation.
-/

set_option autoImplicit false
set_option relaxedAutoImplicit false

namespace Dialogue.Script

/-! ### The entries of cases -/

/-- The entries of some cases. -/
def caseEntries (cases : List Case) : List Entry :=
  (cases.flatMap Case.steps).map Entry.step

/-- The entries of some arguments and some cases. -/
def dialogueEntries (arguments : Option (List Text)) (cases : List Case) : List Entry :=
  (arguments.map Entry.arguments).toList ++ caseEntries cases

theorem caseEntries_cons {case : Case} {input : Text} {expected : Step}
    (h : case.steps = [.input input, expected]) (cases : List Case) :
    caseEntries (case :: cases) =
      .step (.input input) :: .step expected :: caseEntries cases := by
  simp [caseEntries, h]

/-- A case is one input and one expected output. -/
theorem countP_flatMap_steps (cases : List Case) :
    (cases.flatMap Case.steps).countP Step.isInput = cases.length ∧
      (cases.flatMap Case.steps).countP Step.isExpect = cases.length := by
  induction cases with
  | nil => exact ⟨rfl, rfl⟩
  | cons case cases ih =>
    simp only [List.flatMap_cons, List.countP_append, ih, List.length_cons, Nat.add_comm _ 1]
    exact ⟨rfl, rfl⟩

/-! ### Reading entries -/

theorem map_eq_ok_iff {α β : Type} {f : α → β} {result : Except ScriptError α} {value : β} :
    f <$> result = .ok value ↔ ∃ found, result = .ok found ∧ f found = value := by
  cases result with
  | error e => simp
  | ok found => simp

theorem areCases_of_entriesOf {lines : List LogicalLine} {entries : List Entry}
    (h : entriesOf true lines = .ok entries) :
    ∃ cases, AreCases (lines.map LogicalLine.text) cases ∧ entries = caseEntries cases := by
  induction lines generalizing entries with
  | nil => exact ⟨[], .nil, (Except.ok.inj h).symm⟩
  | cons line lines ih =>
    unfold entriesOf at h
    split at h
    · next input expected hclass =>
      obtain ⟨others, hothers, rfl⟩ := map_eq_ok_iff.mp h
      obtain ⟨cases, hcases, rfl⟩ := ih hothers
      obtain ⟨case, hcase, hsteps⟩ := classify_eq_case_iff.mp hclass
      exact ⟨case :: cases, .case hcase hcases, (caseEntries_cons hsteps cases).symm⟩
    · simp at h
    · next hclass =>
      obtain ⟨cases, hcases, rfl⟩ := ih h
      exact ⟨cases, .remark (classify_eq_remark_iff.mp hclass) hcases, rfl⟩
    · contradiction

theorem entriesOf_of_areCases {texts : List Text} {cases : List Case} (h : AreCases texts cases)
    (started : Bool) {lines : List LogicalLine} (hlines : lines.map LogicalLine.text = texts) :
    entriesOf started lines = .ok (caseEntries cases) := by
  induction h generalizing started lines with
  | nil =>
    obtain rfl := List.map_eq_nil_iff.mp hlines
    rfl
  | remark hline _ ih =>
    obtain ⟨line, lines, rfl, rfl, hrest⟩ := List.map_eq_cons_iff.mp hlines
    rw [entriesOf, classify_eq_remark_iff.mpr hline]
    exact ih started hrest
  | @case _ _ case cases hline _ ih =>
    obtain ⟨line, lines, rfl, rfl, hrest⟩ := List.map_eq_cons_iff.mp hlines
    rw [entriesOf, classify_eq_case_iff.mpr ⟨case, hline, rfl⟩]
    dsimp only
    rw [ih true hrest, caseEntries_cons rfl]
    rfl

/-- Behind another entry, the entries are those of cases. -/
theorem entriesOf_true_eq_ok_iff {lines : List LogicalLine} {entries : List Entry} :
    entriesOf true lines = .ok entries ↔
      ∃ cases, AreCases (lines.map LogicalLine.text) cases ∧ entries = caseEntries cases := by
  constructor
  · exact areCases_of_entriesOf
  · rintro ⟨cases, hcases, rfl⟩
    exact entriesOf_of_areCases hcases true rfl

theorem areEntries_of_entriesOf {lines : List LogicalLine} {entries : List Entry}
    (h : entriesOf false lines = .ok entries) :
    ∃ arguments cases, AreEntries (lines.map LogicalLine.text) arguments cases ∧
      entries = dialogueEntries arguments cases := by
  induction lines generalizing entries with
  | nil => exact ⟨none, [], .cases .nil, (Except.ok.inj h).symm⟩
  | cons line lines ih =>
    unfold entriesOf at h
    split at h
    · next input expected hclass =>
      obtain ⟨others, hothers, rfl⟩ := map_eq_ok_iff.mp h
      obtain ⟨cases, hcases, rfl⟩ := entriesOf_true_eq_ok_iff.mp hothers
      obtain ⟨case, hcase, hsteps⟩ := classify_eq_case_iff.mp hclass
      exact ⟨none, case :: cases, .cases (.case hcase hcases), (caseEntries_cons hsteps cases).symm⟩
    · next values hclass =>
      obtain ⟨others, hothers, rfl⟩ := map_eq_ok_iff.mp h
      obtain ⟨cases, hcases, rfl⟩ := entriesOf_true_eq_ok_iff.mp hothers
      exact ⟨some values, cases, .arguments (classify_eq_arguments_iff.mp hclass) hcases, rfl⟩
    · next hclass =>
      obtain ⟨arguments, cases, hcases, rfl⟩ := ih h
      exact ⟨arguments, cases, .remark (classify_eq_remark_iff.mp hclass) hcases, rfl⟩
    · contradiction

theorem entriesOf_of_areEntries {texts : List Text} {arguments : Option (List Text)}
    {cases : List Case} (h : AreEntries texts arguments cases) {lines : List LogicalLine}
    (hlines : lines.map LogicalLine.text = texts) :
    entriesOf false lines = .ok (dialogueEntries arguments cases) := by
  induction h generalizing lines with
  | cases hcases => exact entriesOf_of_areCases hcases false hlines
  | remark hline _ ih =>
    obtain ⟨line, lines, rfl, rfl, hrest⟩ := List.map_eq_cons_iff.mp hlines
    rw [entriesOf, classify_eq_remark_iff.mpr hline]
    exact ih hrest
  | arguments hline hcases =>
    obtain ⟨line, lines, rfl, rfl, hrest⟩ := List.map_eq_cons_iff.mp hlines
    rw [entriesOf, classify_eq_arguments_iff.mpr hline]
    dsimp only
    rw [entriesOf_of_areCases hcases true hrest]
    rfl

/-- With nothing before them, the entries are those of cases, with arguments in front if any. -/
theorem entriesOf_false_eq_ok_iff {lines : List LogicalLine} {entries : List Entry} :
    entriesOf false lines = .ok entries ↔
      ∃ arguments cases, AreEntries (lines.map LogicalLine.text) arguments cases ∧
        entries = dialogueEntries arguments cases := by
  constructor
  · exact areEntries_of_entriesOf
  · rintro ⟨arguments, cases, hcases, rfl⟩
    exact entriesOf_of_areEntries hcases rfl

/-! ### Scripts -/

theorem stepsOf_append (arguments : Option (List Text)) (steps : List Step) :
    stepsOf ((arguments.map Entry.arguments).toList ++ steps.map Entry.step) = steps := by
  cases arguments with
  | none => exact stepsOf_map_step steps
  | some values => exact stepsOf_map_step steps

theorem argumentsOf_append (arguments : Option (List Text)) (steps : List Step) :
    argumentsOf ((arguments.map Entry.arguments).toList ++ steps.map Entry.step) = arguments := by
  cases arguments with
  | none => cases steps <;> rfl
  | some values => rfl

/-- Arguments stand in front of everything else if anywhere. -/
theorem isStep_of_mem_drop_dialogueEntries {arguments : Option (List Text)} {cases : List Case} :
    ∀ entry ∈ (dialogueEntries arguments cases).drop 1, entry.isStep = true := by
  have hcases : ∀ entry ∈ caseEntries cases, entry.isStep = true := by
    intro entry hmem
    obtain ⟨step, -, rfl⟩ := List.mem_map.mp hmem
    rfl
  cases arguments with
  | none => exact fun entry hmem ↦ hcases entry (List.mem_of_mem_drop hmem)
  | some values => exact hcases

/-- Entries in the order of a dialogue make the script of that dialogue. -/
theorem ofEntries_dialogueEntries_eq_ok_iff {arguments : Option (List Text)} {cases : List Case}
    {script : Script} :
    ofEntries (dialogueEntries arguments cases) = .ok script ↔
      script.arguments = arguments ∧ script.steps = cases.flatMap Case.steps := by
  have hordered : ((dialogueEntries arguments cases).drop 1).findIdx? (fun entry ↦ !entry.isStep) =
      none := by
    rw [List.findIdx?_eq_none_iff]
    intro entry hmem
    rw [isStep_of_mem_drop_dialogueEntries entry hmem, Bool.not_true]
  obtain ⟨given, steps, hne⟩ := script
  have hsteps : stepsOf (dialogueEntries arguments cases) = cases.flatMap Case.steps :=
    stepsOf_append arguments _
  have harguments : argumentsOf (dialogueEntries arguments cases) = arguments :=
    argumentsOf_append arguments _
  simp only [ofEntries, hordered, hsteps, harguments]
  split_ifs with hempty
  · refine iff_of_false (by simp) ?_
    rintro ⟨-, hsteps⟩
    exact hne (hsteps.trans hempty)
  · simp [eq_comm]

/-- The script of a text has the arguments and the cases of its derivation. -/
theorem parse_eq_ok_iff {text : Text} {script : Script} :
    parse text = .ok script ↔
      ∃ cases, Derives text script.arguments cases ∧ script.steps = cases.flatMap Case.steps := by
  have hlogical (logical : List Text) :
      (gather 1 none (physicalLines text)).map LogicalLine.text = logical ↔
        ∃ lines, PhysicalLines text lines ∧ Gathers lines logical := by
    simp only [gather_eq_iff, ← physicalLines_eq_iff, exists_eq_left']
  constructor
  · intro h
    simp only [parse] at h
    rcases hread : entriesOf false (gather 1 none (physicalLines text)) with e | entries
    · rw [hread] at h
      contradiction
    · rw [hread] at h
      obtain ⟨arguments, cases, hentries, rfl⟩ := entriesOf_false_eq_ok_iff.mp hread
      obtain ⟨rfl, hsteps⟩ := ofEntries_dialogueEntries_eq_ok_iff.mp h
      obtain ⟨lines, hlines, hgathers⟩ := (hlogical _).mp rfl
      refine ⟨cases, ⟨lines, _, hlines, hgathers, hentries, ?_⟩, hsteps⟩
      rintro rfl
      exact script.steps_ne_nil hsteps
  · rintro ⟨cases, ⟨lines, logical, hlines, hgathers, hentries, -⟩, hsteps⟩
    have htexts := (hlogical logical).mpr ⟨lines, hlines, hgathers⟩
    have hread := entriesOf_of_areEntries hentries htexts
    simp only [parse, hread]
    exact ofEntries_dialogueEntries_eq_ok_iff.mpr ⟨rfl, hsteps⟩

/-- The entries of a script are its arguments and its steps, and tell both. -/
theorem entries_eq_dialogueEntries_iff {script : Script} {arguments : Option (List Text)}
    {cases : List Case} :
    script.entries = dialogueEntries arguments cases ↔
      script.arguments = arguments ∧ script.steps = cases.flatMap Case.steps := by
  constructor
  · intro h
    constructor
    · rw [← argumentsOf_append script.arguments script.steps, ← entries, h]
      exact argumentsOf_append arguments _
    · rw [← stepsOf_append script.arguments script.steps, ← entries, h]
      exact stepsOf_append arguments _
  · rintro ⟨harguments, hsteps⟩
    rw [entries, harguments, hsteps]
    rfl

/-- The cases can be told from their steps. -/
theorem flatMap_steps_injective : Function.Injective (List.flatMap Case.steps) := by
  intro first second h
  induction first generalizing second with
  | nil =>
    cases second with
    | nil => rfl
    | cons case second => simp [Case.steps] at h
  | cons case first ih =>
    cases second with
    | nil => simp [Case.steps] at h
    | cons other second =>
      obtain ⟨input, pattern, mode⟩ := case
      obtain ⟨otherInput, otherPattern, otherMode⟩ := other
      simp only [List.flatMap_cons, Case.steps, List.cons_append, List.nil_append, List.cons.injEq,
        Step.input.injEq, Step.expect.injEq] at h
      obtain ⟨rfl, ⟨rfl, rfl⟩, hrest⟩ := h
      rw [ih hrest]

/-- Reading a script and deriving it are one. A text is parsed exactly if the grammar derives it;
the entries of the script are then the arguments that were derived, if any, and one input and one
expected output for each case, in the order of the file, so that there are as many inputs and as
many outputs as cases. -/
theorem parse_agrees_with_grammar (text : Text) :
    (∀ script, parse text = .ok script ↔
        ∃ cases, Derives text script.arguments cases ∧
          script.entries = dialogueEntries script.arguments cases) ∧
      ∀ arguments cases, Derives text arguments cases ↔
        ∃ script, parse text = .ok script ∧ script.entries = dialogueEntries arguments cases ∧
          script.inputCount = cases.length ∧ script.outputCount = cases.length := by
  refine ⟨fun script ↦ ?_, fun arguments cases ↦ ⟨fun hderives ↦ ?_, ?_⟩⟩
  · simp only [parse_eq_ok_iff, entries_eq_dialogueEntries_iff, true_and]
  · have hne : cases.flatMap Case.steps ≠ [] := by
      obtain ⟨-, -, -, -, -, hne⟩ := hderives
      exact fun hnil ↦ hne (flatMap_steps_injective hnil)
    obtain ⟨hinputs, houtputs⟩ := countP_flatMap_steps cases
    exact ⟨⟨arguments, cases.flatMap Case.steps, hne⟩, parse_eq_ok_iff.mpr ⟨cases, hderives, rfl⟩,
      rfl, hinputs, houtputs⟩
  · rintro ⟨script, hparse, hentries, -, -⟩
    obtain ⟨rfl, hsteps⟩ := entries_eq_dialogueEntries_iff.mp hentries
    obtain ⟨found, hderives, hfound⟩ := parse_eq_ok_iff.mp hparse
    obtain rfl : found = cases := flatMap_steps_injective (hfound.symm.trans hsteps)
    exact hderives

/-- What looks like a remark belongs to the pattern in a block that is still open, and options in
front of the pattern are taken away whether they have an effect or not. -/
example : (parse "# notes\n<\"a\">\n\"!!Cone\n# two\n\" : \"go\"\n".toList).map entries =
    .ok [.arguments ["a".toList], .step (.input "go".toList),
      .step (.expect "one\n# two\n".toList .caseInsensitive)] := by
  decide +kernel

end Dialogue.Script
