import Dialogue.Proofs.Script.Rereading

/-!
# Writing a script and reading it again

Of a script that has been read, every expectation is one that reads back when it is written
(`Case.Readable.reread_eq`), so what is written of readable cases and arguments is derived by the
grammar again (`derives_of_render?`). Two things only cannot be written: blank inputs, and the
sentinel as a pattern for which case is irrelevant (`render?_eq_none_iff`).
-/

set_option autoImplicit false
set_option relaxedAutoImplicit false

namespace Dialogue.Script

open Text

/-! ### What has been read -/

/-- A readable case is read as what it is. -/
theorem Case.Readable.reread_eq {case : Case} (h : case.Readable) : case.reread = case := by
  have hback : ReadsBack case.pattern case.mode :=
    ⟨h.sentinel, fun _ ↦ h.plainBreaks, fun _ ↦ h.options⟩
  rw [Case.reread, rereadPattern_eq_iff.mpr hback]

/-- What is written of readable arguments and cases is derived by the grammar. -/
theorem derives_of_render? {script : Script} {cases : List Case} {text : Text}
    (hsteps : script.steps = cases.flatMap Case.steps)
    (harguments : ∀ values ∈ script.arguments, ReadableArguments values)
    (hcases : ∀ case ∈ cases, case.Readable) (h : script.render? = some text) :
    Derives text script.arguments cases := by
  have hreread : cases.map Case.reread = cases :=
    (List.map_congr_left fun case hcase ↦ (hcases case hcase).reread_eq).trans cases.map_id
  have hderives := derives_reread_of_render? hsteps
    (fun values hvalues value hvalue ↦ ((harguments values hvalues).2 value hvalue).2.2) h
  rwa [hreread] at hderives

/-! ### What cannot be written -/

/-- A readable case has no written form if its input is blank, or if its pattern is the sentinel and
case is irrelevant for it. -/
theorem renderCase?_eq_none_iff {case : Case} (h : case.Readable) :
    renderCase? case = none ↔
      (∀ c ∈ case.input, isBlank c = true) ∨
        case.pattern = errorSentinel ∧ case.mode = .caseInsensitive := by
  obtain ⟨input, pattern, mode⟩ := case
  have hinput : renderInput? input = none ↔ ∀ c ∈ input, isBlank c = true := by
    simp [renderInput?, isBlankText, h.input.2, h.inputLine]
  have hexpectation : renderExpectation? pattern mode = none ↔
      pattern = errorSentinel ∧ mode = .caseInsensitive := by
    cases mode with
    | errorSentinel => simp [renderExpectation?]
    | exact => simpa [renderExpectation?, h.quote, h.options] using h.exact rfl
    | caseInsensitive => simp [renderExpectation?, h.quote]
  rw [← hinput, ← hexpectation, renderCase?]
  cases renderInput? input with
  | none => simp
  | some typed =>
    cases renderExpectation? pattern mode with
    | none => simp
    | some expectation => simp

theorem renderSteps?_eq_none_iff {cases : List Case} (h : ∀ case ∈ cases, case.Readable) :
    renderSteps? (cases.flatMap Case.steps) = none ↔
      ∃ case ∈ cases, (∀ c ∈ case.input, isBlank c = true) ∨
        case.pattern = errorSentinel ∧ case.mode = .caseInsensitive := by
  induction cases with
  | nil => simp [renderSteps?]
  | cons case cases ih =>
    obtain ⟨hcase, hcases⟩ := List.forall_mem_cons.mp h
    rw [List.exists_mem_cons_iff, ← ih hcases, ← renderCase?_eq_none_iff hcase, renderSteps?_cons]
    cases renderCase? case with
    | none => simp
    | some line =>
      cases renderSteps? (cases.flatMap Case.steps) with
      | none => simp
      | some others => simp

/-- Readable arguments are never the reason why a script has no written form. -/
theorem render?_eq_none_iff {script : Script} {cases : List Case}
    (hsteps : script.steps = cases.flatMap Case.steps)
    (harguments : ∀ values ∈ script.arguments, ReadableArguments values) :
    script.render? = none ↔ renderSteps? (cases.flatMap Case.steps) = none := by
  rw [render?, hsteps]
  rcases hsome : script.arguments with _ | values
  · cases renderSteps? (cases.flatMap Case.steps) with
    | none => simp
    | some steps => simp
  · obtain ⟨line, hwritten, -⟩ := renderArguments?_eq_some (harguments values hsome)
    dsimp only
    rw [hwritten]
    cases renderSteps? (cases.flatMap Case.steps) with
    | none => simp
    | some steps => simp

/-- The inputs and the patterns of cases are those of their steps. -/
theorem exists_mem_iff_exists_case (cases : List Case) :
    ((∃ line, Step.input line ∈ cases.flatMap Case.steps ∧ ∀ c ∈ line, isBlank c = true) ∨
        Step.expect errorSentinel .caseInsensitive ∈ cases.flatMap Case.steps) ↔
      ∃ case ∈ cases, (∀ c ∈ case.input, isBlank c = true) ∨
        case.pattern = errorSentinel ∧ case.mode = .caseInsensitive := by
  simp only [List.mem_flatMap, Case.steps, List.mem_cons, List.not_mem_nil, or_false,
    Step.input.injEq, Step.expect.injEq, reduceCtorEq, false_or]
  constructor
  · rintro (⟨line, ⟨case, hcase, rfl⟩, hblank⟩ | ⟨case, hcase, hpattern, hmode⟩)
    · exact ⟨case, hcase, .inl hblank⟩
    · exact ⟨case, hcase, .inr ⟨hpattern.symm, hmode.symm⟩⟩
  · rintro ⟨case, hcase, hblank | ⟨hpattern, hmode⟩⟩
    · exact .inl ⟨case.input, ⟨case, hcase, rfl⟩, hblank⟩
    · exact .inr ⟨case, hcase, hpattern.symm, hmode.symm⟩

/-! ### Writing and reading again -/

/-- A script that has been read and is written again is read as the same script. It can be written
unless one of its inputs is blank, or one of its patterns is the sentinel though case is irrelevant
for it. -/
theorem parse_render?_of_parse {text : Text} {script : Script} (h : parse text = .ok script) :
    (∀ written, script.render? = some written → parse written = .ok script) ∧
      (script.render? = none ↔
        (∃ line, Step.input line ∈ script.steps ∧ ∀ c ∈ line, isBlank c = true) ∨
          Step.expect errorSentinel .caseInsensitive ∈ script.steps) := by
  obtain ⟨cases, hsteps, harguments, hcases⟩ := readable_of_parse h
  constructor
  · intro written hwritten
    exact parse_eq_ok_iff.mpr
      ⟨cases, derives_of_render? hsteps harguments hcases hwritten, hsteps⟩
  · rw [render?_eq_none_iff hsteps harguments, renderSteps?_eq_none_iff hcases, hsteps,
      exists_mem_iff_exists_case]

/-- Options are written as one, numbers in quotes, and a pattern of several lines stays so. -/
theorem parse_render?_of_parse_three_cases :
    let text :=
      "<\"a\";\"b c\">\r\n-3 : \"sub 1 4\"\r\n\"!!CHi\r\n\" :  \"two\"\n00err : \"no\"".toList
    let written :=
      "<\"a\";\"b c\">\n\"-3\" : \"sub 1 4\"\n\"!CHi\n\" : \"two\"\n00err : \"no\"\n".toList
    ∃ script, parse text = .ok script ∧ script.render? = some written ∧
      parse written = .ok script := by
  intro text written
  have hsome : (parse text).toOption.isSome = true := by decide +kernel
  have hrender : (parse text).toOption.bind render? = some written := by decide +kernel
  rcases hparse : parse text with deviation | script
  · rw [hparse] at hsome
    contradiction
  · rw [hparse] at hrender
    exact ⟨script, rfl, hrender, (parse_render?_of_parse hparse).1 written hrender⟩

end Dialogue.Script
