import Dialogue.Proofs.Script.Rendering

/-!
# What a written script is read as

A script may be put together from any steps, and what is written of it need not be read as the same
script. `Case.reread` is what a case is read as: behind the marker `!C` its pattern loses what would
be read as further options, a pattern of several lines loses the carriage returns at the ends of all
but the last (`Text.trimBreaks`), and the sentinel takes the place of any other text in an
expectation that has its mode. `ReadsBack` says of an expectation that it loses nothing.

What is written of an expectation comes back as the expectation that `rereadPattern` says
(`exists_token_of_renderExpectation?`), so a file is read case by case
(`derives_reread_of_render?`). Only a line break in an argument makes a file unreadable
(`parse_render?_eq_malformed`): the line that the arguments begin on then ends while a quote is
open. `parse_render?_of_ofEntries` puts this together.
-/

set_option autoImplicit false
set_option relaxedAutoImplicit false

namespace Dialogue.Script

open Text

/-! ### Cases -/

/-- What a pattern is read as, when it is written with its mode. -/
def rereadPattern (pattern : Text) : MatchMode → Text
  | .exact => pattern.trimBreaks
  | .caseInsensitive => (readOptions pattern.trimBreaks).2
  | .errorSentinel => errorSentinel

/-- What a case is read as. -/
def Case.reread (case : Case) : Case :=
  { case with pattern := rereadPattern case.pattern case.mode }

/-- What is written of an expectation comes back, with an input behind it, as the expectation that
it is read as. -/
theorem exists_token_of_renderExpectation? {pattern expectation rest input : Text}
    {mode : MatchMode} (h : renderExpectation? pattern mode = some expectation)
    (hinput : IsInput rest input) (hrest : '\n' ∉ rest) :
    ∃ (token : Token) (written : Text), token.WrittenAs written ∧
      token.Means (rereadPattern pattern mode) mode ∧
      Regathers (expectation ++ rest) (written ++ rest) := by
  cases mode with
  | errorSentinel =>
    obtain rfl := Option.some.inj h
    refine ⟨_, _, .bare (.inr (.inr (.inr (.inl rfl)))), .bareSentinel, ?_⟩
    refine regathers_of_notMem ?_ ?_ ?_
    · exact List.mem_append.not.mpr (not_or.mpr ⟨by decide, hrest⟩)
    · rintro ⟨tail, -, heq⟩
      exact absurd (List.cons.inj heq).1 (by decide)
    · rw [hinput.getLast?_append]
      decide
  | exact =>
    simp only [renderExpectation?] at h
    split_ifs at h with hrefused
    simp only [not_or] at hrefused
    obtain ⟨hquote, hsentinel, hoptions⟩ := hrefused
    obtain rfl := Option.some.inj h
    have hother : pattern.trimBreaks ≠ errorSentinel := by
      intro heq
      by_cases hlines : '\n' ∈ pattern
      · exact absurd (heq ▸ newline_mem_trimBreaks hlines) (by decide)
      · exact hsentinel (trimBreaks_of_notMem hlines ▸ heq)
    have hnone := Options.none fun hhead ↦ hoptions (head?_trimBreaks (by decide) hhead)
    exact ⟨_, _, .quoted fun hmem ↦ hquote (pattern.trimBreaks_sublist.subset hmem),
      .exact hnone hother, regathers_inQuotes hquote hinput hrest⟩
  | caseInsensitive =>
    simp only [renderExpectation?] at h
    split_ifs at h with hrefused
    obtain rfl := Option.some.inj h
    have hquote : '"' ∉ "!C".toList ++ pattern := by simp [(not_or.mp hrefused).1]
    have htrim : trimBreaks ("!C".toList ++ pattern) = '!' :: 'C' :: pattern.trimBreaks :=
      trimBreaks_append (by decide) pattern
    refine ⟨_, _, .quoted fun hmem ↦ hquote ((trimBreaks_sublist _).subset hmem), ?_,
      regathers_inQuotes hquote hinput hrest⟩
    rw [htrim]
    exact .ignoringCase (.ignoreCase (options_readOptions pattern.trimBreaks))

/-- What is written of a case comes back as the case that it is read as. -/
theorem exists_isCase_of_renderCase? {case : Case} {written : Text}
    (h : renderCase? case = some written) :
    ∃ line, IsCase line case.reread ∧ Regathers written line := by
  simp only [renderCase?, Option.bind_eq_bind, Option.bind_eq_some_iff, Option.pure_def,
    Option.some_inj] at h
  obtain ⟨input, hwrite, expectation, hexpectation, rfl⟩ := h
  obtain ⟨hinput, hnewline⟩ := isInput_of_renderInput? hwrite
  obtain ⟨token, shown, hshown, hmeans, hregathers⟩ :=
    exists_token_of_renderExpectation? hexpectation hinput hnewline
  rw [List.append_assoc]
  exact ⟨_, ⟨token, shown, _, hshown, hmeans, hinput, rfl⟩, hregathers⟩

/-- What is written of cases falls into lines that are the cases that they are read as. -/
theorem areCases_of_renderSteps? {cases : List Case} {text : Text}
    (h : renderSteps? (cases.flatMap Case.steps) = some text) :
    ∃ logical, Yields text logical ∧ AreCases logical (cases.map Case.reread) := by
  induction cases generalizing text with
  | nil =>
    obtain rfl := Option.some.inj h
    exact ⟨[], yields_nil, .nil⟩
  | cons case cases ih =>
    rw [renderSteps?_cons] at h
    simp only [Option.bind_eq_bind, Option.bind_eq_some_iff, Option.pure_def,
      Option.some_inj] at h
    obtain ⟨written, hwritten, others, hothers, rfl⟩ := h
    obtain ⟨line, hline, hregathers⟩ := exists_isCase_of_renderCase? hwritten
    obtain ⟨logical, hyields, hareCases⟩ := ih hothers
    exact ⟨line :: logical, hyields.cons hregathers, .case hline hareCases⟩

/-! ### What is read as what it is -/

theorem plainBreaks_trimBreaks (text : Text) : PlainBreaks text.trimBreaks := by
  induction text with
  | nil => exact .of_notMem (.inl rfl) List.not_mem_nil
  | cons c rest ih =>
    rw [trimBreaks]
    split_ifs with hreturn
    · exact ih
    · intro hwithin
      rcases List.infix_cons_iff.mp hwithin with hprefix | htail
      · obtain ⟨rfl, hnewline⟩ := List.cons_prefix_cons.mp hprefix
        exact hreturn ⟨rfl, List.head?_eq_some_iff.mpr (List.cons_prefix_iff.mp hnewline |>.imp
          fun _ h ↦ h.1)⟩
      · exact ih htail

/-- A text whose line breaks are plain is one that loses nothing. -/
theorem trimBreaks_eq_iff {text : Text} : text.trimBreaks = text ↔ PlainBreaks text := by
  constructor
  · intro h
    rw [← h]
    exact plainBreaks_trimBreaks text
  · intro h
    induction text with
    | nil => rfl
    | cons c rest ih =>
      have hrest := ih (h.of_infix (List.suffix_cons c rest).isInfix)
      rw [trimBreaks, hrest, if_neg]
      rintro ⟨rfl, hhead⟩
      obtain ⟨others, rfl⟩ := List.head?_eq_some_iff.mp hhead
      exact h ⟨[], others, rfl⟩

/-- An expectation that is read as what it is when it has been written: the sentinel alone has the
mode that stands for it, a pattern has plain line breaks, and behind the marker `!C` it begins with
no option. -/
structure ReadsBack (pattern : Text) (mode : MatchMode) : Prop where
  sentinel : mode = .errorSentinel → pattern = errorSentinel
  plainBreaks : mode ≠ .errorSentinel → PlainBreaks pattern
  options : mode = .caseInsensitive → pattern.head? ≠ some '!'

theorem rereadPattern_eq_iff {pattern : Text} {mode : MatchMode} :
    rereadPattern pattern mode = pattern ↔ ReadsBack pattern mode := by
  cases mode with
  | errorSentinel => exact ⟨fun h ↦ ⟨fun _ ↦ h.symm, nofun, nofun⟩, fun h ↦ (h.sentinel rfl).symm⟩
  | exact =>
    exact ⟨fun h ↦ ⟨nofun, fun _ ↦ trimBreaks_eq_iff.mp h, nofun⟩,
      fun h ↦ trimBreaks_eq_iff.mpr (h.plainBreaks nofun)⟩
  | caseInsensitive =>
    change (readOptions pattern.trimBreaks).2 = pattern ↔ _
    constructor
    · intro h
      have hread := (options_readOptions pattern.trimBreaks).suffix
      rw [h] at hread
      have htrim : pattern.trimBreaks = pattern :=
        (trimBreaks_sublist pattern).eq_of_length_le hread.1.length_le
      exact ⟨nofun, fun _ ↦ trimBreaks_eq_iff.mp htrim, fun _ ↦ hread.2⟩
    · intro h
      rw [trimBreaks_eq_iff.mpr (h.plainBreaks nofun),
        readOptions_eq_iff.mpr (.none (h.options rfl))]

/-- What an entry is read as. -/
def rereadEntry : Entry → Entry
  | .step (.expect pattern mode) => .step (.expect (rereadPattern pattern mode) mode)
  | entry => entry

/-- No argument holds a line break. -/
def LineArguments (entries : List Entry) : Prop :=
  ∀ values, .arguments values ∈ entries → ∀ value ∈ values, '\n' ∉ value

theorem map_rereadEntry_eq_iff {entries : List Entry} :
    entries.map rereadEntry = entries ↔
      ∀ pattern mode, .step (.expect pattern mode) ∈ entries → ReadsBack pattern mode := by
  constructor
  · intro h pattern mode hmem
    have hentry := List.map_inj_left.mp (h.trans entries.map_id.symm) _ hmem
    simp only [rereadEntry, id_eq, Entry.step.injEq, Step.expect.injEq, and_true] at hentry
    exact rereadPattern_eq_iff.mp hentry
  · intro h
    refine (List.map_inj_left.mpr fun entry hmem ↦ ?_).trans entries.map_id
    match entry with
    | .arguments values => rfl
    | .step (.input line) => rfl
    | .step (.expect pattern mode) =>
      rw [rereadEntry, rereadPattern_eq_iff.mpr (h pattern mode hmem), id_eq]

/-! ### Scripts -/

/-- Entries that are all steps are those of their steps. -/
theorem map_step_stepsOf {entries : List Entry} (h : ∀ entry ∈ entries, entry.isStep = true) :
    (stepsOf entries).map Entry.step = entries := by
  induction entries with
  | nil => rfl
  | cons entry rest ih =>
    obtain ⟨hentry, hrest⟩ := List.forall_mem_cons.mp h
    cases entry with
    | arguments values => contradiction
    | step step => exact congrArg (Entry.step step :: ·) (ih hrest)

/-- The entries of a script are those that it was put together from. -/
theorem entries_eq_of_ofEntries {entries : List Entry} {script : Script}
    (h : ofEntries entries = .ok script) : script.entries = entries := by
  unfold ofEntries at h
  split at h
  · contradiction
  · next hordered =>
    split_ifs at h
    obtain rfl := Except.ok.inj h
    have hrest : ∀ entry ∈ entries.drop 1, entry.isStep = true := by
      simpa using List.findIdx?_eq_none_iff.mp hordered
    cases entries with
    | nil => rfl
    | cons entry rest =>
      cases entry with
      | arguments values => exact congrArg (Entry.arguments values :: ·) (map_step_stepsOf hrest)
      | step step => exact congrArg (Entry.step step :: ·) (map_step_stepsOf hrest)

/-- A script without line breaks in its arguments is written as a text that the grammar derives, for
the cases that it is read as. -/
theorem derives_reread_of_render? {script : Script} {cases : List Case} {text : Text}
    (hsteps : script.steps = cases.flatMap Case.steps)
    (harguments : ∀ values ∈ script.arguments, ∀ value ∈ values, '\n' ∉ value)
    (h : script.render? = some text) : Derives text script.arguments (cases.map Case.reread) := by
  have hne : cases.map Case.reread ≠ [] := by
    intro hnil
    rw [List.map_eq_nil_iff.mp hnil] at hsteps
    exact script.steps_ne_nil hsteps
  obtain ⟨head, steps, hrender, rfl, hhead⟩ := render?_eq_some_iff.mp h
  rw [hsteps] at hrender
  obtain ⟨logical, hyields, hareCases⟩ := areCases_of_renderSteps? hrender
  rcases hhead with ⟨hnone, rfl⟩ | ⟨values, hsome, hwritten⟩
  · rw [hnone]
    obtain ⟨lines, hlines, hgathers⟩ := hyields
    exact ⟨lines, logical, hlines, hgathers, .cases hareCases, hne⟩
  · rw [hsome]
    obtain ⟨hvalues, hquotable, -⟩ := isQuotable_of_renderArguments? hwritten
    obtain ⟨line, hline, hisArguments, hregathers⟩ := renderArguments?_eq_some
      ⟨hvalues, fun value hvalue ↦ ⟨(hquotable value hvalue).1, (hquotable value hvalue).2,
        harguments values hsome value hvalue⟩⟩
    obtain rfl := Option.some.inj (hwritten.symm.trans hline)
    rw [List.append_assoc, List.singleton_append]
    obtain ⟨lines, hlines, hgathers⟩ := hyields.cons hregathers
    exact ⟨lines, _, hlines, hgathers, .arguments hisArguments hareCases, hne⟩

/-! ### Arguments that are not read -/

/-- A first line that is nothing makes a file unreadable. -/
theorem parse_of_unknown {first rest : Text} (hfirst : '\n' ∉ first)
    (hopens : ¬Opens first.trimReturns) (hunknown : classify first.trimReturns = .unknown) :
    parse (first ++ '\n' :: rest) = .error (.malformed 1 first.trimReturns) := by
  rw [parse, physicalLines, lines_append hfirst, List.map_cons,
    gather_cons_of_not_opens 1 (.inl hopens), entriesOf]
  simp only [hunknown]
  rfl

theorem count_trimReturns (text : Text) : text.trimReturns.count '"' = text.count '"' := by
  obtain ⟨⟨count, htext⟩, -⟩ := trimReturns_eq_iff.mp (rfl : text.trimReturns = text.trimReturns)
  conv_rhs => rw [htext]
  rw [List.count_append, List.count_replicate, if_neg (by decide), Nat.add_zero]

theorem count_inQuotes {text : Text} (h : '"' ∉ text) : (inQuotes text).count '"' = 2 := by
  simp [inQuotes, List.count_append, List.count_eq_zero_of_not_mem h]

/-- Arguments are written with two quotes each. -/
theorem count_joinWith_inQuotes {values : List Text} (h : ∀ value ∈ values, '"' ∉ value) :
    (joinWith [';'] (values.map inQuotes)).count '"' = 2 * values.length := by
  induction values with
  | nil => rfl
  | cons value values ih =>
    obtain ⟨hvalue, hvalues⟩ := List.forall_mem_cons.mp h
    cases values with
    | nil => exact count_inQuotes hvalue
    | cons next values =>
      rw [List.map_cons, List.map_cons, joinWith, List.count_append, List.count_append,
        count_inQuotes hvalue, ← List.map_cons, ih hvalues]
      simp
      omega

/-- A line break in an argument leaves a quote open in front of it. -/
theorem exists_open_quote {values : List Text} (h : ∀ value ∈ values, '"' ∉ value)
    (hbreak : ∃ value ∈ values, '\n' ∈ value) :
    ∃ first rest, joinWith [';'] (values.map inQuotes) = first ++ '\n' :: rest ∧ '\n' ∉ first ∧
      first.count '"' % 2 = 1 := by
  induction values with
  | nil => simp at hbreak
  | cons value values ih =>
    obtain ⟨hvalue, hvalues⟩ := List.forall_mem_cons.mp h
    obtain ⟨tail, htail⟩ : ∃ tail, joinWith [';'] ((value :: values).map inQuotes) =
        inQuotes value ++ tail := by
      cases values with
      | nil => exact ⟨[], (List.append_nil _).symm⟩
      | cons next values => exact ⟨_, List.append_assoc _ _ _⟩
    by_cases hmem : '\n' ∈ value
    · -- The first line break of all stands in this argument, behind the quote that opens it.
      obtain ⟨before, after, rfl, hbefore⟩ := List.eq_append_cons_of_mem hmem
      refine ⟨'"' :: before, after ++ '"' :: tail, ?_, by simpa using hbefore, ?_⟩
      · rw [htail]
        simp [inQuotes]
      · have hquote : '"' ∉ before := fun hin ↦ hvalue (List.mem_append_left _ hin)
        rw [List.count_cons_self, List.count_eq_zero_of_not_mem hquote]
    · -- This argument is a line, so the first line break stands behind its two quotes.
      obtain ⟨first, rest, hjoined, hfirst, hodd⟩ := ih hvalues (by simpa [hmem] using hbreak)
      cases values with
      | nil => exact absurd hbreak (by simpa using hmem)
      | cons next values =>
        refine ⟨inQuotes value ++ ';' :: first, rest, ?_, by simp [inQuotes, hmem, hfirst], ?_⟩
        · rw [List.map_cons, List.map_cons, joinWith, ← List.map_cons, hjoined]
          simp
        · rw [List.count_append, count_inQuotes hvalue, List.count_cons_of_ne (by decide)]
          omega

/-- A line that begins as arguments do is nothing if it holds an odd number of quotes. -/
theorem classify_eq_unknown {text : Text} (h : text.count '"' % 2 = 1) :
    classify ('<' :: text) = .unknown := by
  cases hclass : classify ('<' :: text) with
  | case input expected =>
    obtain ⟨case, hcase, -⟩ := classify_eq_case_iff.mp hclass
    obtain ⟨c, rest, hline, hc⟩ := hcase.head
    obtain ⟨rfl, -⟩ := List.cons.inj hline
    exact absurd hc (by decide)
  | arguments values =>
    obtain ⟨-, hvalues, hline⟩ := classify_eq_arguments_iff.mp hclass
    rw [(List.cons.inj hline).2, List.count_append,
      count_joinWith_inQuotes fun value hvalue ↦ (hvalues value hvalue).1.2] at h
    simp at h
  | remark =>
    rcases classify_eq_remark_iff.mp hclass with hhead | hblank
    · exact absurd (Option.some.inj hhead) (by decide)
    · exact absurd (hblank '<' List.mem_cons_self) (by decide)
  | unknown => rfl

/-! ### Writing and reading -/

theorem arguments_mem_entries_iff {script : Script} {values : List Text} :
    .arguments values ∈ script.entries ↔ script.arguments = some values := by
  simp [entries, eq_comm]

/-- The entries of a dialogue are read case by case. -/
theorem map_rereadEntry_dialogueEntries (arguments : Option (List Text)) (cases : List Case) :
    (dialogueEntries arguments cases).map rereadEntry =
      dialogueEntries arguments (cases.map Case.reread) := by
  have hcases : (caseEntries cases).map rereadEntry = caseEntries (cases.map Case.reread) := by
    induction cases with
    | nil => rfl
    | cons case cases ih =>
      rw [List.map_cons, caseEntries_cons rfl, caseEntries_cons rfl, List.map_cons, List.map_cons,
        ih]
      rfl
  rw [dialogueEntries, List.map_append, hcases]
  cases arguments with
  | none => rfl
  | some values => rfl

/-- Without line breaks in its arguments, a script is read entry by entry. -/
theorem exists_parse_render?_eq_ok {script : Script} {written : Text}
    (hlines : LineArguments script.entries) (h : script.render? = some written) :
    ∃ again, parse written = .ok again ∧ again.entries = script.entries.map rereadEntry := by
  obtain ⟨cases, hsteps⟩ := exists_cases_of_render? h
  have hderives := derives_reread_of_render? hsteps
    (fun values hvalues ↦ hlines values (arguments_mem_entries_iff.mpr hvalues)) h
  have hne : (cases.map Case.reread).flatMap Case.steps ≠ [] := by
    obtain ⟨-, -, -, -, -, hne⟩ := hderives
    exact fun hnil ↦ hne (flatMap_steps_injective hnil)
  refine ⟨⟨script.arguments, _, hne⟩, parse_eq_ok_iff.mpr ⟨_, hderives, rfl⟩, ?_⟩
  rw [entries_eq_dialogueEntries_iff.mpr ⟨rfl, hsteps⟩, map_rereadEntry_dialogueEntries]
  exact entries_eq_dialogueEntries_iff.mpr ⟨rfl, rfl⟩

/-- With a line break in an argument, a script is written as a text that is none. -/
theorem parse_render?_eq_malformed {script : Script} {written : Text}
    (hbreak : ¬LineArguments script.entries) (h : script.render? = some written) :
    ∃ line, parse written = .error (.malformed 1 line) := by
  unfold LineArguments at hbreak
  push Not at hbreak
  obtain ⟨values, hvalues, hvalue⟩ := hbreak
  rw [arguments_mem_entries_iff] at hvalues
  obtain ⟨head, steps, -, rfl, ⟨hnone, -⟩ | ⟨given, hgiven, hhead⟩⟩ := render?_eq_some_iff.mp h
  · rw [hnone] at hvalues
    contradiction
  obtain rfl := Option.some.inj (hvalues.symm.trans hgiven)
  obtain ⟨-, hquotable, rfl⟩ := isQuotable_of_renderArguments? hhead
  obtain ⟨first, rest, hjoined, hfirst, hodd⟩ :=
    exists_open_quote (fun value hvalue ↦ (hquotable value hvalue).1.2) hvalue
  have hwritten : '<' :: joinWith [';'] (values.map inQuotes) ++ ['>', '\n'] ++ steps =
      ('<' :: first) ++ '\n' :: (rest ++ '>' :: '\n' :: steps) := by
    rw [hjoined]
    simp
  have htrim : trimReturns ('<' :: first) = '<' :: trimReturns first :=
    trimReturns_append (by decide : '\r' ∉ ['<']) first
  rw [hwritten, parse_of_unknown (by simpa using hfirst), htrim]
  · exact ⟨_, rfl⟩
  · rw [htrim]
    rintro ⟨tail, -, heq⟩
    exact absurd (List.cons.inj heq).1 (by decide)
  · rw [htrim]
    exact classify_eq_unknown (by rwa [count_trimReturns])

/-- Whatever entries a script has been put together from: if it is written, what is written is read
as the same entries exactly if no argument holds a line break and every expectation is one that
reads back. Any other expectation is read as another one, and the rest as it is; with a line break
in an argument nothing is read. -/
theorem parse_render?_of_ofEntries {entries : List Entry} {script : Script} {written : Text}
    (haccepted : ofEntries entries = .ok script) (hwritten : script.render? = some written) :
    ((∃ again, parse written = .ok again ∧ again.entries = entries) ↔
        LineArguments entries ∧
          ∀ pattern mode, .step (.expect pattern mode) ∈ entries → ReadsBack pattern mode) ∧
      (LineArguments entries →
        ∃ again, parse written = .ok again ∧ again.entries = entries.map rereadEntry) ∧
      (¬LineArguments entries → ∃ line, parse written = .error (.malformed 1 line)) := by
  obtain rfl := entries_eq_of_ofEntries haccepted
  refine ⟨⟨?_, ?_⟩, fun hlines ↦ exists_parse_render?_eq_ok hlines hwritten,
    fun hbreak ↦ parse_render?_eq_malformed hbreak hwritten⟩
  · rintro ⟨again, hagain, hentries⟩
    by_cases hlines : LineArguments script.entries
    · obtain ⟨found, hfound, hreread⟩ := exists_parse_render?_eq_ok hlines hwritten
      obtain rfl := Except.ok.inj (hagain.symm.trans hfound)
      exact ⟨hlines, map_rereadEntry_eq_iff.mp (hreread.symm.trans hentries)⟩
    · obtain ⟨line, hline⟩ := parse_render?_eq_malformed hlines hwritten
      exact nomatch hagain.symm.trans hline
  · rintro ⟨hlines, hback⟩
    obtain ⟨again, hagain, hentries⟩ := exists_parse_render?_eq_ok hlines hwritten
    exact ⟨again, hagain, hentries.trans (map_rereadEntry_eq_iff.mpr hback)⟩

/-- A carriage return in front of a line break is lost, and the rest is read as it is. -/
theorem parse_render?_of_ofEntries_lines :
    let entries : List Entry :=
      [.arguments ["a b".toList], .step (.input "two lines".toList),
        .step (.expect "one\r\ntwo".toList .exact), .step (.input "fail".toList),
        .step (.expect errorSentinel .errorSentinel)]
    ∃ script written, ofEntries entries = .ok script ∧ script.render? = some written ∧
      ∃ again, parse written = .ok again ∧
        again.entries =
          [.arguments ["a b".toList], .step (.input "two lines".toList),
            .step (.expect "one\ntwo".toList .exact), .step (.input "fail".toList),
            .step (.expect errorSentinel .errorSentinel)] := by
  intro entries
  let script : Script := ⟨argumentsOf entries, stepsOf entries, List.cons_ne_nil _ _⟩
  have haccepted : ofEntries entries = .ok script := rfl
  have hwritten : script.render? = some
      "<\"a b\">\n\"one\r\ntwo\" : \"two lines\"\n00err : \"fail\"\n".toList := by
    decide +kernel
  have hlines : LineArguments entries := by
    simp [LineArguments, entries]
  obtain ⟨again, hagain, hentries⟩ :=
    (parse_render?_of_ofEntries haccepted hwritten).2.1 hlines
  exact ⟨script, _, haccepted, hwritten, again, hagain, hentries⟩

/-- A pattern that begins with an exclamation mark is written where case is irrelevant, but the mark
is then read as another option. -/
theorem parse_render?_misses_entries :
    ¬∀ (entries : List Entry) (script : Script) (written : Text), ofEntries entries = .ok script →
      script.render? = some written → ∃ again, parse written = .ok again ∧
        again.entries = entries := by
  intro h
  let entries : List Entry :=
    [.step (.input "a".toList), .step (.expect "!x".toList .caseInsensitive)]
  obtain ⟨again, hagain, hentries⟩ := h entries ⟨none, stepsOf entries, List.cons_ne_nil _ _⟩
    "\"!C!x\" : \"a\"\n".toList rfl rfl
  have hread : (parse "\"!C!x\" : \"a\"\n".toList).map Script.entries =
      .ok [.step (.input "a".toList), .step (.expect "x".toList .caseInsensitive)] := by
    decide +kernel
  rw [hagain] at hread
  exact absurd (hentries.symm.trans (Except.ok.inj hread)) (by decide)

end Dialogue.Script
