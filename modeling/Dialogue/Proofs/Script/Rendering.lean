import Dialogue.Proofs.Script.Readable
import Dialogue.Proofs.Text.Breaks

/-!
# What is written of a script

A script is written case by case (`renderSteps?_cons`), and each case on lines that are gathered
again into one logical line (`Regathers`), even when its pattern has several lines
(`regathers_inQuotes`). That logical line is what has been written, but for the carriage returns in
front of its line breaks. A text is put together from such lines one by one (`Yields.cons`).
-/

set_option autoImplicit false
set_option relaxedAutoImplicit false

namespace Dialogue.Script

open Text

/-! ### Texts made of logical lines -/

/-- A text falls into physical lines that are gathered into these logical ones. -/
def Yields (text : Text) (logical : List Text) : Prop :=
  ∃ lines, PhysicalLines text lines ∧ Gathers lines logical

/-- A logical line comes back from the physical lines that another one is written on, whatever
follows. -/
structure Regathers (written line : Text) : Prop where
  trimmed : (splitOn '\n' written).map trimReturns = splitOn '\n' line
  gathers : ∀ {rest logical : List Text}, Gathers rest logical →
    Gathers (splitOn '\n' line ++ rest) (line :: logical)

theorem yields_nil : Yields [] [] :=
  ⟨[], ⟨[], .nil, .nil⟩, .nil⟩

theorem lines_joinWith_append {pieces : List Text} (hne : pieces ≠ [])
    (hpieces : ∀ piece ∈ pieces, '\n' ∉ piece) (rest : Text) :
    lines (joinWith ['\n'] pieces ++ '\n' :: rest) = pieces ++ lines rest := by
  induction pieces with
  | nil => contradiction
  | cons piece pieces ih =>
    obtain ⟨hpiece, hpieces⟩ := List.forall_mem_cons.mp hpieces
    cases pieces with
    | nil => exact lines_append hpiece rest
    | cons next pieces =>
      rw [joinWith, List.append_assoc, List.append_assoc, List.singleton_append,
        lines_append hpiece, ih (List.cons_ne_nil _ _) hpieces, List.cons_append,
        List.cons_append, List.cons_append]

/-- A logical line may be written in front of a text. -/
theorem Yields.cons {written line rest : Text} {logical : List Text}
    (hline : Regathers written line) (hrest : Yields rest logical) :
    Yields (written ++ '\n' :: rest) (line :: logical) := by
  obtain ⟨others, hothers, hgathers⟩ := hrest
  refine ⟨splitOn '\n' line ++ others, ?_, hline.gathers hgathers⟩
  rw [← physicalLines_eq_iff, physicalLines] at hothers ⊢
  have hlines := lines_joinWith_append (splitOn_ne_nil '\n' written)
    (separator_notMem_of_mem_splitOn '\n' written) rest
  rw [joinWith_splitOn] at hlines
  rw [hlines, List.map_append, hline.trimmed, hothers]

/-- A line without line feeds that opens no quote comes back as it is. -/
theorem regathers_of_notMem {line : Text} (hline : '\n' ∉ line) (hopens : ¬Opens line)
    (hlast : line.getLast? ≠ some '\r') : Regathers line line where
  trimmed := by
    rw [splitOn_of_notMem hline, List.map_singleton,
      trimReturns_eq_iff.mpr ⟨⟨0, by simp⟩, hlast⟩]
  gathers hrest := by
    rw [splitOn_of_notMem hline]
    exact .line (.inl hopens) hrest

/-! ### Quoted expectations over several lines -/

/-- A quote at the end of a line closes it. -/
theorem not_closes_of_notMem {line : Text} (h : '"' ∉ line) : ¬Closes line := by
  rintro ⟨before, rest, input, -, -, rfl⟩
  exact h (by simp)

/-- A line that ends with an input ends in a quote. -/
theorem IsInput.getLast?_append {rest input : Text} (h : IsInput rest input) (text : Text) :
    (text ++ rest).getLast? = some '"' := by
  obtain ⟨before, rfl⟩ := h.exists_eq
  have hline : text ++ (before ++ '"' :: (input ++ ['"'])) =
      (text ++ (before ++ '"' :: input)) ++ ['"'] := by simp
  rw [hline, List.getLast?_concat]

/-- A text without quotes, between quotes with an input behind it, is gathered from its lines. -/
theorem gathers_inQuotes {quoted rest input : Text} (hquote : '"' ∉ quoted)
    (hinput : IsInput rest input) (hrest : '\n' ∉ rest) {others logical : List Text}
    (hothers : Gathers others logical) :
    Gathers (splitOn '\n' (inQuotes quoted ++ rest) ++ others)
      ((inQuotes quoted ++ rest) :: logical) := by
  have hsplit := joinWith_splitOn '\n' quoted
  have hnewline := separator_notMem_of_mem_splitOn '\n' quoted
  rcases hpieces : splitOn '\n' quoted with _ | ⟨first, pieces⟩
  · exact absurd hpieces (splitOn_ne_nil '\n' quoted)
  rw [hpieces] at hsplit hnewline
  rcases List.eq_nil_or_concat' pieces with rfl | ⟨middle, last, rfl⟩
  · -- The text is one line, and the quote that it opens is closed in that line.
    obtain rfl : first = quoted := hsplit
    have hline : '\n' ∉ inQuotes first ++ rest := by
      simpa [inQuotes, hrest] using hnewline
    rw [splitOn_of_notMem hline]
    refine .line (.inl ?_) hothers
    rintro ⟨tail, htail, heq⟩
    obtain ⟨-, rfl⟩ := List.cons.inj heq
    exact htail (by simp)
  · -- The lines of the text make a block whose last line goes on with the input.
    have hblock : inQuotes quoted ++ rest =
        joinWith ['\n'] (('"' :: first) :: (middle ++ [last ++ '"' :: rest])) := by
      rw [joinWith_concat] at hsplit ⊢
      rw [← hsplit]
      cases middle <;> simp [inQuotes, joinWith]
    have hquotes : ∀ line ∈ first :: (middle ++ [last]), '"' ∉ line := fun line hline hmem ↦
      hquote (hsplit ▸ mem_joinWith hline hmem)
    simp only [List.forall_mem_cons, List.forall_mem_append] at hnewline hquotes
    have hlines : splitOn '\n' (inQuotes quoted ++ rest) =
        ('"' :: first) :: (middle ++ [last ++ '"' :: rest]) := by
      rw [hblock]
      refine splitOn_joinWith (List.cons_ne_nil _ _) ?_
      simp only [List.forall_mem_cons, List.forall_mem_append]
      exact ⟨by simpa using hnewline.1, hnewline.2.1,
        by simpa [hrest] using hnewline.2.2.1, by simp⟩
    rw [hlines, hblock, List.cons_append, List.append_assoc, List.singleton_append]
    exact .block ⟨first, hquotes.1, rfl⟩
      (fun line hline ↦ not_closes_of_notMem (hquotes.2.1 line hline))
      ⟨last, rest, input, hquotes.2.2.1, hinput, rfl⟩ hothers

/-- A text without quotes, written between quotes with an input behind it, comes back without the
carriage returns in front of its line breaks. -/
theorem regathers_inQuotes {quoted rest input : Text} (hquote : '"' ∉ quoted)
    (hinput : IsInput rest input) (hrest : '\n' ∉ rest) :
    Regathers (inQuotes quoted ++ rest) (inQuotes quoted.trimBreaks ++ rest) where
  trimmed := by
    have hending : trimReturns ('"' :: rest) = '"' :: rest := by
      refine trimReturns_eq_iff.mpr ⟨⟨0, by simp⟩, ?_⟩
      rw [← List.singleton_append, hinput.getLast?_append]
      decide
    have hwhole (text : Text) : inQuotes text ++ rest = ('"' :: text) ++ '"' :: rest := by
      simp [inQuotes]
    rw [hwhole, hwhole, map_trimReturns_splitOn (List.cons_ne_nil _ _) (by simpa using hrest)
      hending, trimBreaks_cons_of_ne (by decide)]
  gathers hothers :=
    gathers_inQuotes (fun hmem ↦ hquote (quoted.trimBreaks_sublist.subset hmem)) hinput hrest
      hothers

/-! ### Cases -/

/-- The written form of a case, without its line break. -/
def renderCase? (case : Case) : Option Text := do
  let input ← renderInput? case.input
  let expectation ← renderExpectation? case.pattern case.mode
  return expectation ++ " : ".toList ++ input

/-- Steps in pairs are written case by case. -/
theorem renderSteps?_cons (case : Case) (cases : List Case) :
    renderSteps? ((case :: cases).flatMap Case.steps) = (do
      let line ← renderCase? case
      let others ← renderSteps? (cases.flatMap Case.steps)
      return line ++ '\n' :: others) := by
  simp only [List.flatMap_cons, Case.steps, List.cons_append, List.nil_append, renderSteps?,
    renderCase?]
  cases renderInput? case.input with
  | none => rfl
  | some input =>
    cases renderExpectation? case.pattern case.mode with
    | none => rfl
    | some expectation => rfl

/-- Only steps in pairs are written. -/
theorem exists_cases_of_renderSteps? {steps : List Step} {text : Text}
    (h : renderSteps? steps = some text) :
    ∃ cases : List Case, steps = cases.flatMap Case.steps := by
  fun_induction renderSteps? steps generalizing text with
  | case1 => exact ⟨[], rfl⟩
  | case2 line pattern mode rest ih =>
    simp only [Option.bind_eq_bind, Option.bind_eq_some_iff] at h
    obtain ⟨-, -, -, -, others, hothers, -⟩ := h
    obtain ⟨cases, rfl⟩ := ih hothers
    exact ⟨⟨line, pattern, mode⟩ :: cases, rfl⟩
  | case3 => contradiction

/-- What is written of an input is that input. -/
theorem isInput_of_renderInput? {input written : Text} (h : renderInput? input = some written) :
    IsInput (" : ".toList ++ written) input ∧ '\n' ∉ " : ".toList ++ written := by
  unfold renderInput? at h
  split_ifs at h with hrefused
  simp only [not_or] at hrefused
  obtain ⟨hblank, hquote, hnewline⟩ := hrefused
  obtain rfl := Option.some.inj h
  have hspace : IsBlanks [' '] :=
    ⟨List.cons_ne_nil _ _, List.forall_mem_singleton.mpr (by decide)⟩
  have hne : input ≠ [] := by
    rintro rfl
    exact hblank rfl
  exact ⟨⟨[' '], [' '], hspace, hspace, ⟨hne, hquote⟩, rfl⟩, by simp [inQuotes, hnewline]⟩

/-! ### Arguments -/

/-- Readable arguments have a written form, which is gathered again. -/
theorem renderArguments?_eq_some {values : List Text} (h : ReadableArguments values) :
    ∃ line, renderArguments? values = some (line ++ ['\n']) ∧ IsArguments line values ∧
      Regathers line line := by
  obtain ⟨hne, hvalues⟩ := h
  refine ⟨'<' :: (joinWith [';'] (values.map inQuotes) ++ ['>']), ?_,
    ⟨hne, fun value hvalue ↦ ⟨(hvalues value hvalue).1, (hvalues value hvalue).2.1⟩, rfl⟩, ?_⟩
  · have hallowed : (values.isEmpty || values.any fun value ↦
        value.isEmpty || '"' ∈ value || ';' ∈ value) = false := by
      simp only [Bool.or_eq_false_iff, List.isEmpty_eq_false_iff, List.any_eq_false]
      refine ⟨hne, fun value hvalue ↦ ?_⟩
      obtain ⟨⟨hempty, hquote⟩, hsemicolon, -⟩ := hvalues value hvalue
      simp [hempty, hquote, hsemicolon]
    simp [renderArguments?, hallowed]
  · refine regathers_of_notMem ?_ ?_ ?_
    · have hjoined : '\n' ∉ joinWith [';'] (values.map inQuotes) := by
        refine notMem_joinWith (by decide) fun piece hpiece ↦ ?_
        obtain ⟨value, hvalue, rfl⟩ := List.mem_map.mp hpiece
        simp [inQuotes, (hvalues value hvalue).2.2]
      simp [hjoined]
    · rintro ⟨tail, -, heq⟩
      exact absurd (List.cons.inj heq).1 (by decide)
    · simp [List.getLast?_cons]

/-- What is written of arguments: each is quotable and holds no semicolon. -/
theorem isQuotable_of_renderArguments? {values : List Text} {text : Text}
    (h : renderArguments? values = some text) :
    values ≠ [] ∧ (∀ value ∈ values, IsQuotable value ∧ ';' ∉ value) ∧
      text = '<' :: joinWith [';'] (values.map inQuotes) ++ ['>', '\n'] := by
  unfold renderArguments? at h
  split_ifs at h with hrefused
  simp only [Bool.or_eq_true, List.isEmpty_iff, List.any_eq_true, decide_eq_true_eq, not_or,
    not_exists, not_and] at hrefused
  obtain rfl := Option.some.inj h
  refine ⟨hrefused.1, fun value hvalue ↦ ?_, rfl⟩
  obtain ⟨⟨hempty, hquote⟩, hsemicolon⟩ := hrefused.2 value hvalue
  exact ⟨⟨hempty, hquote⟩, hsemicolon⟩

/-! ### Scripts -/

/-- What is written of a script is what is written of its steps, behind its arguments if it has
any. -/
theorem render?_eq_some_iff {script : Script} {text : Text} :
    script.render? = some text ↔
      ∃ head steps, renderSteps? script.steps = some steps ∧ text = head ++ steps ∧
        (script.arguments = none ∧ head = [] ∨
          ∃ values, script.arguments = some values ∧ renderArguments? values = some head) := by
  rcases hsome : script.arguments with _ | values
  · simp [render?, hsome]
  · simp only [render?, hsome, Option.bind_eq_bind, Option.bind_eq_some_iff, Option.pure_def,
      Option.some_inj, reduceCtorEq, false_and, exists_eq_left', false_or]
    constructor
    · rintro ⟨head, hhead, steps, hsteps, rfl⟩
      exact ⟨head, steps, hsteps, rfl, hhead⟩
    · rintro ⟨head, steps, hsteps, rfl, hhead⟩
      exact ⟨head, hhead, steps, hsteps, rfl⟩

/-- A script that is written has its steps in pairs. -/
theorem exists_cases_of_render? {script : Script} {written : Text}
    (h : script.render? = some written) :
    ∃ cases : List Case, script.steps = cases.flatMap Case.steps := by
  obtain ⟨head, steps, hsteps, -⟩ := render?_eq_some_iff.mp h
  exact exists_cases_of_renderSteps? hsteps

end Dialogue.Script
