import Dialogue.Proofs.Script.Parse
import Mathlib.Data.List.Infix

/-!
# What has been read from a file

A file cannot write everything. Physical lines end in line feeds alone once their carriage returns
are gone, so no line that is gathered from them has a carriage return in front of a line feed
(`Gathered`). The input of a case stands in the last physical line and is one line itself, and the
options are taken away from the front of its pattern; `Case.Readable` collects what is therefore
true of every case that has been read, and `ReadableArguments` what is true of arguments
(`readable_of_parse`).
-/

set_option autoImplicit false
set_option relaxedAutoImplicit false

namespace Dialogue.Script

open Text

/-! ### Line breaks -/

/-- No line feed stands behind a carriage return. -/
def PlainBreaks (text : Text) : Prop :=
  ¬['\r', '\n'] <:+: text

namespace PlainBreaks

theorem of_infix {part text : Text} (h : PlainBreaks text) (hpart : part <:+: text) :
    PlainBreaks part :=
  fun hwithin ↦ h (hwithin.trans hpart)

theorem of_notMem {c : Char} (hc : c = '\r' ∨ c = '\n') {text : Text} (h : c ∉ text) :
    PlainBreaks text := by
  intro hwithin
  refine h (hwithin.subset ?_)
  rcases hc with rfl | rfl
  · exact List.mem_cons_self
  · exact List.mem_cons_of_mem _ List.mem_cons_self

/-- A line that does not end in a carriage return may stand in front of others. -/
theorem append_newline {line rest : Text} (hline : '\n' ∉ line)
    (hlast : line.getLast? ≠ some '\r') (hrest : PlainBreaks rest) :
    PlainBreaks (line ++ '\n' :: rest) := by
  induction line with
  | nil =>
    intro hwithin
    rcases List.infix_cons_iff.mp hwithin with hprefix | htail
    · obtain ⟨hreturn, -⟩ := List.cons_prefix_cons.mp hprefix
      exact absurd hreturn (by decide)
    · exact hrest htail
  | cons c line ih =>
    intro hwithin
    rcases List.infix_cons_iff.mp hwithin with hprefix | htail
    · obtain ⟨rfl, hnewline⟩ := List.cons_prefix_cons.mp hprefix
      cases line with
      | nil => exact hlast rfl
      | cons d line =>
        obtain ⟨rfl, -⟩ := List.cons_prefix_cons.mp hnewline
        exact hline (List.mem_cons_of_mem _ List.mem_cons_self)
    · have hrest : '\n' ∉ line := fun hmem ↦ hline (List.mem_cons_of_mem c hmem)
      refine ih hrest (fun hreturn ↦ hlast ?_) htail
      rw [List.getLast?_cons, hreturn]
      rfl

theorem joinWith {lines : List Text}
    (h : ∀ line ∈ lines, '\n' ∉ line ∧ line.getLast? ≠ some '\r') :
    PlainBreaks (Text.joinWith ['\n'] lines) := by
  induction lines with
  | nil => exact of_notMem (.inr rfl) (by simp [Text.joinWith])
  | cons line lines ih =>
    obtain ⟨⟨hline, hlast⟩, hlines⟩ := List.forall_mem_cons.mp h
    cases lines with
    | nil => exact of_notMem (.inr rfl) hline
    | cons next lines =>
      rw [Text.joinWith, List.append_assoc, List.singleton_append]
      exact append_newline hline hlast (ih hlines)

/-- A text without such breaks stays as it is when its line breaks are unified. -/
theorem unifyBreaks_eq {text : Text} (h : PlainBreaks text) :
    text.unifyBreaks = text := by
  fun_induction unifyBreaks text with
  | case1 => rfl
  | case2 rest ih => exact absurd ⟨[], rest, rfl⟩ h
  | case3 c rest hcase ih => rw [ih (h.of_infix (List.suffix_cons c rest).isInfix)]

end PlainBreaks

/-! ### Logical lines -/

theorem AreLines.newline_notMem {text : Text} {pieces : List Text} (h : AreLines text pieces) :
    ∀ piece ∈ pieces, '\n' ∉ piece := by
  induction h with
  | nil => simp
  | last _ hline => simpa using hline
  | cons hline _ ih => exact List.forall_mem_cons.mpr ⟨hline, ih⟩

/-- A physical line holds no line feed, and no carriage return ends it. -/
theorem PhysicalLines.of_mem {text : Text} {lines : List Text} (h : PhysicalLines text lines) :
    ∀ line ∈ lines, '\n' ∉ line ∧ line.getLast? ≠ some '\r' := by
  obtain ⟨pieces, hpieces, hlines⟩ := h
  have hnewline := hpieces.newline_notMem
  clear hpieces
  induction hlines with
  | nil => simp
  | cons hdrops _ ih =>
    obtain ⟨⟨count, rfl⟩, hlast⟩ := hdrops
    obtain ⟨hpiece, hrest⟩ := List.forall_mem_cons.mp hnewline
    exact List.forall_mem_cons.mpr
      ⟨⟨fun hmem ↦ hpiece (List.mem_append_left _ hmem), hlast⟩, ih hrest⟩

/-- A line as it may come from physical ones: a physical line, or a block with the line that closes
it at its end. -/
structure Gathered (line : Text) : Prop where
  plainBreaks : PlainBreaks line
  lines : '\n' ∉ line ∨ line.head? = some '"' ∧
    ∃ before last, '\n' ∉ last ∧ Closes last ∧ line = before ++ '\n' :: last

theorem joinWith_concat (first : Text) (middle : List Text) (last : Text) :
    joinWith ['\n'] (first :: (middle ++ [last])) =
      joinWith ['\n'] (first :: middle) ++ '\n' :: last := by
  induction middle generalizing first with
  | nil => simp [joinWith]
  | cons next middle ih =>
    rw [List.cons_append, joinWith, ih, joinWith]
    simp

theorem head?_joinWith {c : Char} {rest : Text} (pieces : List Text) :
    (joinWith ['\n'] ((c :: rest) :: pieces)).head? = some c := by
  cases pieces <;> rfl

/-- Logical lines are gathered from physical ones. -/
theorem Gathers.gathered {lines logical : List Text} (h : Gathers lines logical)
    (hlines : ∀ line ∈ lines, '\n' ∉ line ∧ line.getLast? ≠ some '\r') :
    ∀ line ∈ logical, Gathered line := by
  induction h with
  | nil => simp
  | line _ _ ih =>
    obtain ⟨⟨hline, -⟩, hrest⟩ := List.forall_mem_cons.mp hlines
    exact List.forall_mem_cons.mpr ⟨⟨.of_notMem (.inr rfl) hline, .inl hline⟩, ih hrest⟩
  | @block first last middle rest logical hfirst hmiddle hlast _ ih =>
    have hblock : ∀ line ∈ first :: (middle ++ [last]), '\n' ∉ line ∧ line.getLast? ≠ some '\r' :=
      fun line hmem ↦ hlines line (by
        simp only [List.mem_cons, List.mem_append] at hmem ⊢
        tauto)
    have hothers : ∀ line ∈ rest, '\n' ∉ line ∧ line.getLast? ≠ some '\r' :=
      fun line hmem ↦ hlines line (by simp [hmem])
    refine List.forall_mem_cons.mpr ⟨⟨.joinWith hblock, .inr ⟨?_, _, last, ?_, hlast,
      joinWith_concat first middle last⟩⟩, ih hothers⟩
    · obtain ⟨text, -, rfl⟩ := hfirst
      exact head?_joinWith _
    · exact (hblock last (by simp)).1
  | unclosed => simp

/-! ### Cases -/

/-- What is true of a case that has been read. Its pattern holds no quote, no option in front and no
carriage return at the end of a line but the last; the sentinel is the only pattern with a mode of
its own, and no other mode that compares texts as they are has it. -/
structure Case.Readable (case : Case) : Prop where
  input : IsQuotable case.input
  inputLine : '\n' ∉ case.input
  quote : '"' ∉ case.pattern
  options : case.pattern.head? ≠ some '!'
  plainBreaks : PlainBreaks case.pattern
  sentinel : case.mode = .errorSentinel → case.pattern = errorSentinel
  exact : case.mode = .exact → case.pattern ≠ errorSentinel

/-- What stands behind the last of some characters is told by the text. -/
theorem eq_of_append_cons_eq {c : Char} {first second before other : Text} (hfirst : c ∉ first)
    (hsecond : c ∉ second) (h : before ++ c :: first = other ++ c :: second) : first = second := by
  rcases List.append_eq_append_iff.mp h with ⟨between, -, heq⟩ | ⟨between, -, heq⟩
  · cases between with
    | nil => exact (List.cons.inj heq).2
    | cons d between =>
      obtain ⟨-, rfl⟩ := List.cons.inj heq
      exact absurd (List.mem_append_right between List.mem_cons_self) hfirst
  · cases between with
    | nil => exact (List.cons.inj heq).2.symm
    | cons d between =>
      obtain ⟨-, rfl⟩ := List.cons.inj heq
      exact absurd (List.mem_append_right between List.mem_cons_self) hsecond

/-- A case ends with its input in quotes. -/
theorem IsInput.exists_eq {text input : Text} (h : IsInput text input) :
    ∃ before, text = before ++ '"' :: (input ++ ['"']) := by
  obtain ⟨before, after, -, -, -, rfl⟩ := h
  exact ⟨before ++ ':' :: after, by simp [inQuotes]⟩

/-- The input of a case is one line, since it stands in the last physical one. -/
theorem IsCase.newline_notMem_input {line : Text} {case : Case} (h : IsCase line case)
    (hline : Gathered line) : '\n' ∉ case.input := by
  obtain ⟨token, written, rest, -, -, hinput, rfl⟩ := h
  obtain ⟨before, rfl⟩ := hinput.exists_eq
  obtain ⟨-, -, -, -, ⟨-, hquote⟩, -⟩ := hinput
  rcases hline.lines with hnewline | ⟨-, start, last, hlast, hcloses, heq⟩
  · intro hmem
    exact hnewline (by simp [hmem])
  · obtain ⟨opening, _, other, -, hother, rfl⟩ := hcloses
    obtain ⟨middle, rfl⟩ := hother.exists_eq
    obtain ⟨-, -, -, -, ⟨-, hotherQuote⟩, -⟩ := hother
    -- Both the case and the line that closes it end in a quoted text, which must be the same.
    have hinit : written ++ before ++ '"' :: case.input =
        start ++ '\n' :: (opening ++ '"' :: middle) ++ '"' :: other := by
      refine (List.append_left_inj ['"']).mp ?_
      simpa using heq
    rw [eq_of_append_cons_eq hquote hotherQuote hinit]
    intro hmem
    exact hlast (by simp [hmem])

/-- The pattern behind the options is the end of the text, and no option is left. -/
theorem Options.suffix {text pattern : Text} {ignoresCase : Bool}
    (h : Options text ignoresCase pattern) : pattern <:+ text ∧ pattern.head? ≠ some '!' := by
  induction h with
  | none hpattern => exact ⟨List.suffix_rfl, hpattern⟩
  | inert _ _ ih => exact ⟨ih.1.trans (List.suffix_cons _ _), ih.2⟩
  | ignoreCase _ ih =>
    exact ⟨ih.1.trans ((List.suffix_cons _ _).trans (List.suffix_cons _ _)), ih.2⟩

/-- A word without quotes begins with no option. -/
theorem BareWord.head?_ne {word : Text} (h : BareWord word) : word.head? ≠ some '!' := by
  obtain ⟨c, rest, rfl, hc⟩ := h.head
  intro hoption
  obtain rfl : c = '!' := Option.some.inj hoption
  exact absurd hc (by decide)

/-- A word without quotes holds none, and no carriage return. -/
theorem BareWord.notMem {word : Text} (h : BareWord word) : '"' ∉ word ∧ '\r' ∉ word := by
  constructor
  · rcases h with rfl | rfl | rfl | rfl | ⟨sign, digits, fraction, hsign, hdigits, hfraction, rfl⟩
    · decide
    · decide
    · decide
    · decide
    · have hquote {text : Text} (htext : IsDigits text) : '"' ∉ text := fun hmem ↦
        absurd (htext.2 _ hmem) (by decide)
      simp only [List.mem_append, not_or]
      refine ⟨?_, hquote hdigits, ?_⟩
      · rcases hsign with rfl | rfl <;> decide
      · rcases hfraction with rfl | ⟨places, hplaces, rfl⟩
        · decide
        · simpa using hquote hplaces
  · intro hmem
    exact absurd (h.isBlank_eq_false _ hmem) (by decide)

/-- The pattern of a quoted expectation is part of it, without options. -/
theorem Token.Means.of_quoted {text pattern : Text} {mode : MatchMode}
    (h : (Token.quoted text).Means pattern mode) :
    pattern <:+ text ∧ pattern.head? ≠ some '!' := by
  cases h with
  | ignoringCase hoptions => exact hoptions.suffix
  | sentinel hoptions => exact hoptions.suffix
  | exact hoptions => exact hoptions.suffix

/-- A word without quotes is its own pattern. -/
theorem Token.Means.of_bare {word pattern : Text} {mode : MatchMode}
    (h : (Token.bare word).Means pattern mode) : pattern = word := by
  cases h with
  | bare => rfl
  | bareSentinel => rfl

/-- The sentinel has a mode of its own, unless case is irrelevant. -/
theorem Token.Means.sentinel_iff {token : Token} {pattern : Text} {mode : MatchMode}
    (h : token.Means pattern mode) :
    (mode = .errorSentinel → pattern = errorSentinel) ∧
      (mode = .exact → pattern ≠ errorSentinel) := by
  cases h with
  | bare hword => exact ⟨nofun, fun _ ↦ hword⟩
  | bareSentinel => exact ⟨fun _ ↦ rfl, nofun⟩
  | ignoringCase => exact ⟨nofun, nofun⟩
  | sentinel => exact ⟨fun _ ↦ rfl, nofun⟩
  | exact _ hpattern => exact ⟨nofun, fun _ ↦ hpattern⟩

theorem IsCase.readable {line : Text} {case : Case} (h : IsCase line case)
    (hline : Gathered line) : case.Readable := by
  have hinputLine := h.newline_notMem_input hline
  obtain ⟨token, written, rest, hwritten, hmeans, hinput, rfl⟩ := h
  obtain ⟨-, -, -, -, hquotable, -⟩ := hinput
  obtain ⟨hsentinel, hexact⟩ := hmeans.sentinel_iff
  cases hwritten with
  | bare hword =>
    obtain rfl := hmeans.of_bare
    exact ⟨hquotable, hinputLine, hword.notMem.1, hword.head?_ne, .of_notMem (.inl rfl)
      hword.notMem.2, hsentinel, hexact⟩
  | @quoted text htext =>
    obtain ⟨hsuffix, hoptions⟩ := hmeans.of_quoted
    have hwithin : text <:+: inQuotes text ++ rest := ⟨['"'], '"' :: rest, by simp [inQuotes]⟩
    exact ⟨hquotable, hinputLine, fun hmem ↦ htext (hsuffix.subset hmem), hoptions,
      hline.plainBreaks.of_infix (hsuffix.isInfix.trans hwithin), hsentinel, hexact⟩

/-! ### Arguments -/

/-- What is true of arguments that have been read: there is one, and each of them could stand
between quotes and semicolons in one line. -/
def ReadableArguments (values : List Text) : Prop :=
  values ≠ [] ∧ ∀ value ∈ values, IsQuotable value ∧ ';' ∉ value ∧ '\n' ∉ value

theorem IsArguments.readable {line : Text} {values : List Text} (h : IsArguments line values)
    (hline : Gathered line) : ReadableArguments values := by
  obtain ⟨hne, hvalues, rfl⟩ := h
  refine ⟨hne, fun value hvalue ↦ ⟨(hvalues value hvalue).1, (hvalues value hvalue).2, ?_⟩⟩
  rcases hline.lines with hnewline | ⟨hhead, -⟩
  · intro hmem
    refine hnewline (List.mem_cons_of_mem _ (List.mem_append_left _ ?_))
    exact mem_joinWith (List.mem_map_of_mem hvalue) (by simp [inQuotes, hmem])
  · exact absurd hhead (by simp)

/-! ### Files -/

theorem AreCases.readable {lines : List Text} {cases : List Case} (h : AreCases lines cases)
    (hlines : ∀ line ∈ lines, Gathered line) : ∀ case ∈ cases, case.Readable := by
  induction h with
  | nil => simp
  | remark _ _ ih => exact ih (List.forall_mem_cons.mp hlines).2
  | case hline _ ih =>
    obtain ⟨hgathered, hrest⟩ := List.forall_mem_cons.mp hlines
    exact List.forall_mem_cons.mpr ⟨hline.readable hgathered, ih hrest⟩

theorem AreEntries.readable {lines : List Text} {arguments : Option (List Text)}
    {cases : List Case} (h : AreEntries lines arguments cases)
    (hlines : ∀ line ∈ lines, Gathered line) :
    (∀ values ∈ arguments, ReadableArguments values) ∧ ∀ case ∈ cases, case.Readable := by
  induction h with
  | cases hcases => exact ⟨by simp, hcases.readable hlines⟩
  | remark _ _ ih => exact ih (List.forall_mem_cons.mp hlines).2
  | arguments hline hcases =>
    obtain ⟨hgathered, hrest⟩ := List.forall_mem_cons.mp hlines
    refine ⟨?_, hcases.readable hrest⟩
    rintro _ ⟨⟩
    exact hline.readable hgathered

/-- A script that has been read is made of readable cases, with readable arguments if any. -/
theorem readable_of_parse {text : Text} {script : Script} (h : parse text = .ok script) :
    ∃ cases : List Case, script.steps = cases.flatMap Case.steps ∧
      (∀ values ∈ script.arguments, ReadableArguments values) ∧
      ∀ case ∈ cases, case.Readable := by
  obtain ⟨cases, ⟨lines, logical, hlines, hgathers, hentries, -⟩, hsteps⟩ := parse_eq_ok_iff.mp h
  exact ⟨cases, hsteps, hentries.readable (hgathers.gathered hlines.of_mem)⟩

end Dialogue.Script
