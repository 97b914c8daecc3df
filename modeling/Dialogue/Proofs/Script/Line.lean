import Dialogue.Proofs.Script.Expectation

/-!
# Reading one line

A case is read exactly where the grammar has one (`readCase?_eq_some_iff`), and so are arguments
(`readArguments?_eq_some_iff`). Cases, arguments and remarks exclude each other by their first
characters, so it does not matter in which order `classify` tries them: it finds each kind of line
exactly where the grammar has it (`classify_eq_case_iff`, `classify_eq_arguments_iff`,
`classify_eq_remark_iff`).
-/

set_option autoImplicit false
set_option relaxedAutoImplicit false

namespace Dialogue.Script

open Text

/-! ### Cases -/

/-- A case is read exactly where the grammar has one. -/
theorem readCase?_eq_some_iff {line input : Text} {expected : Step} :
    readCase? line = some (input, expected) ↔
      ∃ case, IsCase line case ∧ case.steps = [.input input, expected] := by
  simp only [readCase?, Option.bind_eq_bind, Option.bind_eq_some_iff, Option.pure_def,
    Option.some_inj, Prod.mk.injEq]
  constructor
  · rintro ⟨⟨token, rest⟩, htoken, _, hinput, rfl, rfl⟩
    obtain ⟨written, hwritten, rfl⟩ := exists_written_of_readToken? htoken
    obtain ⟨pattern, mode, hstep⟩ := exists_step_eq token
    exact ⟨⟨_, pattern, mode⟩, ⟨token, written, rest, hwritten, step_eq_iff.mp hstep,
      readInput?_eq_some_iff.mp hinput, rfl⟩, by rw [Case.steps, hstep]⟩
  · rintro ⟨⟨typed, pattern, mode⟩, ⟨token, written, rest, hwritten, hmeans, hinput, rfl⟩, hsteps⟩
    simp only [Case.steps, List.cons.injEq, Step.input.injEq, and_true] at hsteps
    obtain ⟨rfl, rfl⟩ := hsteps
    obtain ⟨c, tail, hblank, hrest⟩ := hinput.head
    refine ⟨(token, rest), readToken?_append hwritten ?_, typed,
      readInput?_eq_some_iff.mpr hinput, rfl, step_eq_iff.mpr hmeans⟩
    rw [hrest]
    simpa using hblank

/-! ### Arguments -/

theorem mapM_unquote?_eq_some_iff {pieces values : List Text} :
    pieces.mapM unquote? = some values ↔
      pieces = values.map inQuotes ∧ ∀ value ∈ values, IsQuotable value := by
  induction pieces generalizing values with
  | nil =>
    constructor
    · rintro h
      obtain rfl : [] = values := Option.some.inj h
      exact ⟨rfl, by simp⟩
    · rintro ⟨hpieces, -⟩
      obtain rfl := List.map_eq_nil_iff.mp hpieces.symm
      rfl
  | cons piece pieces ih =>
    rw [List.mapM_cons]
    simp only [Option.bind_eq_bind, Option.bind_eq_some_iff, unquote?_eq_some_iff, ih,
      Option.pure_def, Option.some_inj]
    constructor
    · rintro ⟨value, ⟨rfl, hvalue⟩, others, ⟨rfl, hothers⟩, rfl⟩
      exact ⟨rfl, List.forall_mem_cons.mpr ⟨hvalue, hothers⟩⟩
    · rintro ⟨hpieces, hvalues⟩
      cases values with
      | nil => contradiction
      | cons value others =>
        obtain ⟨rfl, rfl⟩ := List.cons.inj hpieces
        obtain ⟨hvalue, hothers⟩ := List.forall_mem_cons.mp hvalues
        exact ⟨value, ⟨rfl, hvalue⟩, others, ⟨rfl, hothers⟩, rfl⟩

/-- A quoted text holds a separator exactly if the text does. -/
theorem semicolon_mem_inQuotes_iff {value : Text} : ';' ∈ inQuotes value ↔ ';' ∈ value := by
  simp [inQuotes]

/-- Arguments are read exactly where the grammar has some. -/
theorem readArguments?_eq_some_iff {line : Text} {values : List Text} :
    readArguments? line = some values ↔ IsArguments line values := by
  constructor
  · intro h
    unfold readArguments? at h
    split at h
    · split_ifs at h with hlast
      obtain ⟨body, rfl⟩ := List.getLast?_eq_some_iff.mp hlast
      rw [List.dropLast_concat, mapM_unquote?_eq_some_iff] at h
      obtain ⟨hpieces, hvalues⟩ := h
      have hseparators := separator_notMem_of_mem_splitOn ';' body
      have hbody := joinWith_splitOn ';' body
      rw [hpieces] at hseparators hbody
      refine ⟨?_, fun value hmem ↦ ⟨hvalues value hmem, ?_⟩, ?_⟩
      · rintro rfl
        exact splitOn_ne_nil ';' body hpieces
      · rw [← semicolon_mem_inQuotes_iff]
        exact hseparators _ (List.mem_map_of_mem hmem)
      · rw [hbody]
    · contradiction
  · rintro ⟨hne, hvalues, rfl⟩
    have hsplit : splitOn ';' (joinWith [';'] (values.map inQuotes)) = values.map inQuotes := by
      refine splitOn_joinWith (List.map_eq_nil_iff.not.mpr hne) fun piece hpiece ↦ ?_
      obtain ⟨value, hvalue, rfl⟩ := List.mem_map.mp hpiece
      rw [semicolon_mem_inQuotes_iff]
      exact (hvalues value hvalue).2
    rw [readArguments?, List.getLast?_concat, if_pos rfl, List.dropLast_concat, hsplit,
      mapM_unquote?_eq_some_iff]
    exact ⟨rfl, fun value hvalue ↦ (hvalues value hvalue).1⟩

/-! ### What a line is -/

/-- A case begins with a quote, a letter, a minus sign or a digit. -/
theorem IsCase.head {line : Text} {case : Case} (h : IsCase line case) :
    ∃ c rest, line = c :: rest ∧ (c ∈ ['"', 'n', 't', 'f', '-'] ∨ isDigit c = true) := by
  obtain ⟨token, written, rest, hwritten, -, -, rfl⟩ := h
  cases hwritten with
  | bare hword =>
    obtain ⟨c, tail, rfl, hc⟩ := hword.head
    refine ⟨c, tail ++ rest, rfl, hc.imp_left fun hmem ↦ List.mem_cons_of_mem _ hmem⟩
  | quoted => exact ⟨'"', _, rfl, .inl List.mem_cons_self⟩

/-- What cannot begin a case begins a line that is none. -/
theorem readCase?_eq_none {c : Char} {rest : Text} (hc : c ∉ ['"', 'n', 't', 'f', '-'])
    (hdigit : isDigit c = false) : readCase? (c :: rest) = none := by
  rw [Option.eq_none_iff_forall_ne_some]
  rintro ⟨input, expected⟩ h
  obtain ⟨case, hcase, -⟩ := readCase?_eq_some_iff.mp h
  obtain ⟨first, tail, hline, hfirst⟩ := hcase.head
  obtain ⟨rfl, -⟩ := List.cons.inj hline
  rw [hdigit] at hfirst
  rcases hfirst with hmem | hfalse
  · exact hc hmem
  · contradiction

theorem classify_eq_case_iff {line input : Text} {expected : Step} :
    classify line = .case input expected ↔
      ∃ case, IsCase line case ∧ case.steps = [.input input, expected] := by
  rw [← readCase?_eq_some_iff]
  unfold classify
  split
  · next hcase => simp [hcase]
  · next hcase =>
    split
    · simp [hcase]
    · split_ifs <;> simp [hcase]

theorem classify_eq_arguments_iff {line : Text} {values : List Text} :
    classify line = .arguments values ↔ IsArguments line values := by
  constructor
  · intro h
    unfold classify at h
    split at h
    · contradiction
    · split at h
      · next hread =>
        obtain rfl := LineKind.arguments.inj h
        exact readArguments?_eq_some_iff.mp hread
      · split_ifs at h
  · intro h
    have hread := readArguments?_eq_some_iff.mpr h
    obtain ⟨-, -, rfl⟩ := h
    rw [classify, readCase?_eq_none (by decide) (by decide), hread]

/-- A character that begins a remark begins no case. -/
theorem notMem_of_remark {c : Char} (h : c = '#' ∨ isBlank c = true) :
    c ∉ ['"', 'n', 't', 'f', '-', '<'] ∧ isDigit c = false := by
  rcases h with rfl | hblank
  · decide
  · constructor
    · intro hmem
      rw [isBlank_eq_false_of_all (by decide) c hmem] at hblank
      contradiction
    · rw [← Bool.not_eq_true]
      intro hdigit
      rw [isBlank_of_isDigit hdigit] at hblank
      contradiction

theorem IsRemark.read_eq_none {line : Text} (h : IsRemark line) :
    readCase? line = none ∧ readArguments? line = none := by
  cases line with
  | nil => exact ⟨rfl, rfl⟩
  | cons c rest =>
    have hc : c = '#' ∨ isBlank c = true :=
      h.imp (fun hhead ↦ Option.some.inj hhead) (fun hblank ↦ hblank c List.mem_cons_self)
    obtain ⟨hmem, hdigit⟩ := notMem_of_remark hc
    refine ⟨readCase?_eq_none (fun hcase ↦ hmem ?_) hdigit, ?_⟩
    · exact List.mem_append_left ['<'] hcase
    · unfold readArguments?
      split
      · next heq =>
        obtain ⟨rfl, -⟩ := List.cons.inj heq
        exact absurd hmem (by decide)
      · rfl

theorem classify_eq_remark_iff {line : Text} : classify line = .remark ↔ IsRemark line := by
  constructor
  · intro h
    unfold classify at h
    split at h
    · contradiction
    · split at h
      · contradiction
      · split_ifs at h with hline
        simpa [IsRemark, isBlankText] using hline
  · intro h
    have hline : (line.head? = some '#' || isBlankText line) = true := by
      simpa [IsRemark, isBlankText] using h
    rw [classify, h.read_eq_none.1, h.read_eq_none.2]
    exact if_pos hline

end Dialogue.Script
