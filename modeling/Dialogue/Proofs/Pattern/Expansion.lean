import Dialogue.Pattern.Braces
import Dialogue.Proofs.Text.Lines
import Mathlib.Data.List.GetD
import Mathlib.Data.List.Lex
import Mathlib.Data.List.Range

/-!
# What braces stand for

A pattern in which every opening brace is closed before the next one opens is a text with groups of
alternatives behind it (`written`). It stands for one pattern for every choice of an alternative
from each group, and a choice is a list of numbers, one for each group. All choices are listed once,
in the order of their numbers with the first group counting most (`pairwise_picks`, `mem_picks`),
and that is the order of the expansion (`expandBraces_product`).

One round of the expansion puts each alternative of the first group in its place, so the choice from
that group is part of the text in front when the next round comes to the next group
(`expandBraces_written`). Whatever a pattern is, each round leaves patterns with fewer opening
braces (`openings_lt_of_mem_calls`), and so there are no more rounds one inside the other than there
are opening braces (`length_le_of_isChain`).
-/

set_option autoImplicit false
set_option relaxedAutoImplicit false

namespace Dialogue.Pattern

open Text

/-! ### Rounds -/

/-- The patterns that are expanded in place of a pattern, if it has braces to be expanded. -/
def calls (pattern : Text) : List Text :=
  match cutBraces? pattern with
  | none => []
  | some (before, inside, after) =>
    (splitOn ',' inside).map fun choice ↦ before ++ choice ++ after

theorem calls_of_cutBraces? {pattern before inside after : Text}
    (h : cutBraces? pattern = some (before, inside, after)) :
    calls pattern = (splitOn ',' inside).map fun choice ↦ before ++ choice ++ after := by
  rw [calls, h]

theorem calls_eq_nil_iff {pattern : Text} : calls pattern = [] ↔ cutBraces? pattern = none := by
  rw [calls]
  rcases cutBraces? pattern with _ | ⟨before, inside, after⟩
  · simp
  · simp [splitOn_ne_nil]

/-- A pattern stands for what the patterns in its place stand for, or for itself if there are none.
-/
theorem expandBraces_eq (pattern : Text) :
    expandBraces pattern =
      if calls pattern = [] then [pattern] else (calls pattern).flatMap expandBraces := by
  rw [expandBraces.eq_def]
  split
  · next hcut => rw [if_pos (calls_eq_nil_iff.mpr hcut)]
  · next before inside after hcut =>
    rw [if_neg (by simp [calls_eq_nil_iff, hcut]), calls_of_cutBraces? hcut, List.flatMap_map]
    conv_rhs => rw [← List.attach_map_subtype_val (splitOn ',' inside), List.flatMap_map]

theorem openings_lt_of_mem_calls {pattern next : Text} (h : next ∈ calls pattern) :
    openings next < openings pattern := by
  rcases hcut : cutBraces? pattern with _ | ⟨before, inside, after⟩
  · rw [calls_eq_nil_iff.mpr hcut] at h
    contradiction
  · rw [calls_of_cutBraces? hcut] at h
    obtain ⟨choice, hchoice, rfl⟩ := List.mem_map.mp h
    have hless := openings_of_cutBraces? hcut
    have hpart := openings_le_of_mem_splitOn hchoice
    rw [openings_append, openings_append]
    omega

/-- There are no more rounds one inside the other than a pattern has opening braces. -/
theorem length_le_of_isChain {pattern : Text} {rounds : List Text}
    (h : (pattern :: rounds).IsChain fun outer inner ↦ inner ∈ calls outer) :
    rounds.length ≤ openings pattern := by
  induction rounds generalizing pattern with
  | nil => exact Nat.zero_le _
  | cons next rounds ih =>
    obtain ⟨hnext, hrest⟩ := List.isChain_cons_cons.mp h
    have hless := openings_lt_of_mem_calls hnext
    have hrounds := ih hrest
    rw [List.length_cons]
    omega

/-! ### Groups of alternatives -/

/-- Whether a text holds no braces. -/
def Braceless (text : Text) : Prop :=
  '\x7b' ∉ text ∧ '\x7d' ∉ text

instance (text : Text) : Decidable (Braceless text) :=
  inferInstanceAs (Decidable (_ ∧ _))

/-- Alternatives between braces, and the text behind them up to the next group. -/
structure Group where
  alternatives : List Text
  after : Text
  ne_nil : alternatives ≠ []
  braceless : ∀ alternative ∈ alternatives, Braceless alternative
  commaless : ∀ alternative ∈ alternatives, ',' ∉ alternative
  after_braceless : Braceless after

/-- A group as it is written. -/
def Group.written (group : Group) : Text :=
  '\x7b' :: joinWith [','] group.alternatives ++ '\x7d' :: group.after

/-- A pattern as it is written: a text, and groups behind it. -/
def written (start : Text) (groups : List Group) : Text :=
  start ++ groups.flatMap Group.written

/-- A pattern with an alternative in place of each group, the one of the number that is picked. -/
def filled (start : Text) (groups : List Group) (pick : List Nat) : Text :=
  start ++ (groups.zip pick).flatMap fun (group, number) ↦
    group.alternatives.getD number [] ++ group.after

/-- All picks of one alternative from each group, by their numbers. -/
def picks : List Group → List (List Nat)
  | [] => [[]]
  | group :: groups =>
    (List.range group.alternatives.length).flatMap fun number ↦ (picks groups).map (number :: ·)

/-- A pick has the number of an alternative for each group. -/
theorem mem_picks {groups : List Group} {pick : List Nat} :
    pick ∈ picks groups ↔
      List.Forall₂ (fun number group ↦ number < group.alternatives.length) pick groups := by
  induction groups generalizing pick with
  | nil => simp [picks]
  | cons group groups ih =>
    simp only [picks, List.mem_flatMap, List.mem_range, List.mem_map]
    constructor
    · rintro ⟨number, hnumber, rest, hrest, rfl⟩
      exact .cons hnumber (ih.mp hrest)
    · rintro (_ | ⟨hnumber, hrest⟩)
      exact ⟨_, hnumber, _, ih.mpr hrest, rfl⟩

/-- Picks are listed once, in their order: what is picked from the first group counts most. -/
theorem pairwise_picks (groups : List Group) : (picks groups).Pairwise (List.Lex (· < ·)) := by
  induction groups with
  | nil => exact List.pairwise_singleton _ _
  | cons group groups ih =>
    rw [picks, List.pairwise_flatMap]
    refine ⟨fun number _ ↦ List.pairwise_map.mpr (ih.imp .cons), ?_⟩
    refine List.pairwise_lt_range.imp fun hless first hfirst second hsecond ↦ ?_
    obtain ⟨_, -, rfl⟩ := List.mem_map.mp hfirst
    obtain ⟨_, -, rfl⟩ := List.mem_map.mp hsecond
    exact .rel hless

/-! ### The product -/

section Product

variable {start : Text} {group : Group} {groups : List Group}

theorem written_nil (start : Text) : written start [] = start :=
  List.append_nil start

/-- The first group is what a pattern is cut at. -/
theorem cutBraces?_written (hstart : Braceless start) (group : Group) (groups : List Group) :
    cutBraces? (written start (group :: groups)) =
      some (start, joinWith [','] group.alternatives, written group.after groups) := by
  have hinside : '\x7d' ∉ joinWith [','] group.alternatives :=
    notMem_joinWith (by decide) fun alternative hmem ↦ (group.braceless alternative hmem).2
  have hwritten : written start (group :: groups) =
      start ++ '\x7b' :: (joinWith [','] group.alternatives ++ '\x7d' ::
        written group.after groups) := by
    simp [written, Group.written]
  obtain ⟨hbefore, hopen⟩ := cut_at hstart.1
    (joinWith [','] group.alternatives ++ '\x7d' :: written group.after groups)
  obtain ⟨hbetween, hclose⟩ := cut_at hinside (written group.after groups)
  rw [hwritten, cutBraces?, hopen]
  dsimp only
  rw [hclose, hbefore, hbetween]

theorem cutBraces?_of_braceless (h : Braceless start) : cutBraces? start = none := by
  have hnil : start.dropWhile (· != '\x7b') = [] := by
    rw [List.dropWhile_eq_nil_iff]
    exact fun c hc ↦ bne_iff_ne.mpr fun heq ↦ h.1 (heq ▸ hc)
  rw [cutBraces?, hnil]

/-- Each alternative of the first group takes its place. -/
theorem calls_written (hstart : Braceless start) (group : Group) (groups : List Group) :
    calls (written start (group :: groups)) =
      group.alternatives.map fun alternative ↦
        written (start ++ alternative ++ group.after) groups := by
  rw [calls_of_cutBraces? (cutBraces?_written hstart group groups),
    splitOn_joinWith group.ne_nil group.commaless]
  simp [written]

/-- A list is what it has under its numbers. -/
theorem map_getD_range {α : Type} (items : List α) (default : α) :
    (List.range items.length).map (items.getD · default) = items := by
  refine List.ext_getElem (by simp) fun number hnumber hitems ↦ ?_
  simp [hitems]

theorem filled_cons (start : Text) (group : Group) (groups : List Group) (number : Nat)
    (pick : List Nat) :
    filled start (group :: groups) (number :: pick) =
      filled (start ++ group.alternatives.getD number [] ++ group.after) groups pick := by
  simp [filled]

/-- The expansion is the product of the groups. -/
theorem expandBraces_written (hstart : Braceless start) (groups : List Group) :
    expandBraces (written start groups) = (picks groups).map (filled start groups) := by
  induction groups generalizing start with
  | nil =>
    have hnone := calls_eq_nil_iff.mpr (cutBraces?_of_braceless hstart)
    rw [written_nil, expandBraces_eq, if_pos hnone, picks, List.map_singleton]
    simp [filled]
  | cons group groups ih =>
    -- What has been chosen from the first group is part of the text in front of the others.
    have hround (number : Nat) (hnumber : number < group.alternatives.length) :
        expandBraces (written (start ++ group.alternatives.getD number [] ++ group.after) groups) =
          (picks groups).map fun pick ↦ filled start (group :: groups) (number :: pick) := by
      have hmem : group.alternatives.getD number [] ∈ group.alternatives := by
        rw [List.getD_eq_getElem _ _ hnumber]
        exact List.getElem_mem hnumber
      have hfront : Braceless (start ++ group.alternatives.getD number [] ++ group.after) := by
        have halternative := group.braceless _ hmem
        have hafter := group.after_braceless
        simp only [Braceless, List.mem_append, not_or] at hstart halternative hafter ⊢
        exact ⟨⟨⟨hstart.1, halternative.1⟩, hafter.1⟩, ⟨hstart.2, halternative.2⟩, hafter.2⟩
      rw [ih hfront]
      exact List.map_congr_left fun pick _ ↦ (filled_cons start group groups number pick).symm
    have hcalls := calls_written hstart group groups
    rw [expandBraces_eq, if_neg (by simp [hcalls, group.ne_nil]), hcalls, List.flatMap_map, picks,
      List.map_flatMap]
    rw [← congrArg (List.flatMap _) (map_getD_range group.alternatives []), List.flatMap_map]
    refine List.flatMap_congr fun number hnumber ↦ ?_
    rw [hround number (List.mem_range.mp hnumber), List.map_map]
    rfl

end Product

/-- A pattern with groups of alternatives stands for the patterns with one alternative in place of
each group: for every pick of alternatives once, in the order of the picks, where the first group
counts most. Of any pattern at all, the expansion puts together what the patterns of the next round
stand for, and there are no more rounds one inside the other than the pattern has opening braces. -/
theorem expandBraces_product :
    (∀ start groups, Braceless start →
      expandBraces (written start groups) = (picks groups).map (filled start groups) ∧
        (picks groups).Pairwise (List.Lex (· < ·)) ∧
        ∀ pick, pick ∈ picks groups ↔
          List.Forall₂ (fun number group ↦ number < group.alternatives.length) pick groups) ∧
      ∀ pattern,
        expandBraces pattern =
            (if calls pattern = [] then [pattern] else (calls pattern).flatMap expandBraces) ∧
          ∀ rounds, (pattern :: rounds).IsChain (fun outer inner ↦ inner ∈ calls outer) →
            rounds.length ≤ openings pattern := by
  refine ⟨fun start groups hstart ↦ ?_, fun pattern ↦ ?_⟩
  · exact ⟨expandBraces_written hstart groups, pairwise_picks groups, fun pick ↦ mem_picks⟩
  · exact ⟨expandBraces_eq pattern, fun rounds hrounds ↦ length_le_of_isChain hrounds⟩

/-- Two groups, one with an empty alternative; and braces within braces, of which the first closing
one belongs to the first opening one. -/
theorem expandBraces_product_two_groups :
    expandBraces "a\x7bb,\x7dc\x7bd,e\x7d".toList =
        ["abcd", "abce", "acd", "ace"].map String.toList ∧
      ["\x7ba,c\x7d", "a"].length ≤ openings "\x7b\x7ba,b\x7d,c\x7d".toList := by
  let first : Group :=
    ⟨[['b'], []], ['c'], by decide, by decide, by decide, by decide⟩
  let second : Group :=
    ⟨[['d'], ['e']], [], by decide, by decide, by decide, by decide⟩
  have hwritten : written ['a'] [first, second] = "a\x7bb,\x7dc\x7bd,e\x7d".toList := by decide
  have hproduct := (expandBraces_product.1 ['a'] [first, second] (by decide)).1
  rw [hwritten] at hproduct
  refine ⟨hproduct.trans (by decide), ?_⟩
  have hrounds : ("\x7b\x7ba,b\x7d,c\x7d".toList ::
      ["\x7ba,c\x7d", "a"].map String.toList).IsChain
        fun outer inner ↦ inner ∈ calls outer := by decide
  exact (expandBraces_product.2 _).2 _ hrounds

end Dialogue.Pattern
