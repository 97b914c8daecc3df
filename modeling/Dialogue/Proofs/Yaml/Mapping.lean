import Dialogue.Yaml.Document
import Mathlib.Data.List.Basic

/-!
# The keys of a mapping

A mapping is read entry by entry, and a key that is there already is refused. So in a mapping that
has been read no key is the same as an earlier one (`distinct_of_parse`), wherever in the document
its node stands: a reference stands for a node that is read in the same way.
-/

set_option autoImplicit false
set_option relaxedAutoImplicit false

namespace Dialogue.Yaml

/-- The keys of entries, each of which is another one than those before it. -/
def Distinct (entries : List (Value × Value)) : Prop :=
  entries.Pairwise fun earlier later ↦ Value.same later.1 earlier.1 = false

theorem Value.find?_eq_none_iff {key : Value} {entries : List (Value × Value)} :
    Value.find? key entries = none ↔ ∀ entry ∈ entries, Value.same key entry.1 = false := by
  induction entries with
  | nil => simp [Value.find?]
  | cons entry entries ih =>
    rw [Value.find?, List.forall_mem_cons, ← ih]
    split <;> simp_all

/-- A value under a tag is a mapping only if there is no tag that counts. -/
theorem Value.eq_of_under_eq_mapping {tag : Option Text} {value : Value}
    {entries : List (Value × Value)} (h : value.under tag = .mapping entries) :
    value = .mapping entries := by
  rw [Value.under] at h
  split at h
  · contradiction
  · exact h

theorem resolve?_ne_mapping (scalar : Text) (entries : List (Value × Value)) :
    resolve? scalar ≠ some (.mapping entries) := by
  rw [resolve?]
  split
  · simp
  · split
    · simp
    · split
      · split_ifs <;> simp
      · split <;> simp

theorem ofScalar?_ne_mapping (content : Text) (plain : Bool) (entries : List (Value × Value)) :
    ofScalar? content plain ≠ some (.mapping entries) := by
  rw [ofScalar?]
  split_ifs
  · exact resolve?_ne_mapping content entries
  · simp

/-- A scalar is no mapping. -/
theorem ofTagged?_ne_mapping (tag : Option Text) (content : Text) (plain : Bool)
    (entries : List (Value × Value)) : ofTagged? tag content plain ≠ some (.mapping entries) := by
  rw [ofTagged?.eq_def]
  split
  · exact ofScalar?_ne_mapping content plain entries
  · split_ifs with hboolean hinteger hfraction hnull hblank hmarked
    · simp
    · simp
    · simp
    · simp
    · simp
    · intro h
      obtain ⟨value, hvalue, hunder⟩ := Option.map_eq_some_iff.mp h
      rw [Value.eq_of_under_eq_mapping hunder] at hvalue
      exact ofScalar?_ne_mapping content plain entries hvalue
    · simp

namespace Document

variable {document : Document} {depth fuel : Nat} {progress last : Place.Progress}
  {entries known : List (Value × Value)}

/-- What has been read keeps its keys apart, and so does what is read next. -/
theorem distinct_entries (hknown : Distinct known)
    (h : document.entries depth known progress fuel = .ok (entries, last)) : Distinct entries := by
  induction fuel generalizing known progress with
  | zero => contradiction
  | succ fuel ih =>
    rw [Document.entries] at h
    simp only [bind, Except.bind] at h
    split_ifs at h with hend
    · obtain ⟨rfl, -⟩ := Prod.mk.inj (Except.ok.inj h)
      exact hknown
    · split at h
      · contradiction
      next key _ =>
      split_ifs at h with hfound
      split at h
      · contradiction
      next value _ =>
      refine ih ?_ h
      have hnone : Value.find? key.1 known = none := Option.not_isSome_iff_eq_none.mp hfound
      refine List.pairwise_append.mpr ⟨hknown, List.pairwise_singleton _ _, ?_⟩
      intro earlier hearlier later hlater
      rw [List.mem_singleton.mp hlater]
      exact Value.find?_eq_none_iff.mp hnone earlier hearlier

/-- A node that is a mapping has been read entry by entry, here or where a reference leads. -/
theorem distinct_node {value : Value} (hmapping : value = .mapping entries)
    (h : document.node depth progress fuel = .ok (value, last)) : Distinct entries := by
  induction fuel generalizing progress last with
  | zero => contradiction
  | succ fuel ih =>
    rw [Document.node] at h
    simp only [bind, Except.bind] at h
    split at h
    case h_1 =>
      split at h
      · contradiction
      split at h
      · contradiction
      split at h
      · contradiction
      next _ hnode =>
      obtain ⟨rfl, -⟩ := Prod.mk.inj (Except.ok.inj h)
      exact ih hnode
    case h_2 tag content plain _ =>
      split at h
      · contradiction
      next found hfound =>
      obtain ⟨rfl, -⟩ := Prod.mk.inj (Except.ok.inj h)
      rcases hscalar : ofTagged? tag content plain with _ | scalar
      · rw [hscalar] at hfound
        contradiction
      · rw [hscalar] at hfound
        obtain rfl : scalar = found := Except.ok.inj hfound
        exact absurd (hscalar.trans (congrArg some hmapping)) (ofTagged?_ne_mapping _ _ _ _)
    case h_3 tag _ =>
      split_ifs at h
      split at h
      · contradiction
      obtain ⟨rfl, -⟩ := Prod.mk.inj (Except.ok.inj h)
      exact nomatch Value.eq_of_under_eq_mapping hmapping
    case h_4 tag _ =>
      split_ifs at h
      split at h
      · contradiction
      next _ hentries =>
      obtain ⟨rfl, -⟩ := Prod.mk.inj (Except.ok.inj h)
      obtain rfl := Value.mapping.inj (Value.eq_of_under_eq_mapping hmapping)
      exact distinct_entries .nil hentries
    case h_5 => contradiction

end Document

/-- In a mapping that has been read no key is the same as an earlier one. -/
theorem distinct_of_parse {text : Text} {entries : List (Value × Value)}
    (h : Value.parse text = .ok (.mapping entries)) : Distinct entries := by
  rw [Value.parse, Document.value] at h
  simp only [bind, Except.bind] at h
  split at h
  · contradiction
  next found hnode =>
  split_ifs at h
  exact Document.distinct_node (Except.ok.inj h) hnode

end Dialogue.Yaml
