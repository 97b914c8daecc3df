import Dialogue.Proofs.Config.Field
import Mathlib.Data.List.Perm.Lattice

/-!
# What a file says about a configuration

The entries of a file are laid over those of the standard configuration, and the whole is read entry
by entry. `Decides` says what becomes of one field then: what an entry of its name says, or what it
was before if there is none. Entries are read exactly if all keys are texts, no two entries name the
same field, and every field is decided (`setEntries_eq_ok_iff`).

What is laid over a mapping takes the place of what has the same key and is added otherwise
(`mem_layered`). Since an entry of the standard configuration says what its field holds anyway, the
entries of a file decide every field by themselves (`decides_of_ofValue`), in whatever order they
stand (`ofValue_of_perm`), and the entries of a configuration make up that configuration
(`ofValue_toValue`).
-/

set_option autoImplicit false
set_option relaxedAutoImplicit false

namespace Dialogue

open Yaml (Value)

/-! ### Keys that are texts -/

namespace Yaml.Value

/-- A text, under any number of tags. -/
def IsText (value : Value) : Prop :=
  ∃ content, value.untagged = .text content

/-- Texts are the same only if they are equal. -/
theorem same_iff_of_isText {key other : Value} (h : other.IsText) :
    same key other = true ↔ key = other := by
  obtain ⟨content, hcontent⟩ := h
  fun_induction untagged other generalizing key with
  | case1 tag value ih =>
    cases key with
    | tagged mark inner => simp [same, ih hcontent]
    | _ => simp [same]
  | case2 value huntagged =>
    subst hcontent
    cases key <;> simp [same]

theorem same_iff_of_isText_left {key other : Value} (h : key.IsText) :
    same key other = true ↔ key = other := by
  obtain ⟨content, hcontent⟩ := h
  fun_induction untagged key generalizing other with
  | case1 tag value ih =>
    cases other with
    | tagged mark inner => simp [same, ih hcontent]
    | _ => simp [same]
  | case2 value huntagged =>
    subst hcontent
    cases other <;> simp [same]

end Yaml.Value

namespace Config

variable {field : Field} {before after config : Config} {key value : Value}
  {entry : Value × Value} {entries base : List (Value × Value)} {seen : List Text}

/-! ### Reading entries -/

/-- An entry has the name of a field. -/
def Names (entry : Value × Value) (field : Field) : Prop :=
  entry.1.untagged = .text field.name

/-- Entries decide what a field holds: what an entry of its name says, or what it held before if
there is none. -/
structure Decides (entries : List (Value × Value)) (field : Field) (before after : Config) :
    Prop where
  said : ∀ entry ∈ entries, Names entry field → field.read entry.2 = .ok (field.get after)
  unsaid : (∀ entry ∈ entries, ¬ Names entry field) → field.get after = field.get before

/-- In which order entries stand makes no difference to what they decide. -/
theorem Decides.of_mem_iff {others : List (Value × Value)}
    (h : Decides entries field before after) (hmem : ∀ entry, entry ∈ others ↔ entry ∈ entries) :
    Decides others field before after where
  said entry hentry := h.said entry ((hmem entry).mp hentry)
  unsaid hunsaid := h.unsaid fun entry hentry ↦ hunsaid entry ((hmem entry).mpr hentry)

/-- Two entries name different fields, if they name any. -/
def Apart (first second : Value × Value) : Prop :=
  ∀ field, Names first field → ¬ Names second field

theorem Apart.symm {first second : Value × Value} (h : Apart first second) : Apart second first :=
  fun field hsecond hfirst ↦ h field hfirst hsecond

theorem textOf_eq_ok_iff {expected : String} {content : Text} :
    textOf expected value = .ok content ↔ value.untagged = .text content := by
  rw [textOf]
  cases value.untagged <;> simp

/-- The first entry decides the field that it names, and the others the rest. -/
theorem decides_cons_iff {name : Text} (hkey : entry.1.untagged = .text name) :
    (∃ next, before.setEntry name entry.2 = .ok next ∧
        ∀ field, Decides entries field next after) ∧ (∀ other ∈ entries, Apart entry other) ↔
      (∀ field, Decides (entry :: entries) field before after) ∧
        ∀ other ∈ entries, Apart entry other := by
  have hnames (field : Field) : Names entry field ↔ name = field.name := by
    rw [Names, hkey, Value.text.injEq]
  refine and_congr_left fun hapart ↦ ?_
  simp only [setEntry_eq_ok_iff]
  constructor
  · rintro ⟨next, hnext, hrest⟩ field
    -- The entry that names a field is the only one, so the rest leave what it says.
    have hleft (h : Names entry field) : field.get after = field.get next :=
      (hrest field).unsaid fun other hmem ↦ hapart other hmem field h
    refine ⟨List.forall_mem_cons.mpr ⟨fun h ↦ ?_, (hrest field).said⟩, fun h ↦ ?_⟩
    · rw [hleft h]
      exact (hnext field).1 ((hnames field).mp h)
    · obtain ⟨hfirst, hothers⟩ := List.forall_mem_cons.mp h
      rw [(hrest field).unsaid hothers, (hnext field).2 fun heq ↦ hfirst ((hnames field).mpr heq)]
  · intro h
    have hothers (field : Field) (hfield : Names entry field) :
        ∀ other ∈ entries, ¬ Names other field := fun other hmem ↦ hapart other hmem field hfield
    by_cases hname : ∃ field : Field, name = field.name
    · obtain ⟨field, rfl⟩ := hname
      have hfield : Names entry field := (hnames field).mpr rfl
      refine ⟨field.set (field.get after) before, fun other ↦ ⟨fun heq ↦ ?_, fun hne ↦ ?_⟩,
        fun other ↦ ⟨fun item hmem ↦ (h other).said item (List.mem_cons_of_mem entry hmem),
          fun hunsaid ↦ ?_⟩⟩
      · obtain rfl := Field.name_injective heq
        rw [Field.get_set]
        exact (h field).said entry List.mem_cons_self hfield
      · exact Field.get_set_of_ne (fun heq ↦ hne (congrArg Field.name heq.symm)) _ _
      · by_cases heq : other = field
        · rw [heq, Field.get_set]
        · rw [Field.get_set_of_ne heq]
          refine (h other).unsaid (List.forall_mem_cons.mpr ⟨fun hother ↦ heq ?_, hunsaid⟩)
          exact (Field.name_injective ((hnames other).mp hother)).symm
    · have hne (field : Field) : ¬ Names entry field :=
        fun hfield ↦ hname ⟨field, (hnames field).mp hfield⟩
      refine ⟨before, fun field ↦ ⟨fun heq ↦ absurd ⟨field, heq⟩ hname, fun _ ↦ rfl⟩,
        fun field ↦ ⟨fun item hmem ↦ (h field).said item (List.mem_cons_of_mem entry hmem),
          fun hunsaid ↦ (h field).unsaid (List.forall_mem_cons.mpr ⟨hne field, hunsaid⟩)⟩⟩

/-- Two keys that are texts name different fields unless they are equal and name one. -/
theorem apart_iff {other : Value × Value} {name content : Text}
    (hentry : entry.1.untagged = .text name) (hother : other.1.untagged = .text content) :
    Apart entry other ↔ (content = name → content ∉ entryNames) := by
  simp only [Apart, Names, hentry, hother, Value.text.injEq, Field.mem_entryNames]
  constructor
  · rintro h rfl ⟨field, hfield⟩
    exact h field hfield.symm hfield.symm
  · rintro h field rfl heq
    exact h heq ⟨field, heq.symm⟩

theorem setEntries_cons_eq_ok_iff :
    before.setEntries seen (entry :: entries) = .ok after ↔
      ∃ name, entry.1.untagged = .text name ∧ (name ∈ seen → name ∉ entryNames) ∧
        ∃ next, before.setEntry name entry.2 = .ok next ∧
          next.setEntries (name :: seen) entries = .ok after := by
  obtain ⟨key, value⟩ := entry
  simp only [setEntries, bind, Except.bind]
  rcases hkey : textOf "field identifier" key with error | name
  · have hnone (content : Text) : key.untagged ≠ .text content := fun heq ↦ by
      rw [textOf_eq_ok_iff.mpr heq] at hkey
      contradiction
    simp [hnone]
  · simp only [textOf_eq_ok_iff.mp hkey, Value.text.injEq, exists_eq_left', Bool.and_eq_true,
      List.contains_iff_mem, ← not_and]
    by_cases hseen : name ∈ seen ∧ name ∈ entryNames
    · simp [hseen]
    · rw [if_neg hseen, and_iff_right hseen]
      rcases before.setEntry name value with error | next <;> simp

/-- Entries are read exactly if all keys are texts, no field is named twice, and every field is
decided. -/
theorem setEntries_eq_ok_iff :
    before.setEntries seen entries = .ok after ↔
      (∀ entry ∈ entries, ∃ name, entry.1.untagged = .text name ∧
        (name ∈ seen → name ∉ entryNames)) ∧
      entries.Pairwise Apart ∧ ∀ field, Decides entries field before after := by
  induction entries generalizing before seen with
  | nil =>
    rw [setEntries]
    constructor
    · intro h
      obtain rfl := Except.ok.inj h
      exact ⟨fun _ hmem ↦ absurd hmem List.not_mem_nil, .nil,
        fun field ↦ ⟨fun _ hmem ↦ absurd hmem List.not_mem_nil, fun _ ↦ rfl⟩⟩
    · rintro ⟨-, -, h⟩
      exact congrArg Except.ok (Field.ext_get fun field ↦
        ((h field).unsaid fun _ hmem ↦ absurd hmem List.not_mem_nil).symm)
  | cons entry entries ih =>
    simp only [setEntries_cons_eq_ok_iff, ih, List.forall_mem_cons, List.pairwise_cons]
    constructor
    · rintro ⟨name, hname, hseen, next, hnext, htexts, hpairwise, hdecides⟩
      have hapart : ∀ other ∈ entries, Apart entry other := fun other hmem ↦ by
        obtain ⟨content, hcontent, hnew⟩ := htexts other hmem
        exact (apart_iff hname hcontent).mpr fun heq ↦ hnew (heq ▸ List.mem_cons_self)
      refine ⟨⟨⟨name, hname, hseen⟩, fun other hmem ↦ ?_⟩, ⟨hapart, hpairwise⟩,
        ((decides_cons_iff hname).mp ⟨⟨next, hnext, hdecides⟩, hapart⟩).1⟩
      obtain ⟨content, hcontent, hnew⟩ := htexts other hmem
      exact ⟨content, hcontent, fun h ↦ hnew (List.mem_cons_of_mem name h)⟩
    · rintro ⟨⟨⟨name, hname, hseen⟩, htexts⟩, ⟨hapart, hpairwise⟩, hdecides⟩
      obtain ⟨⟨next, hnext, hrest⟩, -⟩ := (decides_cons_iff hname).mpr ⟨hdecides, hapart⟩
      refine ⟨name, hname, hseen, next, hnext, fun other hmem ↦ ?_, hpairwise, hrest⟩
      obtain ⟨content, hcontent, hnew⟩ := htexts other hmem
      refine ⟨content, hcontent, fun h ↦ ?_⟩
      rcases List.mem_cons.mp h with heq | h
      · exact (apart_iff hname hcontent).mp (hapart other hmem) heq
      · exact hnew h

/-! ### Layers -/

theorem mem_set (hkey : key.IsText) (hnodup : (base.map Prod.fst).Nodup) :
    entry ∈ Value.set key value base ↔ entry = (key, value) ∨ entry ∈ base ∧ entry.1 ≠ key := by
  induction base with
  | nil => simp [Value.set]
  | cons first base ih =>
    obtain ⟨other, old⟩ := first
    rw [List.map_cons, List.nodup_cons] at hnodup
    rw [Value.set]
    by_cases hsame : Value.same key other = true
    · obtain rfl := (Value.same_iff_of_isText_left hkey).mp hsame
      have hne (h : entry ∈ base) : entry.1 ≠ key :=
        fun heq ↦ hnodup.1 (List.mem_map.mpr ⟨entry, h, heq⟩)
      rw [if_pos hsame, List.mem_cons, List.mem_cons]
      constructor
      · exact Or.imp id fun h ↦ ⟨.inr h, hne h⟩
      · rintro (h | ⟨rfl | h, hentry⟩)
        · exact .inl h
        · contradiction
        · exact .inr h
    · have hother : other ≠ key := fun heq ↦
        hsame ((Value.same_iff_of_isText_left hkey).mpr heq.symm)
      rw [if_neg hsame, List.mem_cons, ih hnodup.2, List.mem_cons]
      constructor
      · rintro (rfl | h | ⟨h, hentry⟩)
        · exact .inr ⟨.inl rfl, hother⟩
        · exact .inl h
        · exact .inr ⟨.inr h, hentry⟩
      · rintro (h | ⟨h | h, hentry⟩)
        · exact .inr (.inl h)
        · exact .inl h
        · exact .inr (.inr ⟨h, hentry⟩)

/-- Keys stay where they are, and one that is new is added at the end. -/
theorem keys_set (key value : Value) (base : List (Value × Value)) :
    (∃ other ∈ base.map Prod.fst, Value.same key other = true) ∧
        (Value.set key value base).map Prod.fst = base.map Prod.fst ∨
      (∀ other ∈ base.map Prod.fst, Value.same key other = false) ∧
        (Value.set key value base).map Prod.fst = base.map Prod.fst ++ [key] := by
  induction base with
  | nil => exact .inr ⟨fun _ hmem ↦ absurd hmem List.not_mem_nil, rfl⟩
  | cons first base ih =>
    obtain ⟨other, old⟩ := first
    rw [Value.set, List.map_cons]
    by_cases hsame : Value.same key other = true
    · rw [if_pos hsame]
      exact .inl ⟨⟨other, List.mem_cons_self, hsame⟩, rfl⟩
    · rw [if_neg hsame, List.map_cons]
      rcases ih with ⟨⟨found, hmem, hfound⟩, hkeys⟩ | ⟨hnone, hkeys⟩
      · rw [hkeys]
        exact .inl ⟨⟨found, List.mem_cons_of_mem other hmem, hfound⟩, rfl⟩
      · rw [hkeys]
        exact .inr ⟨List.forall_mem_cons.mpr ⟨Bool.eq_false_iff.mpr hsame, hnone⟩, rfl⟩

theorem nodup_keys_set (hkey : key.IsText) (hnodup : (base.map Prod.fst).Nodup) :
    ((Value.set key value base).map Prod.fst).Nodup := by
  rcases keys_set key value base with ⟨-, hkeys⟩ | ⟨hnone, hkeys⟩
  · rwa [hkeys]
  · have hnew : key ∉ base.map Prod.fst := fun hmem ↦ by
      have hself := (Value.same_iff_of_isText_left hkey).mpr (rfl : key = key)
      exact absurd hself (Bool.eq_false_iff.mp (hnone key hmem))
    rw [hkeys, List.nodup_append_comm]
    exact List.nodup_cons.mpr ⟨hnew, hnodup⟩

/-- Entries laid over others, one after the other. -/
def layered (base entries : List (Value × Value)) : List (Value × Value) :=
  entries.foldl (fun merged (key, value) ↦ Value.set key value merged) base

theorem layered_cons (base : List (Value × Value)) (entry : Value × Value)
    (entries : List (Value × Value)) :
    layered base (entry :: entries) = layered (Value.set entry.1 entry.2 base) entries := rfl

/-- What is laid over a mapping is there, and so is what has a key of its own. -/
theorem mem_layered (htexts : ∀ entry ∈ entries, entry.1.IsText)
    (hdistinct : (entries.map Prod.fst).Nodup) (hbase : (base.map Prod.fst).Nodup) :
    entry ∈ layered base entries ↔
      entry ∈ entries ∨ entry ∈ base ∧ entry.1 ∉ entries.map Prod.fst := by
  induction entries generalizing base with
  | nil => simp [layered]
  | cons first entries ih =>
    obtain ⟨hfirst, htexts⟩ := List.forall_mem_cons.mp htexts
    obtain ⟨hnew, hdistinct⟩ := List.nodup_cons.mp hdistinct
    rw [layered_cons, ih htexts hdistinct (nodup_keys_set hfirst hbase), mem_set hfirst hbase,
      List.map_cons, List.mem_cons, List.mem_cons, not_or]
    constructor
    · rintro (h | ⟨rfl | ⟨h, hne⟩, hlater⟩)
      · exact .inl (.inr h)
      · exact .inl (.inl rfl)
      · exact .inr ⟨h, hne, hlater⟩
    · rintro ((rfl | h) | ⟨h, hne, hlater⟩)
      · exact .inr ⟨.inl rfl, hnew⟩
      · exact .inl h
      · exact .inr ⟨.inr ⟨h, hne⟩, hlater⟩

theorem nodup_keys_layered (htexts : ∀ entry ∈ entries, entry.1.IsText)
    (hbase : (base.map Prod.fst).Nodup) : ((layered base entries).map Prod.fst).Nodup := by
  induction entries generalizing base with
  | nil => exact hbase
  | cons first entries ih =>
    obtain ⟨hfirst, htexts⟩ := List.forall_mem_cons.mp htexts
    exact ih htexts (nodup_keys_set hfirst hbase)

theorem keys_subset_layered (base entries : List (Value × Value)) :
    base.map Prod.fst ⊆ (layered base entries).map Prod.fst := by
  induction entries generalizing base with
  | nil => exact List.Subset.refl _
  | cons first entries ih =>
    refine List.Subset.trans ?_ (ih _)
    rcases keys_set first.1 first.2 base with ⟨-, hkeys⟩ | ⟨-, hkeys⟩
    · rw [hkeys]
      exact List.Subset.refl _
    · rw [hkeys]
      exact List.subset_append_left _ _

/-- If all keys are texts in the end, those that were laid over the others are. -/
theorem isText_of_layered (h : ∀ key ∈ (layered base entries).map Prod.fst, key.IsText) :
    ∀ entry ∈ entries, entry.1.IsText := by
  induction entries generalizing base with
  | nil => exact fun _ hmem ↦ absurd hmem List.not_mem_nil
  | cons first entries ih =>
    refine List.forall_mem_cons.mpr ⟨?_, ih h⟩
    have hset : ∀ key ∈ (Value.set first.1 first.2 base).map Prod.fst, key.IsText :=
      fun key hmem ↦ h key (keys_subset_layered _ entries hmem)
    rcases keys_set first.1 first.2 base with ⟨⟨other, hmem, hsame⟩, hkeys⟩ | ⟨-, hkeys⟩
    · have hother := hset other (hkeys ▸ hmem)
      exact (Value.same_iff_of_isText hother).mp hsame ▸ hother
    · exact hset first.1 (hkeys ▸ List.mem_append_right _ (List.mem_singleton_self _))

/-! ### Reading a mapping -/

/-- A mapping is read as a configuration exactly if its entries, laid over those of the standard
configuration, have texts as keys and name no field twice, and decide every field. -/
theorem ofValue_eq_ok_iff :
    ofValue (.mapping entries) = .ok config ↔
      (∀ entry ∈ layered standard.toEntries entries, entry.1.IsText) ∧
        (layered standard.toEntries entries).Pairwise Apart ∧
        ∀ field, Decides (layered standard.toEntries entries) field standard config := by
  change standard.setEntries [] (layered standard.toEntries entries) = .ok config ↔ _
  simp only [setEntries_eq_ok_iff, List.not_mem_nil, false_implies, and_true]
  rfl

/-- The entries of a configuration decide every field as it is there. -/
theorem decides_toEntries (config : Config) (field : Field) :
    Decides config.toEntries field standard config := by
  constructor
  · intro entry hmem hnames
    obtain ⟨other, value, hwritten, rfl⟩ := mem_toEntries.mp hmem
    obtain rfl := Field.name_injective (Value.text.inj hnames)
    exact Field.read_of_write? hwritten
  · intro hunsaid
    rcases hwritten : field.write? config with _ | value
    · exact Field.get_of_write? hwritten
    · exact absurd rfl (hunsaid _ (mem_toEntries.mpr ⟨field, value, hwritten, rfl⟩))

/-- Of a mapping that is read as a configuration, the entries by themselves decide every field: it
holds what the entry of its name says, and what it holds in the standard configuration if there is
none. -/
theorem decides_of_ofValue (hdistinct : (entries.map Prod.fst).Nodup)
    (h : ofValue (.mapping entries) = .ok config) (field : Field) :
    Decides entries field standard config := by
  obtain ⟨htexts, -, hdecides⟩ := ofValue_eq_ok_iff.mp h
  have hentries := isText_of_layered (List.forall_mem_map.mpr htexts)
  have hmem {entry : Value × Value} : entry ∈ layered standard.toEntries entries ↔
      entry ∈ entries ∨ entry ∈ standard.toEntries ∧ entry.1 ∉ entries.map Prod.fst :=
    mem_layered hentries hdistinct (nodup_keys_toEntries standard)
  refine ⟨fun entry hentry ↦ (hdecides field).said entry (hmem.mpr (.inl hentry)), fun hunsaid ↦ ?_⟩
  by_cases hnamed : ∃ entry ∈ layered standard.toEntries entries, Names entry field
  · -- It is named by an entry of the standard configuration only.
    obtain ⟨entry, hentry, hnames⟩ := hnamed
    have hread := (hdecides field).said entry hentry hnames
    rcases hmem.mp hentry with hentry | ⟨hentry, -⟩
    · exact absurd hnames (hunsaid entry hentry)
    · rw [(decides_toEntries standard field).said entry hentry hnames] at hread
      exact (Except.ok.inj hread).symm
  · exact (hdecides field).unsaid fun entry hentry hnames ↦ hnamed ⟨entry, hentry, hnames⟩

/-- The order of the entries makes no difference. -/
theorem ofValue_of_perm {others : List (Value × Value)} (hperm : others.Perm entries)
    (hdistinct : (entries.map Prod.fst).Nodup) (h : ofValue (.mapping entries) = .ok config) :
    ofValue (.mapping others) = .ok config := by
  obtain ⟨htexts, hapart, hdecides⟩ := ofValue_eq_ok_iff.mp h
  have hbase := nodup_keys_toEntries standard
  have hentries := isText_of_layered (List.forall_mem_map.mpr htexts)
  have hothers : ∀ entry ∈ others, entry.1.IsText :=
    fun entry hmem ↦ hentries entry (hperm.subset hmem)
  have hkeys := hperm.map Prod.fst
  have hmem (entry : Value × Value) :
      entry ∈ layered standard.toEntries others ↔ entry ∈ layered standard.toEntries entries := by
    rw [mem_layered hothers (hkeys.nodup_iff.mpr hdistinct) hbase,
      mem_layered hentries hdistinct hbase, hperm.mem_iff, hkeys.mem_iff]
  have hlayered : (layered standard.toEntries others).Perm (layered standard.toEntries entries) :=
    (List.perm_ext_iff_of_nodup (nodup_keys_layered hothers hbase).of_map
      (nodup_keys_layered hentries hbase).of_map).mpr hmem
  refine ofValue_eq_ok_iff.mpr ⟨fun entry hentry ↦ htexts entry ((hmem entry).mp hentry),
    (hlayered.pairwise_iff fun hfirst ↦ hfirst.symm).mpr hapart,
    fun field ↦ (hdecides field).of_mem_iff hmem⟩

/-- The entries of a configuration make up that configuration. -/
theorem ofValue_toValue (config : Config) : ofValue config.toValue = .ok config := by
  have hbase := nodup_keys_toEntries standard
  have htext {config : Config} : ∀ entry ∈ config.toEntries, entry.1.IsText := fun entry hmem ↦ by
    obtain ⟨field, value, -, rfl⟩ := mem_toEntries.mp hmem
    exact ⟨field.name, rfl⟩
  -- Whatever the standard configuration says is said by any other one as well.
  have hmem (entry : Value × Value) :
      entry ∈ layered standard.toEntries config.toEntries ↔ entry ∈ config.toEntries := by
    rw [mem_layered htext (nodup_keys_toEntries config) hbase, or_iff_left]
    rintro ⟨hmem, hkey⟩
    obtain ⟨field, value, hwritten, rfl⟩ := mem_toEntries.mp hmem
    have hsome := field.isSome_write? config (Option.isSome_of_eq_some hwritten)
    obtain ⟨own, hown⟩ := Option.isSome_iff_exists.mp hsome
    exact hkey (List.mem_map.mpr ⟨_, mem_toEntries.mpr ⟨field, own, hown, rfl⟩, rfl⟩)
  have hkeys : ((layered standard.toEntries config.toEntries).map Prod.fst).Nodup :=
    nodup_keys_layered htext hbase
  refine ofValue_eq_ok_iff.mpr ⟨fun entry hentry ↦ htext entry ((hmem entry).mp hentry), ?_,
    fun field ↦ (decides_toEntries config field).of_mem_iff hmem⟩
  refine (List.pairwise_map.mp hkeys).imp_of_mem fun hfirst hsecond hne field hnames hother ↦ ?_
  obtain ⟨_, _, -, rfl⟩ := mem_toEntries.mp ((hmem _).mp hfirst)
  obtain ⟨_, _, -, rfl⟩ := mem_toEntries.mp ((hmem _).mp hsecond)
  exact hne (hnames.trans hother.symm)

end Config

end Dialogue
