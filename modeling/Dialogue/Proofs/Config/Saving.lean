import Dialogue.Proofs.Config.Reading
import Dialogue.Proofs.Files.Remains
import Dialogue.Proofs.Session.SetupFailure
import Dialogue.Proofs.Yaml.Equality
import Dialogue.Proofs.Yaml.Mapping

/-!
# Saving and loading a configuration

A configuration that is saved is loaded from its file as it was, provided that its text says what
was written (`Config.load_of_save`): what is left out of the file is what the standard configuration
says too. Of a file that is loaded each entry counts by itself, whatever else the file holds and in
whatever order (`Config.load_save_and_decides`).
-/

set_option autoImplicit false
set_option relaxedAutoImplicit false

namespace Dialogue.Config

open Yaml (Value)

variable {config : Config} {host saved : Host} {path : Path} {text : Text} {value : Value}
  {entries : List (Value × Value)} {located : Located}

/-! ### Files -/

/-- A configuration is loaded exactly if the file holds a text that says a value of which it can be
made. -/
theorem load_eq_ok_iff (htext : host.readText path = .ok text)
    (hvalue : Value.parse text = .ok value) :
    load host path = .ok located ↔
      ofValue value = .ok located.config ∧ located.home = path.parentOrCurrent := by
  simp only [load, htext, hvalue]
  rcases ofValue value with complaint | config
  · simp
  · obtain ⟨other, home⟩ := located
    simp [eq_comm]

/-- What a file holds is read if it is the encoding of a text. -/
theorem readText_of_fileAt? {place : Location} {executable : Bool}
    (hresolve : host.resolve path = .ok place)
    (hfile : host.fileAt? place = some (Text.Utf8.encode text, executable)) :
    host.readText path = .ok text := by
  rw [Host.readText, Host.readBytes_of_fileAt? hresolve hfile]
  simp only [bind, Except.bind, Text.Utf8.decode?_encode]

/-- A configuration that is saved is loaded as it was if its text says what was written. -/
theorem load_of_save (h : config.save host path = .ok saved)
    (hwritten : Value.parse config.render = .ok config.toValue) :
    load saved path = .ok ⟨config, path.parentOrCurrent⟩ := by
  obtain ⟨place, executable, hresolve, hfile, -⟩ := exists_of_save h
  have htext := readText_of_fileAt? hresolve hfile
  exact (load_eq_ok_iff htext hwritten).mpr ⟨ofValue_toValue config, rfl⟩

/-! ### Entries -/

/-- In a mapping that is read as a configuration no key stands twice. -/
theorem nodup_keys_of_ofValue (hdistinct : Yaml.Distinct entries)
    (h : ofValue (.mapping entries) = .ok config) : (entries.map Prod.fst).Nodup := by
  obtain ⟨htexts, -, -⟩ := ofValue_eq_ok_iff.mp h
  have hentries := isText_of_layered (List.forall_mem_map.mpr htexts)
  refine List.pairwise_map.mpr (hdistinct.imp_of_mem fun {earlier later} hearlier _ hsame heq ↦ ?_)
  have htrue := (Value.same_iff_of_isText (hentries earlier hearlier)).mpr heq.symm
  exact Bool.false_ne_true (hsame.symm.trans htrue)

/-- Saving and loading are inverse to each other, and what is loaded from a mapping is decided field
by field: an entry of its name says what a field holds, whatever the other entries are, and where
there is none it holds what it holds in the standard configuration. The order of the entries makes
no difference. -/
theorem load_save_and_decides (host : Host) (path : Path) :
    (∀ (config : Config) (saved : Host), config.save host path = .ok saved →
      Value.parse config.render = .ok config.toValue →
        load saved path = .ok ⟨config, path.parentOrCurrent⟩) ∧
    ∀ (text : Text) (entries : List (Value × Value)) (located : Located),
      host.readText path = .ok text → Value.parse text = .ok (.mapping entries) →
        load host path = .ok located →
          (∀ field, Decides entries field standard located.config) ∧
            ∀ others, others.Perm entries → ofValue (.mapping others) = .ok located.config := by
  refine ⟨fun config saved ↦ load_of_save, fun text entries located htext hvalue hload ↦ ?_⟩
  have hconfig := ((load_eq_ok_iff htext hvalue).mp hload).1
  have hdistinct := nodup_keys_of_ofValue (Yaml.distinct_of_parse hvalue) hconfig
  exact ⟨decides_of_ofValue hdistinct hconfig,
    fun others hperm ↦ ofValue_of_perm hperm hdistinct hconfig⟩

/-- A configuration with a path of wide letters and without arguments is saved in a directory that
is not there yet, and a file is loaded that says nothing about the program and something about no
field. -/
theorem load_save_and_decides_written :
    let config : Config := { standard with testSources := some (.ofString "té/日本") }
    let text := "color: 3\nrecursive: true\nprogram: ~\n".toList
    let entries := [(keyOf "color", Value.integer 3), (keyOf "recursive", .boolean true),
      (keyOf "program", .null)]
    let host : Host := ⟨.directory [("c.yaml".toList, .file (Text.Utf8.encode text) false)], [], [],
      none⟩
    (∃ saved, config.save host (.ofString "d/c.yaml") = .ok saved ∧
        load saved (.ofString "d/c.yaml") = .ok ⟨config, .ofString "d"⟩) ∧
      Decides entries .recursive standard { standard with recursive := true } ∧
        ofValue (.mapping entries.reverse) = .ok { standard with recursive := true } := by
  intro config text entries host
  obtain ⟨saved, hsave⟩ : ∃ saved, config.save host (.ofString "d/c.yaml") = .ok saved := ⟨_, rfl⟩
  have hwritten : Value.parse config.render = .ok config.toValue := by decide +kernel
  have htext : host.readText (.ofString "c.yaml") = .ok text := by decide +kernel
  have hvalue : Value.parse text = .ok (.mapping entries) := by decide +kernel
  have hload : load host (.ofString "c.yaml") =
      .ok ⟨{ standard with recursive := true }, .ofString ""⟩ := by decide +kernel
  obtain ⟨hdecides, horder⟩ :=
    (load_save_and_decides host (.ofString "c.yaml")).2 text entries _ htext hvalue hload
  have hloaded := (load_save_and_decides host (.ofString "d/c.yaml")).1 config saved hsave hwritten
  exact ⟨⟨saved, hsave, hloaded⟩, hdecides .recursive, horder _ entries.reverse_perm⟩

end Dialogue.Config
