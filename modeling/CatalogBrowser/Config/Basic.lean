import CatalogBrowser.Files.Basic
import CatalogBrowser.Log.Filter
import CatalogBrowser.Messages
import CatalogBrowser.Shape.Mismatch
import CatalogBrowser.Tree.State

/-!
# Settings

The settings of the browser, with what they are when nobody sets them. Some
settings can be read without being usable; `validate` says which are not.
-/

namespace CatalogBrowser

/-- **The settings of the tree.** -/
structure TreeSettings where
  /-- Whether datasets are leaves. -/
  datasetsAreLeaves : Bool := false
  /-- The kinds of entries left out. -/
  hidden : Hidden := {}
deriving DecidableEq, Repr, Inhabited

/-- **The settings of the screen.** -/
structure ScreenSettings where
  /-- Whether the wiki page is offered. -/
  showWiki : Bool := true
  /-- The locale of the messages. -/
  locale : String := Messages.defaultLocale
  /-- How many milliseconds pass between two looks at the clock. -/
  tickRate : Nat := 250
deriving DecidableEq, Repr, Inhabited

/-- **The settings of the log.** -/
structure LogSettings where
  /-- The filter, in writing. -/
  level : String := "info"
  /-- The file the log is written to. -/
  file : Option String := none
deriving DecidableEq, Repr, Inhabited

/-- **All settings.** -/
structure Config where
  /-- The file the catalog is in. -/
  catalogPath : String := "catalog.json"
  tree : TreeSettings := {}
  screen : ScreenSettings := {}
  log : LogSettings := {}
deriving DecidableEq, Repr, Inhabited

/-- **Why there are no settings.** -/
inductive ConfigFault where
  /-- The file could not be read. -/
  | unreadable (fault : FileFault)
  /-- The file is no TOML file. -/
  | malformed
  /-- A value in the file is of the wrong shape. -/
  | mismatch (mismatch : Mismatch)
  /-- The catalog is nowhere. -/
  | noCatalogPath
  /-- The filter of the log does not read. -/
  | badLogLevel (level : String) (fault : Log.FilterFault)
deriving DecidableEq, Repr

/-- The wording of a fault. -/
def ConfigFault.message : ConfigFault → String
  | unreadable fault => s!"Failed to read config file: {fault.message}"
  | malformed | mismatch _ => "Failed to parse config file"
  | noCatalogPath => "Invalid configuration: catalog.path must not be empty"
  | badLogLevel level fault =>
    s!"Invalid configuration: logging.level '{level}' is not a valid filter: {fault.message}"

namespace Config

/-- **Whether settings can be used**, and if not, why. -/
def validate (c : Config) : Except ConfigFault Unit :=
  if c.catalogPath.isEmpty then .error .noCatalogPath
  else
    match Log.Filter.ofText c.log.level with
    | .ok _ => .ok ()
    | .error fault => .error (.badLogLevel c.log.level fault)

/-- What the tree shows at first. -/
def viewOptions (c : Config) : ViewOptions :=
  ⟨c.tree.datasetsAreLeaves, c.tree.hidden, .all⟩

/-! ## Writing -/

/-- A truth value as a configuration file writes it. -/
def flagText (flag : Bool) : String := if flag then "true" else "false"

/-- **The configuration file with the settings nobody set.** -/
def defaultText : String :=
  let c : Config := {}
  String.join
    ["[catalog]\n",
      s!"path = \"{c.catalogPath}\"\n",
      "\n[tree]\n",
      s!"stop_at_datasets = {flagText c.tree.datasetsAreLeaves}\n",
      s!"hide_datasets = {flagText c.tree.hidden.datasets}\n",
      s!"hide_spaces = {flagText c.tree.hidden.spaces}\n",
      s!"hide_sources = {flagText c.tree.hidden.sources}\n",
      s!"hide_homes = {flagText c.tree.hidden.homes}\n",
      "\n[ui]\n",
      s!"show_wiki = {flagText c.screen.showWiki}\n",
      s!"locale = \"{c.screen.locale}\"\n",
      s!"tick_rate_ms = {c.screen.tickRate}\n",
      "\n[logging]\n",
      s!"level = \"{c.log.level}\"\n"]

end Config

end CatalogBrowser
