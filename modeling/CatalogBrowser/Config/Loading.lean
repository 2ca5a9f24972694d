import CatalogBrowser.Config.Decoding
import CatalogBrowser.Files.Basic

/-!
# Where settings come from

Settings come from one file at most: the one in the working directory, or
else the user's own. What the environment sets takes precedence over the
file, and whether the settings can be used is decided last, so a variable
can make good for a file.
-/

namespace CatalogBrowser

/-- **The environment variables that are set**, so far as they are text. -/
abbrev Environment := String → Option String

/-- The environment whose variables have the given bytes. A variable whose
bytes are no UTF-8 text does not count. -/
def Environment.ofBytes (bytes : String → Option ByteArray) : Environment :=
  fun name => (bytes name).bind String.fromUTF8?

namespace Config

/-! ## The environment -/

/-- The truth value a variable stands for, if it stands for one. -/
def flagOfText? (text : String) : Option Bool :=
  match Text.lowerAscii (String.ofList (Text.trim text.toList)) with
  | "1" | "true" | "yes" | "on" => some true
  | "0" | "false" | "no" | "off" => some false
  | _ => none

/-- **Settings with what the environment sets.** -/
def override (env : Environment) (c : Config) : Config where
  catalogPath := (env "LAKEVIEW_CATALOG").getD c.catalogPath
  tree := { c.tree with
    datasetsAreLeaves :=
      ((env "LAKEVIEW_STOP_AT_DATASETS").bind flagOfText?).getD c.tree.datasetsAreLeaves }
  screen := { c.screen with
    showWiki := ((env "LAKEVIEW_SHOW_WIKI").bind flagOfText?).getD c.screen.showWiki
    locale := (env "LAKEVIEW_LOCALE").getD c.screen.locale }
  log := {
    level := (env "LAKEVIEW_LOG").getD c.log.level
    file := (env "LAKEVIEW_LOG_FILE").or c.log.file }

/-- Settings as the environment leaves them, if they can be used. -/
def finish (env : Environment) (c : Config) : Except ConfigFault Config := do
  let c := c.override env
  c.validate
  pure c

/-! ## Files -/

/-- **The settings in a file.** -/
def fromFile (files : FileView) (env : Environment) (path : String) :
    Except ConfigFault Config :=
  match files.readText path with
  | .error fault => .error (.unreadable fault)
  | .ok text => ofText text >>= finish env

/-- The configuration file in the working directory. -/
def localFile : String := "lakeview.toml"

/-- The user's own configuration file, in the directory for such files. -/
def userFile (directory : String) : String := directory ++ "/lakeview/config.toml"

/-- **The settings to start with.** `directory` is where the user's
configuration files are, if anywhere. -/
def load (files : FileView) (directory : Option String) (env : Environment) :
    Except ConfigFault Config :=
  if files.holds localFile then fromFile files env localFile
  else
    match directory.map userFile with
    | some path => if files.holds path then fromFile files env path else finish env {}
    | none => finish env {}

end Config

end CatalogBrowser
