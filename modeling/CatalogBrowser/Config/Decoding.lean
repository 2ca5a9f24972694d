import CatalogBrowser.Config.Basic
import CatalogBrowser.Decimal.Style
import CatalogBrowser.Toml.Document

/-!
# Settings in a file

A configuration file has a table for each group of settings. A setting that
is missing is as nobody set it, and a key that is not known is passed over.
The first value of the wrong shape, in the order of the file, is reported.

The settings of a group may also stand in an array, in a fixed order. Only
the settings of the tree need their names.
-/

namespace CatalogBrowser

namespace Toml

/-- What a value is, in the words of a mismatch. -/
def found : Toml → Found
  | .string s => .text s
  | .integer n => .integer n
  | .real x => .real (Decimal.plainStyle.write x)
  | .boolean b => .boolean b
  | .moment | .table _ => .map
  | .array _ => .list

/-- Refuses a value of another type than the one expected. -/
def refuse {α : Type} (expected : String) (v : Toml) : Except Mismatch α :=
  .error (.wrongType v.found expected)

/-- A truth value. -/
def asFlag : Toml → Except Mismatch Bool
  | .boolean b => .ok b
  | v => v.refuse "a boolean"

/-- A string, which is called `expected` where it is missing. -/
def asText (expected : String) : Toml → Except Mismatch String
  | .string s => .ok s
  | v => v.refuse expected

/-- A whole number that is not negative. -/
def asNatural : Toml → Except Mismatch Nat
  | .integer n => if n < 0 then .error (.wrongValue (.integer n) "u64") else .ok n.toNat
  | v => v.refuse "u64"

/-- **A group of settings.** The value of each key is taken up by `set`; in
an array the values stand in the order of `keys`. -/
def asGroup {α : Type} (expected : String) (keys : List String)
    (set : String → Toml → α → Except Mismatch α) (default : α) : Toml → Except Mismatch α
  | .table members => members.foldlM (fun a (key, v) => set key v a) default
  | .array items => (keys.zip items).foldlM (fun a (key, v) => set key v a) default
  | .moment => .ok default
  | v => v.refuse expected

end Toml

/-! ## Groups -/

/-- Takes up the path of the catalog. -/
def Config.setCatalog (key : String) (v : Toml) (path : String) : Except Mismatch String :=
  match key with
  | "path" => v.asText "path string"
  | _ => .ok path

/-- Takes up whether datasets are leaves. -/
def TreeSettings.setLeaves (s : TreeSettings) (member : String × Toml) :
    Except Mismatch TreeSettings :=
  match member.1 with
  | "stop_at_datasets" => do pure { s with datasetsAreLeaves := ← member.2.asFlag }
  | _ => .ok s

/-- Takes up what is hidden. -/
def TreeSettings.setHidden (s : TreeSettings) (member : String × Toml) :
    Except Mismatch TreeSettings :=
  match member.1 with
  | "hide_datasets" => do
    pure { s with hidden := { s.hidden with datasets := ← member.2.asFlag } }
  | "hide_spaces" => do
    pure { s with hidden := { s.hidden with spaces := ← member.2.asFlag } }
  | "hide_sources" => do
    pure { s with hidden := { s.hidden with sources := ← member.2.asFlag } }
  | "hide_homes" => do
    pure { s with hidden := { s.hidden with homes := ← member.2.asFlag } }
  | _ => .ok s

/-- **The settings of the tree.** Whether datasets are leaves is looked at
before what is hidden. -/
def TreeSettings.ofToml : Toml → Except Mismatch TreeSettings
  | .table members => do
    let s ← members.foldlM TreeSettings.setLeaves {}
    members.foldlM TreeSettings.setHidden s
  | .moment => .ok {}
  | v => v.refuse "struct TreeConfig"

/-- Takes up a setting of the screen. -/
def ScreenSettings.set (key : String) (v : Toml) (s : ScreenSettings) :
    Except Mismatch ScreenSettings :=
  match key with
  | "show_wiki" => do pure { s with showWiki := ← v.asFlag }
  | "locale" => do pure { s with locale := ← v.asText "a string" }
  | "tick_rate_ms" => do pure { s with tickRate := ← v.asNatural }
  | _ => .ok s

/-- Takes up a setting of the log. -/
def LogSettings.set (key : String) (v : Toml) (s : LogSettings) : Except Mismatch LogSettings :=
  match key with
  | "level" => do pure { s with level := ← v.asText "a string" }
  | "file" => do pure { s with file := some (← v.asText "path string") }
  | _ => .ok s

/-- Takes up a group of settings. -/
def Config.setGroup (c : Config) (member : String × Toml) : Except Mismatch Config :=
  match member.1 with
  | "catalog" => do
    let path ← member.2.asGroup "struct CatalogConfig" ["path"] Config.setCatalog c.catalogPath
    pure { c with catalogPath := path }
  | "tree" => do pure { c with tree := ← TreeSettings.ofToml member.2 }
  | "ui" => do
    let screen ← member.2.asGroup "struct UiConfig" ["show_wiki", "locale", "tick_rate_ms"]
      ScreenSettings.set {}
    pure { c with screen }
  | "logging" => do
    let log ← member.2.asGroup "struct LoggingConfig" ["level", "file"] LogSettings.set {}
    pure { c with log }
  | _ => .ok c

/-- **The settings in a text.** -/
def Config.ofText (text : String) : Except ConfigFault Config :=
  match Toml.parse? text with
  | none => .error .malformed
  | some members =>
    match members.foldlM Config.setGroup {} with
    | .ok c => .ok c
    | .error m => .error (.mismatch m)

end CatalogBrowser
