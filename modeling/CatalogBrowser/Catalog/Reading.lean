import CatalogBrowser.Catalog.Encoding
import CatalogBrowser.Json.Shaped
import CatalogBrowser.Messages
import CatalogBrowser.Tree.State

/-!
# Reading single entries

Entries, and the words and settings that go with them, can also be read one
at a time, straight from a text. What is accepted is what a catalog accepts;
what is refused is reported with its place.
-/

namespace CatalogBrowser

open Json (Reader)

/-- Reads a kind. -/
def Kind.reader (mayNest : Bool) : Reader Kind :=
  Reader.wordOf (fun tag => .ok (Kind.ofTag tag)) mayNest

/-- The page a word names. -/
def Page.named (word : String) : Except Mismatch Page :=
  match Page.ofTag? word with
  | some page => .ok page
  | none => .error (.unknownWord word (Page.all.map Page.tag))

/-- Reads a page. -/
def Page.reader (mayNest : Bool) : Reader Page := Reader.wordOf Page.named mayNest

/-! ## What is hidden -/

/-- **The settings of `Hidden` read so far.** -/
structure HiddenParts where
  datasets : Option Bool := none
  spaces : Option Bool := none
  sources : Option Bool := none
  homes : Option Bool := none
deriving Inhabited

/-- The settings that were read. What was not is not hidden. -/
def HiddenParts.complete (parts : HiddenParts) : Hidden :=
  ⟨parts.datasets.getD false, parts.spaces.getD false, parts.sources.getD false,
    parts.homes.getD false⟩

/-- Reads one more setting. -/
def HiddenParts.member (key : String) (parts : HiddenParts) : Reader HiddenParts := do
  match key with
  | "hide_datasets" => pure { parts with datasets := ← Reader.freshField key parts.datasets .flag }
  | "hide_spaces" => pure { parts with spaces := ← Reader.freshField key parts.spaces .flag }
  | "hide_sources" => pure { parts with sources := ← Reader.freshField key parts.sources .flag }
  | "hide_homes" => pure { parts with homes := ← Reader.freshField key parts.homes .flag }
  | _ => do Reader.unknownField; pure parts

/-- How the settings are read. -/
def Hidden.fields : Reader.Fields Hidden where
  ofList := do
    let datasets ← Reader.item? true .flag
    let spaces ← Reader.item? false .flag
    let sources ← Reader.item? false .flag
    let homes ← Reader.item? false .flag
    pure (HiddenParts.complete ⟨datasets, spaces, sources, homes⟩)
  ofObject := do
    pure (← Reader.object HiddenParts.member {}).complete

/-- **Reads what is hidden.** -/
def Hidden.reader : Reader Hidden := Reader.record "struct TreeFilter" (some Hidden.fields)

/-! ## Entries -/

/-- Reads one more member of an entry. -/
def ResourceParts.member (path : Reader (List String)) (children : Reader Forest) (mayNest : Bool)
    (key : String) (parts : ResourceParts) : Reader ResourceParts := do
  match key with
  | "type" => pure { parts with kind := ← Reader.freshField key parts.kind (Kind.reader mayNest) }
  | "name" => pure { parts with name := ← Reader.freshField key parts.name .text }
  | "fullPath" => pure { parts with path := ← Reader.freshField key parts.path path }
  | "children" => pure { parts with children := ← Reader.freshField key parts.children children }
  | _ => do Reader.unknownField; pure parts

/-- How the members of an entry are read, given how a child is read. Without
a way to read one nothing may be nested in the entry. -/
def Resource.fields (mayNest : Bool) (child : Option (Reader Resource)) :
    Reader.Fields Resource :=
  let path := Reader.listOf (if mayNest then some Reader.text else none)
  let children := Reader.listOf child
  { ofList := do
      let kind ← Reader.item? true (Kind.reader mayNest)
      match ← Reader.item? false .text with
      | none => Reader.failBehind ']' (.wrongLength 1 "struct ResourceNode with 4 elements")
      | some name =>
        let path ← Reader.item? false path
        let children ← Reader.item? false children
        pure ⟨kind.getD .unknown, name, path.getD [], children.getD []⟩
    ofObject := do
      let parts ← Reader.object (ResourceParts.member path children mayNest) {}
      match parts.complete? with
      | some r => pure r
      | none => Reader.failBehind '}' (.missingField "name") }

/-- **Reads an entry**, with a number of levels of nesting to go. A child
lies two levels deeper than its parent, in a list in an object. -/
def Resource.reader : Nat → Reader Resource
  | 0 => Reader.record "struct ResourceNode" none
  | 1 => Reader.record "struct ResourceNode" (some (Resource.fields false none))
  | depth + 2 =>
    Reader.record "struct ResourceNode" (some (Resource.fields true (some (Resource.reader depth))))

end CatalogBrowser
