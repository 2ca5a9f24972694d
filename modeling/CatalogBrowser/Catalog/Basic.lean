import CatalogBrowser.Catalog.Encoding
import CatalogBrowser.Files.Basic
import CatalogBrowser.Json.Document
import CatalogBrowser.Log.Event

/-!
# Catalogs

A **catalog** is a snapshot of a whole tree of entries, taken from one
document. The document is a list of entries, or an object with such a list
as its member `resources`. Every entry of a catalog has a path, since the
paths the document leaves out are completed from the entries above.

A catalog hands its entries out level by level and without what is below
them: `loadRoots` gives the roots, and `loadChildren` the children of the
entry at a path. The entry is sought one level for each segment of the
path, at each level among the entries whose path is that much of it.
-/

namespace CatalogBrowser

/-! ## Faults

Why a catalog does not open, or does not answer. A text that is no JSON
document is faulted where it goes wrong; a document that describes no
catalog is only faulted as a whole. -/

/-- **Why a document is no catalog.** -/
inductive SnapshotFault where
  /-- It is no JSON document. -/
  | malformed (fault : Json.Fault)
  /-- It is a JSON document of another shape. -/
  | misshapen
deriving DecidableEq, Repr

/-- The wording of a document's fault. -/
def SnapshotFault.message : SnapshotFault → String
  | malformed fault => fault.message
  | misshapen => "data did not match any variant of untagged enum Snapshot"

/-- **Why a catalog does not open or answer.** -/
inductive CatalogFault where
  /-- The file could not be read. -/
  | unreadable (path : String) (fault : FileFault)
  /-- The file holds no catalog. -/
  | snapshot (fault : SnapshotFault)
  /-- The catalog has no entries. -/
  | empty (path : String)
  /-- The catalog has no entry with the given id. -/
  | notFound (id : String)
deriving DecidableEq, Repr

/-- The wording of a catalog's fault. -/
def CatalogFault.message : CatalogFault → String
  | unreadable path fault => s!"IO error at {path}: {fault.message}"
  | snapshot fault => s!"Catalog JSON error: {fault.message}"
  | empty path => s!"Catalog has no root entries: {path}"
  | notFound id => s!"Node not found: {id}"

/-! ## Catalogs -/

/-- **A catalog of entries.** -/
structure Catalog where
  /-- The path it was opened under. -/
  path : String
  /-- All entries, with everything below them. -/
  roots : Forest
deriving Inhabited, Repr

namespace Catalog

/-! ## From a document -/

/-- The entries a document lists, if it is a catalog. -/
def entries? : Json → Option Forest
  | .object members =>
    match members.filter (·.1 = "resources") with
    | [(_, value)] => Forest.ofJson? value
    | _ => none
  | value => Forest.ofJson? value

/-- The catalog of the listed entries, of which there must be one at least. -/
def ofEntries (path : String) (entries : Forest) : Except CatalogFault Catalog :=
  if entries.isEmpty then .error (.empty path)
  else .ok ⟨path, Forest.completePaths [] entries⟩

/-- **The catalog a JSON value describes.** -/
def ofJson (path : String) (document : Json) : Except CatalogFault Catalog :=
  match entries? document with
  | some entries => ofEntries path entries
  | none => .error (.snapshot .misshapen)

/-! ## Loading -/

/-- How many entries a catalog comprises. -/
def count (c : Catalog) : Nat := Forest.count c.roots

/-- The entry reached by going down one level for every segment of `rest`,
where `done` is the part of the path above `level`. -/
def descend? (done : List String) : List String → Forest → Option Resource
  | [], _ => none
  | segment :: rest, level =>
    match level.find? (·.path = done ++ [segment]) with
    | none => none
    | some r => if rest.isEmpty then some r else descend? (done ++ [segment]) rest r.children

/-- **The entry at a path**, if going down the levels finds it. -/
def find? (c : Catalog) (path : List String) : Option Resource := descend? [] path c.roots

/-- **The roots, without what is below them.** -/
def loadRoots (c : Catalog) : Forest := c.roots.map Resource.shallow

/-- **The children of the entry at a path**, without what is below them. -/
def loadChildren (c : Catalog) (path : List String) : Except CatalogFault Forest :=
  match c.find? path with
  | some r => .ok (r.children.map Resource.shallow)
  | none => .error (.notFound (Path.id path))

/-! ## Opening catalogs

A catalog is opened from a file, or read from a text that is already there.
The document is read as a JSON value first, so its syntax is checked before
its shape; only what follows the value is looked at after the shape. -/

/-- The JSON value at the head of a text, and what is left behind it. -/
def document (text : String) : Except CatalogFault (Json × Cursor) :=
  match StateT.run (Json.Reader.value Json.depthLimit) (.ofString text) with
  | .ok read => .ok read
  | .error fault => .error (.snapshot (.malformed fault))

/-- Refuses anything but blanks. -/
def checkEnd (rest : Cursor) : Except CatalogFault Unit :=
  match (rest.span Json.Reader.isBlank).2 with
  | ⟨[], _⟩ => .ok ()
  | c => .error (.snapshot (.malformed ⟨.trailingCharacters, c.ahead⟩))

/-- **The catalog a text describes.** -/
def ofText (path text : String) : Except CatalogFault Catalog := do
  let (value, rest) ← document text
  match entries? value with
  | none => .error (.snapshot .misshapen)
  | some entries => do
    checkEnd rest
    ofEntries path entries

/-- **The catalog in a file.** Opening one is reported. -/
def openFile (files : FileView) (path : String) : Traced (Except CatalogFault Catalog) :=
  match files.readText path with
  | .error fault => pure (.error (.unreadable path fault))
  | .ok text =>
    match ofText path text with
    | .error fault => pure (.error fault)
    | .ok c => do
      Traced.tell ⟨.info, "lakeview_core::catalog::file", "loaded catalog snapshot",
        [("path", .text path), ("roots", .count c.roots.length), ("nodes", .count c.count)]⟩
      pure (.ok c)

end Catalog

end CatalogBrowser
