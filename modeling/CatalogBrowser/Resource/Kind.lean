/-!
# Kinds of catalog entries

Every entry of a catalog carries a type tag, and the tag decides how the
browser treats it: **containers** hold other entries, **datasets** can be
queried and may list their columns below them, and everything else is a
**leaf**. A tag the browser does not know names a leaf of kind `unknown`,
so a catalog written by a newer server still opens.
-/

namespace CatalogBrowser

/-- **What a catalog entry is.** -/
inductive Kind where
  | source
  | space
  | home
  | folder
  | virtualDataset
  | physicalDataset
  | sourceFile
  | sourceFolder
  | homeFile
  | homeFolder
  | file
  | function
  | unknown
deriving DecidableEq, Repr, Inhabited

namespace Kind

/-- **How the browser treats a kind.** -/
inductive Class where
  | container
  | dataset
  | leaf
deriving DecidableEq, Repr, Inhabited

/-- The word the command line prints for a class. -/
def Class.name : Class → String
  | container => "container"
  | dataset => "dataset"
  | leaf => "leaf"

/-- The class of a kind. Files and folders promoted to datasets count as
datasets, whatever they were before. -/
def cls : Kind → Class
  | source | space | home | folder => .container
  | virtualDataset | physicalDataset | sourceFile | sourceFolder | homeFile | homeFolder =>
    .dataset
  | file | function | unknown => .leaf

/-- Whether entries of this kind hold other entries. -/
def isContainer (k : Kind) : Bool := k.cls = .container

/-- Whether entries of this kind can be queried. -/
def isDataset (k : Kind) : Bool := k.cls = .dataset

/-- **The tag a catalog writes for a kind.** -/
def tag : Kind → String
  | source => "SOURCE"
  | space => "SPACE"
  | home => "HOME"
  | folder => "FOLDER"
  | virtualDataset => "VIRTUAL_DATASET"
  | physicalDataset => "PHYSICAL_DATASET"
  | sourceFile => "PHYSICAL_DATASET_SOURCE_FILE"
  | sourceFolder => "PHYSICAL_DATASET_SOURCE_FOLDER"
  | homeFile => "PHYSICAL_DATASET_HOME_FILE"
  | homeFolder => "PHYSICAL_DATASET_HOME_FOLDER"
  | file => "FILE"
  | function => "FUNCTION"
  | unknown => "UNKNOWN"

/-- **The kind a tag names.** Tags are matched exactly, and one that names
no kind reads as `unknown`. -/
def ofTag : String → Kind
  | "SOURCE" => source
  | "SPACE" => space
  | "HOME" => home
  | "FOLDER" => folder
  | "VIRTUAL_DATASET" => virtualDataset
  | "PHYSICAL_DATASET" => physicalDataset
  | "PHYSICAL_DATASET_SOURCE_FILE" => sourceFile
  | "PHYSICAL_DATASET_SOURCE_FOLDER" => sourceFolder
  | "PHYSICAL_DATASET_HOME_FILE" => homeFile
  | "PHYSICAL_DATASET_HOME_FOLDER" => homeFolder
  | "FILE" => file
  | "FUNCTION" => function
  | _ => unknown

/-- The name a reader sees for a kind. All physical datasets are tables. -/
def title : Kind → String
  | source => "Source"
  | space => "Space"
  | home => "Home"
  | folder => "Folder"
  | virtualDataset => "View"
  | physicalDataset | sourceFile | sourceFolder | homeFile | homeFolder => "Table"
  | file => "File"
  | function => "Function"
  | unknown => "Unknown"

/-- Every kind is read back from its own tag. -/
@[simp]
theorem ofTag_tag (k : Kind) : ofTag k.tag = k := by
  cases k <;> rfl

end Kind

end CatalogBrowser
