import CatalogBrowser.Resource.Kind

/-!
# Resources

A **resource** is an entry of a catalog together with the entries loaded
below it, and a **forest** is a list of resources: the roots of a catalog,
or the children of one entry. Functions on resources come in pairs, one for
a resource and one for a forest, each recursing through the other.

Two walks fix the order everything else refers to. `nodes` lists a forest
in pre-order, an entry before what is below it; `lookup` returns the first
resource in that order whose id is the one asked for.
-/

namespace CatalogBrowser

/-! ## Ids of paths

A resource is identified by its full path, written the way a query would
name it: the segments joined by dots, each one quoted unless it is a plain
identifier. Inside quotes a quote is doubled, so the text of a segment can
be read off its quoted form whatever it contains.

The writing is defined on lists of characters, where a segment ends and the
next begins can be followed by recursion; `Path.id` is the same writing as
a string. -/

namespace Path

/-- **A plain identifier**: a letter or an underscore, then letters, digits
and underscores, all of them ASCII. -/
def isPlain : List Char → Bool
  | [] => false
  | c :: cs => (c.isAlpha || c == '_') && (c :: cs).all (fun c => c.isAlphanum || c == '_')

/-- A text with each quote in it doubled. -/
def doubleQuotes : List Char → List Char
  | [] => []
  | c :: cs => if c = '"' then '"' :: '"' :: doubleQuotes cs else c :: doubleQuotes cs

/-- **A segment as it stands in an id**: a plain identifier as it is, anything
else between quotes. -/
def segmentChars (segment : List Char) : List Char :=
  if isPlain segment then segment else '"' :: doubleQuotes segment ++ ['"']

/-- The characters of an id. -/
def chars (path : List String) : List Char :=
  ['.'].intercalate (path.map fun segment => segmentChars segment.toList)

/-- **The id of a path.** The empty path has the empty id. -/
def id (path : List String) : String :=
  String.ofList (chars path)

end Path

/-! ## Entries -/

/-- **An entry of a catalog**, with the children loaded so far. -/
structure Resource where
  /-- What the entry is. -/
  kind : Kind
  /-- The name shown for it. -/
  name : String
  /-- The path from the root of the catalog, the entry's own segment last. -/
  path : List String
  /-- The children that are known. -/
  children : List Resource
deriving Inhabited, Repr, BEq

/-- Resources that stand side by side. -/
abbrev Forest := List Resource

namespace Resource

/-- **The id of a resource**: the id of its path. -/
def id (r : Resource) : String := Path.id r.path

/-- A childless resource at a path, named after the last segment. -/
def atPath (kind : Kind) (path : List String) : Resource :=
  ⟨kind, path.getLastD "", path, []⟩

/-- The same entry with nothing loaded below it. -/
def shallow (r : Resource) : Resource := { r with children := [] }

/-- **Whether an entry can be opened.** Containers always can; datasets can
unless they are treated as leaves. -/
def expandable (datasetsAreLeaves : Bool) (r : Resource) : Bool :=
  r.kind.isContainer || (r.kind.isDataset && !datasetsAreLeaves)

end Resource

/-- The id reported for a selection, which is empty when nothing is selected. -/
def selectionId : Option Resource → String
  | some r => r.id
  | none => ""

/-! ## Walks -/

mutual

/-- The resource and everything below it, in pre-order. -/
def Resource.nodes : Resource → List Resource
  | ⟨kind, name, path, children⟩ => ⟨kind, name, path, children⟩ :: Forest.nodes children

/-- **A forest in pre-order.** -/
def Forest.nodes : Forest → List Resource
  | [] => []
  | r :: rs => r.nodes ++ Forest.nodes rs

end

mutual

/-- How many entries a resource comprises, itself included. -/
def Resource.count : Resource → Nat
  | ⟨_, _, _, children⟩ => 1 + Forest.count children

/-- How many entries a forest comprises. -/
def Forest.count : Forest → Nat
  | [] => 0
  | r :: rs => r.count + Forest.count rs

end

mutual

/-- The first resource with the given id, the resource itself before
anything below it. -/
def Resource.lookup (id : String) : Resource → Option Resource
  | ⟨kind, name, path, children⟩ =>
    if Path.id path = id then some ⟨kind, name, path, children⟩ else Forest.lookup id children

/-- **The first resource of a forest with the given id.** -/
def Forest.lookup (id : String) : Forest → Option Resource
  | [] => none
  | r :: rs =>
    match r.lookup id with
    | some found => some found
    | none => Forest.lookup id rs

end

/-! ## Completing paths

A catalog may give an entry only a name. Its path is then its parent's path
and that name; an entry given only a path takes the last segment as its
name. The path that was completed, and not the one that was given, is what
the children build on. -/

/-- The path of an entry: the one given, or else its parent's and its name. -/
def completedPath (parent : List String) (name : String) (path : List String) : List String :=
  if path.isEmpty then parent ++ [name] else path

/-- The name of an entry: the one given, or else the last segment of its path. -/
def completedName (name : String) (path : List String) : String :=
  if name.isEmpty then path.getLastD "" else name

mutual

/-- A resource with every path and name below it completed, under a parent
at the given path. -/
def Resource.completePaths (parent : List String) : Resource → Resource
  | ⟨kind, name, path, children⟩ =>
    let path := completedPath parent name path
    ⟨kind, completedName name path, path, Forest.completePaths path children⟩

/-- **A forest with every path and name completed.** -/
def Forest.completePaths (parent : List String) : Forest → Forest
  | [] => []
  | r :: rs => r.completePaths parent :: Forest.completePaths parent rs

end

/-! ## Positions

Ids may collide, so a place in a forest is named by **position**: the child
indexes that lead to it from the roots. The empty list of indexes names no
resource. -/

/-- **The resource at a position**, if there is one. -/
def Forest.at? (forest : Forest) : List Nat → Option Resource
  | [] => none
  | [i] => forest[i]?
  | i :: j :: rest =>
    match forest[i]? with
    | some r => Forest.at? r.children (j :: rest)
    | none => none

/-! ## Grafting loaded children

Children arrive for a path, and are hung below the first entry on that
path. The search goes through a forest in order, and down into an entry
only if its own path leads towards the target; an entry without a path
leads nowhere. -/

mutual

/-- A resource with the children of the entry at `target` replaced, if the
search finds one. -/
def Resource.graft? (target : List String) (grafted : Forest) : Resource → Option Resource
  | ⟨kind, name, path, children⟩ =>
    if path = target then some ⟨kind, name, path, grafted⟩
    else if !path.isEmpty && path.isPrefixOf target then
      (Forest.graft? target grafted children).map fun children => ⟨kind, name, path, children⟩
    else none

/-- **A forest with the children of the entry at `target` replaced**, if the
search finds one. -/
def Forest.graft? (target : List String) (grafted : Forest) : Forest → Option Forest
  | [] => none
  | r :: rs =>
    match r.graft? target grafted with
    | some r => some (r :: rs)
    | none => (Forest.graft? target grafted rs).map fun rs => r :: rs

end

/-- A forest with the children of the entry at `target` replaced. It stays
as it is if there is no such entry. -/
def Forest.graft (target : List String) (grafted : Forest) (forest : Forest) : Forest :=
  (Forest.graft? target grafted forest).getD forest

end CatalogBrowser
