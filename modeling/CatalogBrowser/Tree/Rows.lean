import CatalogBrowser.Tree.State

/-!
# The rows of the tree

The tree is drawn as a list of rows, one for each entry that can be seen:
an entry is followed by the rows of its children if it can be opened and is
open, one step further in.

On the tab of starred entries each of them starts a list of its own at the
left margin, in pre-order of the catalog, whether or not the entries above
it are open. An entry that an earlier list already shows is not listed
again.
-/

namespace CatalogBrowser

/-- **A row of the tree.** -/
structure Row where
  /-- How many entries it lies below. -/
  depth : Nat
  /-- The entry it shows. -/
  resource : Resource
  /-- Whether the entry can be opened. -/
  expandable : Bool
  /-- Whether the entry can be opened and is open. -/
  expanded : Bool
  /-- Whether the entry carries a star. -/
  starred : Bool
  /-- Whether the entry waits for its children. -/
  loading : Bool
deriving Inhabited, Repr, BEq

/-- The id of the entry a row shows. -/
def Row.id (row : Row) : String := row.resource.id

/-- The row of an entry. -/
def TreeState.row (s : TreeState) (options : ViewOptions) (depth : Nat) (r : Resource) : Row where
  depth := depth
  resource := r
  expandable := r.expandable options.datasetsAreLeaves
  expanded := r.expandable options.datasetsAreLeaves && s.isExpanded r.id
  starred := s.isStarred r.id
  loading := s.isLoading r.id

mutual

/-- The rows of an entry and of what is visible below it. -/
def Resource.rows (s : TreeState) (options : ViewOptions) (depth : Nat) : Resource → List Row
  | ⟨kind, name, path, children⟩ =>
    if options.hidden.hides ⟨kind, name, path, children⟩ then []
    else
      let row := s.row options depth ⟨kind, name, path, children⟩
      row :: if row.expanded then Forest.rows s options (depth + 1) children else []

/-- **The rows of a forest whose entries stand at a given depth.** -/
def Forest.rows (s : TreeState) (options : ViewOptions) (depth : Nat) : Forest → List Row
  | [] => []
  | r :: rs => r.rows s options depth ++ Forest.rows s options depth rs

end

mutual

/-- The starred entries among an entry and what is below it, none of them
hidden or below a hidden one. -/
def Resource.starredNodes (s : TreeState) (hidden : Hidden) : Resource → List Resource
  | ⟨kind, name, path, children⟩ =>
    if hidden.hides ⟨kind, name, path, children⟩ then []
    else
      let below := Forest.starredNodes s hidden children
      if s.isStarred (Path.id path) then ⟨kind, name, path, children⟩ :: below else below

/-- **The starred entries of a forest, in pre-order.** -/
def Forest.starredNodes (s : TreeState) (hidden : Hidden) : Forest → List Resource
  | [] => []
  | r :: rs => r.starredNodes s hidden ++ Forest.starredNodes s hidden rs

end

namespace TreeState

/-- One more starred entry, listed below the rows there are unless one of
them shows its id. -/
def listStarred (s : TreeState) (options : ViewOptions) (rows : List Row) (r : Resource) :
    List Row :=
  if rows.any (·.id = r.id) then rows else rows ++ r.rows s options 0

/-- **The rows of the tree.** -/
def visibleRows (s : TreeState) (options : ViewOptions) (roots : Forest) : List Row :=
  match options.tab with
  | .all => Forest.rows s options 0 roots
  | .starred => (Forest.starredNodes s options.hidden roots).foldl (s.listStarred options) []

end TreeState

end CatalogBrowser
