import CatalogBrowser.Log.Event
import CatalogBrowser.Resource.Basic
import CatalogBrowser.Tree.IdSet

/-!
# The state of the tree

What the browser remembers about the tree, apart from the tree itself: the
ids of the entries that are open, starred, or waiting for their children,
and the id that is selected. Ids that no entry carries may stay in these
sets; they come back into force when such an entry appears.

The tree is shown through a few settings, which are no part of the state:
which kinds of entries are hidden, whether datasets can be opened, and
whether the whole catalog or only the starred entries are listed.

The state changes when something is selected. A selection reaches it in two
calls, which a `SelectionHandler` takes.
-/

namespace CatalogBrowser

/-! ## Settings

An entry that is hidden takes everything below it along. -/

/-- **The kinds of entries left out of the tree.** -/
structure Hidden where
  datasets : Bool := false
  spaces : Bool := false
  sources : Bool := false
  homes : Bool := false
deriving DecidableEq, Repr, Inhabited

/-- Whether an entry, and with it everything below it, is left out. -/
def Hidden.hides (hidden : Hidden) (r : Resource) : Bool :=
  match r.kind with
  | .space => hidden.spaces
  | .source => hidden.sources
  | .home => hidden.homes
  | kind => hidden.datasets && kind.isDataset

/-- **The tab above the tree**: the whole catalog, or the starred entries. -/
inductive Tab where
  | all
  | starred
deriving DecidableEq, Repr, Inhabited

namespace Tab

/-- The other tab. -/
def toggle : Tab → Tab
  | all => starred
  | starred => all

/-- What is written on a tab. -/
def title : Tab → String
  | all => "All"
  | starred => "Starred"

@[simp]
theorem toggle_toggle (t : Tab) : t.toggle.toggle = t := by
  cases t <;> rfl

end Tab

/-- **The settings the tree is shown with.** -/
structure ViewOptions where
  /-- Whether datasets are leaves, so that their columns are never listed. -/
  datasetsAreLeaves : Bool := false
  /-- The kinds of entries left out. -/
  hidden : Hidden := {}
  /-- The tab that is open. -/
  tab : Tab := .all
deriving DecidableEq, Repr, Inhabited

/-! ## The state -/

/-- **What the browser remembers about the tree.** -/
structure TreeState where
  /-- The entries that are open. -/
  expanded : IdSet
  /-- The entry that is selected. -/
  selected : Option String
  /-- The entries that carry a star. -/
  starred : IdSet
  /-- The entries whose children have been asked for. -/
  loading : IdSet

namespace TreeState

/-- Nothing open, selected, starred or waiting. -/
def initial : TreeState := ⟨.empty, none, .empty, .empty⟩

instance : Inhabited TreeState := ⟨initial⟩

/-- Whether the entry with this id is open. -/
def isExpanded (s : TreeState) (id : String) : Bool := s.expanded.contains id

/-- Whether the entry with this id carries a star. -/
def isStarred (s : TreeState) (id : String) : Bool := s.starred.contains id

/-- Whether the children of the entry with this id have been asked for. -/
def isLoading (s : TreeState) (id : String) : Bool := s.loading.contains id

/-- The ids whose children have been asked for, in increasing order. -/
def pendingLoads (s : TreeState) : List String := s.loading.toList

/-- Opens an entry. -/
def expand (s : TreeState) (id : String) : TreeState :=
  { s with expanded := s.expanded.insert id }

/-- Closes an entry. -/
def collapse (s : TreeState) (id : String) : TreeState :=
  { s with expanded := s.expanded.erase id }

/-- Puts a star on an entry. -/
def star (s : TreeState) (id : String) : TreeState :=
  { s with starred := s.starred.insert id }

/-- Takes the star off an entry. -/
def unstar (s : TreeState) (id : String) : TreeState :=
  { s with starred := s.starred.erase id }

/-- Puts a star on an entry without one, and takes it off one with it. -/
def toggleStar (s : TreeState) (id : String) : TreeState :=
  if s.isStarred id then s.unstar id else s.star id

/-- Asks for the children of an entry. -/
def beginLoading (s : TreeState) (id : String) : TreeState :=
  { s with loading := s.loading.insert id }

/-- Stops waiting for the children of an entry. -/
def finishLoading (s : TreeState) (id : String) : TreeState :=
  { s with loading := s.loading.erase id }

/-- A click on an open entry closes it. A click on a closed one opens it,
and asks for its children if none are loaded. -/
def click (r : Resource) (isOpen : Bool) (s : TreeState) : Traced TreeState := do
  if isOpen then
    Traced.tell ⟨.debug, "lakeview_core::tree", "collapsing node", [("id", .text r.id)]⟩
    pure (s.collapse r.id)
  else
    Traced.tell ⟨.debug, "lakeview_core::tree", "expanding node",
      [("id", .text r.id), ("loaded", .flag !r.children.isEmpty)]⟩
    pure ((if r.children.isEmpty then s.beginLoading r.id else s).expand r.id)

/-- Selects an id, or nothing if no entry comes with it. -/
def select (id : String) (node : Option Resource) (s : TreeState) : TreeState :=
  { s with selected := node.map fun _ => id }

end TreeState

/-! ## Opening everything -/

mutual

/-- Opens an entry and everything below it that can be opened. What lies
below an entry that cannot be opened stays as it is. -/
def Resource.expandAll (datasetsAreLeaves : Bool) : Resource → TreeState → TreeState
  | ⟨kind, name, path, children⟩, s =>
    if (Resource.mk kind name path children).expandable datasetsAreLeaves then
      Forest.expandAll datasetsAreLeaves children (s.expand (Path.id path))
    else s

/-- **Opens every entry of a forest that can be reached.** -/
def Forest.expandAll (datasetsAreLeaves : Bool) : Forest → TreeState → TreeState
  | [], s => s
  | r :: rs, s => Forest.expandAll datasetsAreLeaves rs (r.expandAll datasetsAreLeaves s)

end

/-! ## Routing a selection

If the selected entry can be opened it is **clicked** first; after that the
**selection** is reported, whatever was selected and also when nothing was.
A handler says what the two calls do, and which id a selection is reported
under. -/

/-- **What is done with a selection**, on a state of type `σ`. -/
structure SelectionHandler (σ : Type) where
  /-- Called for entries that can be opened, with whether they are open. -/
  click : Resource → Bool → σ → Traced σ
  /-- Called once for every selection, with the id it is reported under. -/
  select : String → Option Resource → σ → σ
  /-- The id a selection is reported under. -/
  idOf : Option Resource → String := selectionId

/-- **Routes a selection to a handler.** -/
def SelectionHandler.route {σ : Type} (handler : SelectionHandler σ) (options : ViewOptions)
    (node : Option Resource) (isOpen : Bool) (s : σ) : Traced σ := do
  let s ←
    match node with
    | some r =>
      if r.expandable options.datasetsAreLeaves then do
        Traced.tell ⟨.debug, "lakeview_core::selection", "routing node click",
          [("name", .text r.name), ("expanded", .flag isOpen)]⟩
        handler.click r isOpen s
      else pure s
    | none => pure s
  let id := handler.idOf node
  Traced.tell ⟨.debug, "lakeview_core::selection", "selection changed",
    [("id", .text id), ("cleared", .flag node.isNone)]⟩
  pure (handler.select id node s)

/-- The tree's own handler, which opens, closes and selects. -/
def TreeState.handler : SelectionHandler TreeState where
  click := TreeState.click
  select := TreeState.select

/-- **A selection made on the tree.** -/
def TreeState.routeSelection (options : ViewOptions) (node : Option Resource) (isOpen : Bool)
    (s : TreeState) : Traced TreeState :=
  TreeState.handler.route options node isOpen s

/-! ## Recording -/

/-- A call made to a handler. -/
inductive SelectionCall where
  | click (id : String) (isOpen : Bool)
  | select (id : String) (name : Option String)
deriving DecidableEq, Repr

/-- **The handler that only takes note**, the calls made to it in order. -/
def SelectionHandler.recorder (idOf : Option Resource → String := selectionId) :
    SelectionHandler (List SelectionCall) where
  click r isOpen calls := pure (calls ++ [.click r.id isOpen])
  select id node calls := calls ++ [.select id (node.map (·.name))]
  idOf := idOf

end CatalogBrowser
