import CatalogBrowser.Browser.Basic
import CatalogBrowser.Tree.State

/-!
# What the browser does

The browser is driven by **actions**, and these by keys. Whatever an action
changes, the highlighted row stays a row of the tree, and the page stays one
that is offered.
-/

namespace CatalogBrowser

/-! ## Loading children

An entry that is opened without its children asks for them. They are loaded
from the catalog by the entry's path and grafted below it. If the catalog
does not have them the entry is closed again, and the status says why. -/

namespace Browser

/-- Stops waiting for the children of an entry. -/
def finishLoading (b : Browser) (id : String) : Browser :=
  { b with tree := b.tree.finishLoading id }

/-- Takes up children that were loaded for the entry at a path. -/
def takeUp (b : Browser) (path : List String) (children : Forest) : Browser :=
  { b with roots := Forest.graft path children b.roots }

/-- Closes an entry whose children could not be loaded. -/
def giveUp (b : Browser) (id : String) (fault : CatalogFault) : Browser :=
  { b with
    tree := b.tree.collapse id
    status := some s!"Failed to load {id}: {fault.message}" }

/-- **Loads the children of one entry** that waits for them. -/
def loadOne (b : Browser) (id : String) : Traced Browser := do
  match Forest.lookup id b.roots with
  | none => pure (b.finishLoading id)
  | some r =>
    match b.catalog.loadChildren r.path with
    | .ok children => do
      Traced.tell ⟨.info, "lakeview::tui::app", "loaded children",
        [("id", .text id), ("count", .count children.length)]⟩
      pure ((b.takeUp r.path children).finishLoading id)
    | .error fault => do
      Traced.tell ⟨.warn, "lakeview::tui::app", "failed to load children",
        [("id", .text id), ("error", .text fault.message)]⟩
      pure ((b.giveUp id fault).finishLoading id)

/-- **Loads the children of every entry that waits for them.** -/
def loadPending (b : Browser) : Traced Browser := b.tree.pendingLoads.foldlM loadOne b

end Browser

/-! ## Actions -/

/-- **Something the browser can be asked to do.** -/
inductive Action where
  /-- To stop. -/
  | quit
  /-- To highlight the next row. -/
  | moveDown
  /-- To highlight the row before. -/
  | moveUp
  /-- To select the highlighted entry, opening or closing it if it can be
  opened. -/
  | select
  /-- To select nothing. -/
  | clear
  /-- To put a star on the highlighted entry, or take it off. -/
  | toggleStar
  /-- To show the other tab. -/
  | toggleTab
  /-- To show the next page. -/
  | nextPage
  /-- To show the page before. -/
  | previousPage
  /-- To say that the server can be reached, or cannot. -/
  | toggleNetwork
deriving DecidableEq, Repr, Inhabited

namespace Browser

/-! ## Keeping in bounds -/

/-- Moves the highlight back to the last row if it is behind it. -/
def clampCursor (b : Browser) : Browser :=
  { b with cursor := min b.cursor (b.rows.length - 1) }

/-- Shows the data page if the current one is not offered any more. -/
def ensurePage (b : Browser) : Browser :=
  { b with page := if b.page ∈ b.pages then b.page else .data }

/-! ## The actions -/

/-- Highlights the next row, if there is one. -/
def moveDown (b : Browser) : Browser :=
  { b with cursor := min (b.cursor + 1) (b.rows.length - 1) }

/-- Highlights the row before, if there is one. -/
def moveUp (b : Browser) : Browser :=
  { b with cursor := min (b.cursor - 1) (b.rows.length - 1) }

/-- Routes a selection to the tree. -/
def routeSelection (b : Browser) (node : Option Resource) (isOpen : Bool) : Traced Browser := do
  pure { b with tree := ← b.tree.routeSelection b.options node isOpen }

/-- **Selects the highlighted entry.** -/
def select (b : Browser) : Traced Browser := do
  match b.highlighted? with
  | none => pure b
  | some row => do
    let b ← b.routeSelection (some row.resource) row.expanded
    let b ← b.loadPending
    pure b.clampCursor.ensurePage

/-- **Selects nothing.** -/
def clear (b : Browser) : Traced Browser := do
  pure (← b.routeSelection none false).ensurePage

/-- Puts a star on the highlighted entry, or takes it off. -/
def toggleStar (b : Browser) : Browser :=
  match b.highlighted? with
  | none => b
  | some row =>
    let tree := b.tree.toggleStar row.id
    let done := if tree.isStarred row.id then "Starred" else "Unstarred"
    clampCursor { b with tree, status := some s!"{done} {row.id}" }

/-- Shows the other tab, from its first row. -/
def toggleTab (b : Browser) : Browser :=
  { b with options := { b.options with tab := b.options.tab.toggle }, cursor := 0 }

/-- The page some steps further on, behind the last of which the first comes
again. -/
def turnPage (b : Browser) (steps : Nat) : Browser :=
  let current := (b.pages.idxOf? b.page).getD 0
  { b with page := (b.pages[(current + steps) % b.pages.length]?).getD .data }

/-- Says that the server can be reached, or cannot. -/
def toggleNetwork (b : Browser) : Traced Browser := do
  let network := b.network.toggle
  Traced.tell ⟨.info, "lakeview::tui::app", "network status toggled",
    [("available", .flag network.isAvailable)]⟩
  pure { b with network }

/-- **Does what it is asked to do.** -/
def perform (b : Browser) : Action → Traced Browser
  | .quit => pure { b with hasQuit := true }
  | .moveDown => pure b.moveDown
  | .moveUp => pure b.moveUp
  | .select => b.select
  | .clear => b.clear
  | .toggleStar => pure b.toggleStar
  | .toggleTab => pure b.toggleTab
  | .nextPage => pure (b.turnPage 1)
  | .previousPage => pure (b.turnPage (b.pages.length - 1))
  | .toggleNetwork => b.toggleNetwork

end Browser

/-! ## Keys

Every key stands for one action at most. Only `c` asks for the control key;
for all other keys it does not matter. -/

/-- **What a key is.** -/
inductive KeyCode where
  | char (c : Char)
  | up
  | down
  | left
  | right
  | enter
  | escape
  | tab
  | backTab
  /-- A key that stands for nothing. -/
  | other
deriving DecidableEq, Repr, Inhabited

/-- **A key that is pressed**, perhaps together with the control key. -/
structure Key where
  code : KeyCode
  control : Bool := false
deriving DecidableEq, Repr, Inhabited

/-- **What a key stands for.** -/
def Key.action? (key : Key) : Option Action :=
  match key.code with
  | .char 'q' => some .quit
  | .char 'c' => if key.control then some .quit else none
  | .char 'j' | .down => some .moveDown
  | .char 'k' | .up => some .moveUp
  | .enter | .char ' ' => some .select
  | .escape => some .clear
  | .char 's' => some .toggleStar
  | .tab | .backTab => some .toggleTab
  | .right | .char 'l' => some .nextPage
  | .left | .char 'h' => some .previousPage
  | .char 'o' => some .toggleNetwork
  | _ => none

namespace Browser

/-- **The browser after a key press.** -/
def press (b : Browser) (key : Key) : Traced Browser :=
  match key.action? with
  | some action => b.perform action
  | none => pure b

/-- The browser after a sequence of key presses. -/
def pressAll (b : Browser) (keys : List Key) : Traced Browser := keys.foldlM press b

end Browser

end CatalogBrowser
