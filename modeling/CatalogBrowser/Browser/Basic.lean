import CatalogBrowser.Catalog.Basic
import CatalogBrowser.Config.Basic
import CatalogBrowser.Messages
import CatalogBrowser.Tree.Rows

/-!
# The browser

The browser shows the part of a catalog it has loaded so far: the roots at
first, and the children of an entry once the entry is opened. What it shows
follows from its state: the rows of the tree, the entry that is selected,
the pages that are offered about it, and the banner.
-/

namespace CatalogBrowser

/-- **The state of the browser.** -/
structure Browser where
  /-- The catalog entries are loaded from. -/
  catalog : Catalog
  /-- What has been loaded. -/
  roots : Forest
  /-- What is open, selected and starred. -/
  tree : TreeState
  /-- The settings the tree is shown with. -/
  options : ViewOptions
  /-- Which row is highlighted. -/
  cursor : Nat
  /-- The page about the selected entry. -/
  page : Page
  /-- Whether the wiki page is offered. -/
  showWiki : Bool
  /-- Whether the server can be reached. -/
  network : Network
  /-- The texts. -/
  messages : Messages
  /-- What was done last, if there is something to say about it. -/
  status : Option String
  /-- Whether the browser was asked to stop. -/
  hasQuit : Bool

namespace Browser

/-- **The browser as it starts**: the roots are loaded, and nothing is done
yet. -/
def start (config : Config) (catalog : Catalog) (network : Network) : Traced Browser := do
  let messages ← Messages.forLocale config.screen.locale
  pure
    { catalog
      roots := catalog.loadRoots
      tree := .initial
      options := config.viewOptions
      cursor := 0
      page := .data
      showWiki := config.screen.showWiki
      network
      messages
      status := none
      hasQuit := false }

/-- The rows of the tree. -/
def rows (b : Browser) : List Row := b.tree.visibleRows b.options b.roots

/-- The highlighted row. -/
def highlighted? (b : Browser) : Option Row := b.rows[b.cursor]?

/-- **The selected entry**, so far as it is loaded. -/
def selected? (b : Browser) : Option Resource :=
  b.tree.selected.bind fun id => Forest.lookup id b.roots

/-- Whether the selected entry is a dataset. -/
def selectsDataset (b : Browser) : Bool := b.selected?.any (·.kind.isDataset)

/-- **The pages that are offered.** Only datasets have more than data and
wiki. -/
def pages (b : Browser) : List Page := Page.offered b.showWiki (!b.selectsDataset)

/-- The banner, while there is one. -/
def banner? (b : Browser) : Option Banner := b.network.banner b.messages

end Browser

end CatalogBrowser
