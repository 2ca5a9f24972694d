import CatalogBrowser.Log.Event
import CatalogBrowser.Text.Basic

/-!
# Messages, pages and the banner

The texts of the browser are looked up by key. Only American English comes
with the browser, so every other locale falls back to it; a key without a
text stands for itself.

Two things are shown by such a text. The pages about an entry have theirs on their
buttons, and the banner says that the server cannot be reached.
-/

namespace CatalogBrowser

/-- **The texts of a locale.** -/
structure Messages where
  /-- The locale, spelled as it was asked for. -/
  locale : String
deriving DecidableEq, Repr

namespace Messages

/-- The locale whose texts come with the browser. -/
def defaultLocale : String := "en-US"

instance : Inhabited Messages := ⟨⟨defaultLocale⟩⟩

/-- The texts, by key. -/
def table : List (String × String) :=
  [("NetworkConnectivity.Offline",
      "You are offline. Reconnect to continue browsing the catalog."),
    ("Dataset.Data", "Data"),
    ("Dataset.Wiki", "Wiki"),
    ("Dataset.Graph", "Graph"),
    ("Dataset.Reflections", "Reflections"),
    ("Dataset.History", "History"),
    ("Resource.Tree.All", "All"),
    ("Resource.Tree.Starred", "Starred"),
    ("Resource.Tree.Empty", "No items"),
    ("Resource.Tree.Loading", "Loading..."),
    ("Resource.Details.None", "Nothing selected")]

/-- **The texts of a locale**, or of the default one, which is reported, if
its texts do not come with the browser. -/
def forLocale (requested : String) : Traced Messages := do
  if Text.eqIgnoreAsciiCase requested defaultLocale then
    pure ⟨requested⟩
  else
    Traced.tell ⟨.debug, "lakeview_core::i18n", "locale not bundled, using en-US",
      [("requested", .text requested)]⟩
    pure ⟨defaultLocale⟩

/-- The text for a key, or the key itself. -/
def text (_ : Messages) (key : String) : String :=
  (table.lookup key).getD key

end Messages

/-! ## Pages

The pane beside the tree shows one **page** about the selected entry. Which
pages are offered depends on two things: the wiki page can be switched off,
and an entry that is not a dataset has no graph, reflections or history.
The data page is always offered, so there is always a page to fall back to. -/

/-- **A page about an entry.** -/
inductive Page where
  | data
  | wiki
  | graph
  | reflections
  | history
deriving DecidableEq, Repr, Inhabited

namespace Page

/-- The word a page is stored under. -/
def tag : Page → String
  | data => "default"
  | wiki => "wiki"
  | graph => "graph"
  | reflections => "reflections"
  | history => "history"

/-- The key of the message written on the button of a page. -/
def labelKey : Page → String
  | data => "Dataset.Data"
  | wiki => "Dataset.Wiki"
  | graph => "Dataset.Graph"
  | reflections => "Dataset.Reflections"
  | history => "Dataset.History"

/-- All pages, in the order of their buttons. -/
def all : List Page := [data, wiki, graph, reflections, history]

/-- The page stored under a word, if there is one. -/
def ofTag? (word : String) : Option Page := all.find? (·.tag = word)

/-- **The pages that are offered**, in the order of their buttons. A query
that is not saved yet has only data and perhaps a wiki page. -/
def offered (showWiki : Bool := true) (isNewQuery : Bool := false) : List Page :=
  [data] ++ (if showWiki then [wiki] else [])
    ++ (if isNewQuery then [] else [graph, reflections, history])

/-- Whatever else is offered, the data page is. -/
theorem data_mem_offered (showWiki isNewQuery : Bool) : data ∈ offered showWiki isNewQuery := by
  simp [offered]

end Page

/-! ## The network and its banner

The browser knows whether the server can be reached. While it cannot, a
banner says so. -/

/-- **Whether the server can be reached.** -/
inductive Network where
  | online
  | offline
deriving DecidableEq, Repr, Inhabited

/-- How much weight a banner has. -/
inductive Appearance where
  | info
  | warning
deriving DecidableEq, Repr, Inhabited

/-- **A line of text across the screen.** -/
structure Banner where
  /-- How much weight it has. -/
  appearance : Appearance
  /-- What it says. -/
  text : String
deriving DecidableEq, Repr, Inhabited

/-- The name of an appearance. -/
def Appearance.name : Appearance → String
  | info => "Info"
  | warning => "Warning"

namespace Network

/-- Whether the server can be reached. -/
def isAvailable (n : Network) : Bool := n = .online

/-- The network with a server that can or cannot be reached. -/
def ofAvailable (available : Bool) : Network := if available then .online else .offline

/-- The other state of the network. -/
def toggle (n : Network) : Network := ofAvailable (!n.isAvailable)

/-- **The banner for a network**, shown only while it is offline. -/
def banner (messages : Messages) : Network → Option Banner
  | online => none
  | offline => some ⟨.warning, messages.text "NetworkConnectivity.Offline"⟩

@[simp]
theorem toggle_toggle (n : Network) : n.toggle.toggle = n := by
  cases n <;> rfl

end Network

end CatalogBrowser
