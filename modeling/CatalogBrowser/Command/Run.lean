import CatalogBrowser.Browser.Basic
import CatalogBrowser.Catalog.Basic
import CatalogBrowser.Command.Basic
import CatalogBrowser.Command.Outcome
import CatalogBrowser.Config.Loading
import CatalogBrowser.Files.Tree

/-!
# Running commands

Every command first reads the settings. Those that need the catalog then
open the log, if it goes to a file, and after that the catalog. A command
touches files in two ways only, which a `Disk` provides: it looks at what is
at some paths, and it appends lines to the log.
-/

namespace CatalogBrowser

/-- **How files are reached.** -/
structure Disk (m : Type → Type) where
  /-- What is at some paths. The other paths of the view are of no account. -/
  look : List String → m FileView
  /-- Appends lines to a file. The file, and the directories it lies in, are
  made if they are not there yet, even if there are no lines. -/
  append : String → List String → m (Except FileFault Unit)

/-- The disk that a file tree is. -/
def FileTree.disk : Disk (StateM FileTree) where
  look _ := do pure (← get).view
  append path lines := do
    match (← get).appendWithin path (String.join (lines.map (· ++ "\n"))).toUTF8 with
    | .ok t => do set t; pure (.ok ())
    | .error fault => pure (.error fault)

/-- **What a command finds around it.** -/
structure Surroundings where
  /-- The environment variables. -/
  environment : Environment
  /-- Where the user's configuration files are. -/
  configDirectory : Option String

namespace Command

/-- The message of a terminal that cannot be taken over. -/
def noTerminal : String := "No such device or address (os error 6)"

section

variable {m : Type → Type} [Monad m] (disk : Disk m) (around : Surroundings)

/-- The settings a command is run with. -/
def loadConfig (path : Option String) : m (Except (List String) Config) := do
  match path with
  | some path => do
    let files ← disk.look [path]
    match Config.fromFile files around.environment path with
    | .ok c => pure (.ok c)
    | .error fault => pure (.error (s!"Failed to load config from {path}" :: fault.causes))
  | none => do
    let files ← disk.look (Config.localFile :: (around.configDirectory.map Config.userFile).toList)
    match Config.load files around.configDirectory around.environment with
    | .ok c => pure (.ok c)
    | .error fault => pure (.error ("Failed to load config" :: fault.causes))

/-- Opens the log, and returns its filter. -/
def openLog (settings : LogSettings) : m (Except LogFault Log.Filter) := do
  match Log.chooseFilter (around.environment "RUST_LOG") settings.level with
  | .error fault => pure (.error (.badFilter settings.level fault))
  | .ok filter =>
    match settings.file with
    | none => pure (.ok filter)
    | some path => do
      match ← disk.append path [] with
      | .ok () => pure (.ok filter)
      | .error fault => pure (.error (.unopened path fault))

/-- Writes the events a filter lets through to the log. -/
def writeLog (settings : LogSettings) (filter : Log.Filter) (events : List Log.Event) : m Unit := do
  match settings.file, (events.filter filter.allows).map Log.Event.line with
  | some path, line :: lines => do
    let _ ← disk.append path (line :: lines)
  | _, _ => pure ()

/-- **Opens the log and the catalog**, and goes on with the catalog. What is reported on
the way goes to the log. -/
def withCatalog (c : Config) (proceed : Catalog → Traced Outcome) : m Outcome := do
  match ← openLog disk around c.log with
  | .error fault => pure (.ofCauses fault.causes)
  | .ok filter => do
    let files ← disk.look [c.catalogPath]
    let outcome : Traced Outcome := do
      match ← Catalog.openFile files c.catalogPath with
      | .ok catalog => proceed catalog
      | .error fault => pure (.ofCauses fault.causes)
    writeLog disk c.log filter outcome.events
    pure outcome.value

/-- The settings of the browser: those of the tree, and without the wiki if the command
line hides it. -/
def browserSettings (arguments : TreeArguments) (hidesWiki : Bool) (c : Config) : Config :=
  let c := arguments.apply c
  { c with screen := { c.screen with showWiki := c.screen.showWiki && !hidesWiki } }

/-- **The browser a command line asks for**, as it starts. Whether the server can be reached
is for the command line alone to say. -/
def openBrowser (arguments : TreeArguments) (startsOffline hidesWiki : Bool) (c : Config)
    (catalog : Catalog) : Traced Browser :=
  Browser.start (browserSettings arguments hidesWiki c) catalog (.ofAvailable (!startsOffline))

/-- Runs a command with the settings read. The browser is started first and needs a
terminal then, and there is none to take over. -/
def runWith (c : Config) : Command → m Outcome
  | .browse arguments startsOffline hidesWiki =>
    withCatalog disk around (arguments.apply c) fun catalog => do
      let _ ← openBrowser arguments startsOffline hidesWiki c catalog
      pure (.ofCauses [noTerminal])
  | .tree arguments opensAll asJson =>
    let c := arguments.apply c
    withCatalog disk around c fun catalog =>
      pure (.ofLines (Listing.treeLines catalog c.viewOptions opensAll asJson))
  | .classify tags datasetsAreLeaves =>
    pure (.ofLines (tags.map (Listing.kindLine datasetsAreLeaves)))
  | .config => pure (.printed Config.defaultText)

/-- **Runs a command line.** -/
def run (arguments : List String) : m Outcome := do
  match Invocation.read arguments with
  | none => pure .misused
  | some invocation => do
    match ← loadConfig disk around invocation.configPath with
    | .error causes => pure (.ofCauses causes)
    | .ok c => runWith disk around c invocation.command

end

end Command

end CatalogBrowser
