import CatalogBrowser.Command.Arguments
import CatalogBrowser.Config.Basic

/-!
# Commands

The program does one of four things: it opens the browser, prints the tree
of a catalog, tells how types are treated, or prints the settings nobody
set. Each command has arguments of its own, and all of them take the option
that names a configuration file, before the command or behind it.
-/

namespace CatalogBrowser

/-- **What a command line can say about the tree.** -/
structure TreeArguments where
  /-- The file the catalog is in. -/
  catalogPath : Option String := none
  /-- Whether datasets are leaves. -/
  datasetsAreLeaves : Bool := false
deriving DecidableEq, Repr, Inhabited

/-- The settings with what the command line says about the tree. -/
def TreeArguments.apply (arguments : TreeArguments) (c : Config) : Config :=
  { c with
    catalogPath := arguments.catalogPath.getD c.catalogPath
    tree := { c.tree with
      datasetsAreLeaves := arguments.datasetsAreLeaves || c.tree.datasetsAreLeaves } }

/-- **A command.** -/
inductive Command where
  /-- Opens the browser. -/
  | browse (tree : TreeArguments) (startsOffline hidesWiki : Bool)
  /-- Prints the tree. -/
  | tree (tree : TreeArguments) (opensAll asJson : Bool)
  /-- Tells how types are treated. -/
  | classify (tags : List String) (datasetsAreLeaves : Bool)
  /-- Prints the settings nobody set. -/
  | config
deriving DecidableEq, Repr, Inhabited

/-- **A command and the configuration file it is run with.** -/
structure Invocation where
  configPath : Option String
  command : Command
deriving DecidableEq, Repr, Inhabited

namespace Command

/-- The arguments a command understands, by its name. -/
def rules? : String → Option ArgumentRules
  | "browse" => some ⟨["stop-at-datasets", "offline", "no-wiki"], ["config", "catalog"], false⟩
  | "tree" => some ⟨["stop-at-datasets", "expand-all", "json"], ["config", "catalog"], false⟩
  | "classify" => some ⟨["stop-at-datasets"], ["config"], true⟩
  | "config" => some ⟨[], ["config"], false⟩
  | _ => none

/-- The command with a name and arguments. -/
def ofArguments? (name : String) (a : Arguments) : Option Command :=
  let tree : TreeArguments := ⟨a.value? "catalog", a.has "stop-at-datasets"⟩
  match name with
  | "browse" => some (.browse tree (a.has "offline") (a.has "no-wiki"))
  | "tree" => some (.tree tree (a.has "expand-all") (a.has "json"))
  | "classify" =>
    if a.words.isEmpty then none else some (.classify a.words (a.has "stop-at-datasets"))
  | "config" => some .config
  | _ => none

end Command

namespace Invocation

/-- Reads a command by its name, behind the option that may stand before it. -/
def readCommand (configPath : Option String) (name : String) (arguments : List String) :
    Option Invocation := do
  let rules ← Command.rules? name
  let a ← Arguments.read rules arguments
  let command ← Command.ofArguments? name a
  some ⟨(a.value? "config").or configPath, command⟩

/-- Reads a command line, where one option may have been given. -/
def readFrom (configPath : Option String) : List String → Option Invocation
  | [] => none
  | argument :: rest =>
    match optionName? argument with
    | none => readCommand configPath argument rest
    | some ("config", value) =>
      match configPath, value, rest with
      | none, some value, rest => if value.isEmpty then none else readFrom (some value) rest
      | none, none, value :: rest =>
        if value.isEmpty || looksLikeOption value then none else readFrom (some value) rest
      | _, _, _ => none
    | some _ => none

/-- **Reads a command line.** The option behind the command goes before the
one in front of it. -/
def read (arguments : List String) : Option Invocation := readFrom none arguments

end Invocation

end CatalogBrowser
