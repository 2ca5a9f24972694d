import CatalogBrowser.Catalog.Basic
import CatalogBrowser.Config.Basic
import CatalogBrowser.Tree.Rows

/-!
# What a command prints and how it ends

A command either prints something, or is not understood, or fails. A failure
is told as a chain of causes, each the reason for the one before it.
-/

namespace CatalogBrowser

/-! ## Listings

The tree of a catalog is printed one row on a line, for readers or for
programs. A type is printed with how entries of it are treated. -/

namespace Listing

/-- The line of a row for readers. -/
def rowText (row : Row) : String :=
  let sign := if row.expandable then "+" else "-"
  Text.repeated row.depth "  " ++ sign ++ " " ++ row.resource.name ++ " ["
    ++ row.resource.kind.title ++ "]"

/-- The value of a row for programs. -/
def rowJson (row : Row) : Json :=
  .object [("depth", .number (.natural row.depth)), ("expandable", .boolean row.expandable),
    ("id", .string row.id), ("type", .string row.resource.kind.tag)]

/-- **The rows of a catalog.** Only the roots are listed, unless everything
that can be opened is. -/
def rows (c : Catalog) (options : ViewOptions) (opensAll : Bool) : List Row :=
  if opensAll then
    (Forest.expandAll options.datasetsAreLeaves c.roots .initial).visibleRows options c.roots
  else TreeState.initial.visibleRows options c.loadRoots

/-- The lines of a catalog. -/
def treeLines (c : Catalog) (options : ViewOptions) (opensAll asJson : Bool) : List String :=
  (rows c options opensAll).map fun row => if asJson then (rowJson row).write else rowText row

/-- **The line that tells how a type is treated.** -/
def kindLine (datasetsAreLeaves : Bool) (tag : String) : String :=
  let r := Resource.atPath (Kind.ofTag tag) [tag]
  let expandable := if r.expandable datasetsAreLeaves then "true" else "false"
  Text.padRight 32 r.kind.tag ++ " " ++ Text.padRight 10 r.kind.cls.name ++ " expandable="
    ++ expandable

end Listing

/-! ## Outcomes -/

/-- **How a command ends.** -/
inductive Outcome where
  /-- It printed something. -/
  | printed (text : String)
  /-- It was not understood. -/
  | misused
  /-- It failed. -/
  | failed (causes : List String)
deriving DecidableEq, Repr, Inhabited

namespace Outcome

/-- The number a command ends with. -/
def exitCode : Outcome → Nat
  | printed _ => 0
  | misused => 2
  | failed _ => 1

/-- What a command printed. -/
def text : Outcome → String
  | printed text => text
  | _ => ""

/-- The outcome that prints lines. -/
def ofLines (lines : List String) : Outcome := .printed (String.join (lines.map (· ++ "\n")))

/-- The failure with the first lines of some causes. -/
def ofCauses (causes : List String) : Outcome := .failed (causes.map Text.firstLine)

end Outcome

/-! ## Causes -/

/-- The causes of a fault of the settings. -/
def ConfigFault.causes : ConfigFault → List String
  | .unreadable fault => [(ConfigFault.unreadable fault).message, fault.message]
  | fault => [fault.message]

/-- The causes of a fault of a catalog. -/
def CatalogFault.causes : CatalogFault → List String
  | .unreadable path fault => [(CatalogFault.unreadable path fault).message, fault.message]
  | .snapshot fault => [(CatalogFault.snapshot fault).message, fault.message]
  | fault => [fault.message]

/-- **Why the log could not be opened.** -/
inductive LogFault where
  | badFilter (level : String) (fault : Log.FilterFault)
  | unopened (path : String) (fault : FileFault)
deriving DecidableEq, Repr

/-- The causes of a fault of the log. -/
def LogFault.causes : LogFault → List String
  | .badFilter level fault => [Log.filterFaultMessage level fault]
  | .unopened path fault => [s!"Failed to open log file {path}: {fault.message}", fault.message]

end CatalogBrowser
