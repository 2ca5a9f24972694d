import CatalogBrowser.Browser.Basic
import CatalogBrowser.Screen.Wrap

/-!
# Panes

A pane is a rectangle of cells with a border around it and a title in the
border. It is given as the list of its rows.
-/

namespace CatalogBrowser

namespace Screen

/-- How large the inside of a pane is, given how large the pane is. -/
def inside (size : Nat) : Nat := size - 2

/-- The upper border of a pane. -/
def upperBorder (width : Nat) (title : String) (style : Style) : List Cell :=
  let label := lineCells (inside width) [⟨title, style⟩]
  [⟨"╭", style⟩]
    ++ label ++ List.replicate (inside width - label.length) ⟨"─", style⟩
    ++ [⟨"╮", style⟩]

/-- The lower border of a pane. -/
def lowerBorder (width : Nat) (style : Style) : List Cell :=
  [⟨"╰", style⟩] ++ List.replicate (inside width) ⟨"─", style⟩ ++ [⟨"╯", style⟩]

/-- **A pane around rows**, which are cut off and filled up to fit. -/
def pane (width height : Nat) (title : String) (border fill : Style) (rows : List (List Cell)) :
    List (List Cell) :=
  let blank := List.replicate (inside width) (Cell.blank fill)
  let rows := (rows ++ List.replicate (inside height - rows.length) blank).take (inside height)
  [upperBorder width title border]
    ++ rows.map (fun row => [⟨"│", border⟩] ++ row ++ [⟨"│", border⟩])
    ++ [lowerBorder width border]

/-- Two panes of the same height side by side. -/
def beside (left right : List (List Cell)) : List (List Cell) := List.zipWith (· ++ ·) left right

/-! ## The pane of the tree

The tree is drawn one line for each row. If there are more rows than lines,
the pane shows a **window** of them that contains the highlighted one, as
far up as possible. -/

/-- The color of a class of entries. -/
def classColor : Kind.Class → Color
  | .container => .cyan
  | .dataset => .green
  | .leaf => .white

/-- The sign in front of an entry, which tells whether it can be opened and
whether it is open. -/
def marker (row : Row) : String :=
  if row.expandable then if row.expanded then "▾ " else "▸ " else "  "

/-- **The spans of a row of the tree.** -/
def rowSpans (messages : Messages) (isSelected : Bool) (row : Row) : List Span :=
  let name : Style :=
    { foreground := classColor row.resource.kind.cls
      isBold := isSelected
      isUnderlined := isSelected }
  [⟨Text.repeated row.depth "  ", {}⟩, ⟨marker row, .dim⟩]
    ++ (if row.starred then [⟨"★ ", { foreground := .yellow }⟩] else [])
    ++ [⟨row.resource.name, name⟩]
    ++ (if row.loading then [⟨" " ++ messages.text "Resource.Tree.Loading", .dim⟩] else [])

/-- The first row that is shown, of as many as there are lines, so that the
highlighted one is among them. -/
def windowStart (height cursor : Nat) : Nat := if cursor < height then 0 else cursor + 1 - height

/-- The rows that are shown, with their places among all rows. -/
def window (height cursor : Nat) (rows : List Row) : List (Nat × Row) :=
  let start := windowStart height cursor
  (((rows.zipIdx).drop start).take height).map fun (row, i) => (i, row)

/-- **The line of a row.** The highlighted one has a background. -/
def rowLine (width : Nat) (messages : Messages) (selected : Option String) (cursor : Nat)
    (shown : Nat × Row) : List Cell :=
  let cells := spanRow width (rowSpans messages (selected = some shown.2.id) shown.2)
  if shown.1 = cursor then cells.map (Cell.onto .darkGray) else cells

/-- **The lines of the tree**, inside its pane. -/
def treeLines (b : Browser) (width height : Nat) : List (List Cell) :=
  (window height b.cursor b.rows).map (rowLine width b.messages b.tree.selected b.cursor)

/-- The key of the title of a tab. -/
def tabKey : Tab → String
  | .all => "Resource.Tree.All"
  | .starred => "Resource.Tree.Starred"

/-- **The pane of the tree.** -/
def treePane (b : Browser) (width height : Nat) : List (List Cell) :=
  let title := " " ++ b.messages.text (tabKey b.options.tab) ++ " "
  if b.rows.isEmpty then
    let notice := spanRow (inside width) [⟨b.messages.text "Resource.Tree.Empty", .dim⟩]
    pane width height title .dim .dim [notice.map fun cell => ⟨cell.symbol, .dim⟩]
  else pane width height title .dim {} (treeLines b (inside width) (inside height))

/-! ## The pane of the details

Beside the tree stands a page about the selected entry. Lines that are too
long are broken. -/

/-- A line with a label and a value. -/
def fieldLine (label value : String) : List Span :=
  [⟨Text.padRight 12 label, .dim⟩, ⟨value, {}⟩]

/-- A truth value in words. -/
def truthWord (b : Bool) : String := if b then "true" else "false"

/-- **The lines of a page about an entry.** -/
def pageLines (b : Browser) (r : Resource) : List (List Span) :=
  match b.page with
  | .data =>
    [spansOf r.name { isBold := true },
      fieldLine "Type" r.kind.title,
      fieldLine "Class" r.kind.cls.name,
      fieldLine "Path" r.id,
      fieldLine "Expandable" (truthWord (r.expandable b.options.datasetsAreLeaves)),
      fieldLine "Children" (toString r.children.length),
      fieldLine "Starred" (truthWord (b.tree.isStarred r.id))]
  | .wiki => [spansOf s!"No wiki content for {r.name}."]
  | .graph =>
    (List.range r.path.length).map fun depth =>
      spansOf (Text.repeated depth "  " ++ "└ " ++ Path.id (r.path.take (depth + 1)))
  | .reflections => [spansOf "No reflections defined."]
  | .history => [spansOf "No saved versions."]

/-- The lines of the details, whether or not something is selected. -/
def detailsText (b : Browser) : List (List Span) :=
  match b.selected? with
  | some r => pageLines b r
  | none => [spansOf (b.messages.text "Resource.Details.None") .dim]

/-- **The lines of the details**, broken to a width. -/
def detailsLines (b : Browser) (width : Nat) : List (List Cell) :=
  (detailsText b).flatMap fun spans =>
    (wrap width (spans.flatMap Span.glyphs)).map fun line => glyphRow width line

/-- The title of the page that is shown, if it is one of those offered. -/
def pageTitle (b : Browser) : String :=
  if b.page ∈ b.pages then b.messages.text b.page.labelKey else ""

/-- **The pane of the details.** -/
def detailsPane (b : Browser) (width height : Nat) : List (List Cell) :=
  pane width height (" " ++ pageTitle b ++ " ") .dim {} (detailsLines b (inside width))

end Screen

end CatalogBrowser
