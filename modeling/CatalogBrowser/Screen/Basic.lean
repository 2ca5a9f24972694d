import CatalogBrowser.Screen.Pane

/-!
# The screen

From top to bottom the screen shows the pages on offer, a banner if there is
one, the tree and the details side by side, and a line that explains the
keys and says what was done last.
-/

namespace CatalogBrowser

namespace Screen

/-! ## The pages on offer -/

/-- The place of the current page among those offered, or the first. -/
def currentPage (b : Browser) : Nat := (b.pages.idxOf? b.page).getD 0

/-- The spans of the pages on offer. -/
def pageSpans (b : Browser) : List Span :=
  let current : Style := { foreground := .yellow, isBold := true }
  let titles := b.pages.zipIdx.map fun (page, i) =>
    ([⟨" ", .dim⟩, ⟨b.messages.text page.labelKey, if i = currentPage b then current else .dim⟩,
      ⟨" ", .dim⟩] : List Span)
  [⟨" | ", .dim⟩].intercalate titles

/-- A row filled up with blank cells that stay in the background. -/
def dimRow (width : Nat) (spans : List Span) : List Cell :=
  fit width (lineCells width spans) .dim

/-- **The rows of the pages on offer.** -/
def tabBar (b : Browser) (width : Nat) : List (List Cell) :=
  [dimRow width [⟨" Lakeview ", .dim⟩], dimRow width (pageSpans b),
    List.replicate width ⟨"─", .dim⟩]

/-! ## The banner -/

/-- The color of an appearance. -/
def appearanceColor : Appearance → Color
  | .info => .cyan
  | .warning => .yellow

/-- **The rows of the banner.** -/
def bannerRows (banner : Banner) (width : Nat) : List (List Cell) :=
  let style : Style := { foreground := appearanceColor banner.appearance, isBold := true }
  let glyphs := truncated (inside width) 0 (Span.glyphs ⟨banner.text, style⟩)
  pane width 3 "" style style [glyphRow (inside width) glyphs style]

/-! ## The line at the bottom -/

/-- What the keys are for. -/
def keyHelp : String :=
  "[j/k] Move  [Enter] Select  [Esc] Clear  [s] Star  [Tab] All/Starred  [h/l] Page  " ++
    "[o] Offline  [q] Quit"

/-- **The line at the bottom.** Of a status of several lines the first is
shown. -/
def statusRow (b : Browser) (width : Nat) : List Cell :=
  let text := match b.status with
    | some status => keyHelp ++ "  |  " ++ status
    | none => keyHelp
  glyphRow width (truncated width 0 (Span.glyphs ⟨Text.firstLine text, .dim⟩)) .dim

/-! ## All of it -/

/-- How wide the tree is: 45 hundredths of the screen, a half counting as a
whole. -/
def treeWidth (width : Nat) : Nat := (width * 45 + 50) / 100

/-- **The screen**, as a list of rows of cells. -/
def draw (b : Browser) (width height : Nat) : List (List Cell) :=
  let banner := match b.banner? with
    | some banner => bannerRows banner width
    | none => []
  let middle := height - 4 - banner.length
  let left := treeWidth width
  let rows := tabBar b width ++ banner
    ++ beside (treePane b left middle) (detailsPane b (width - left) middle)
    ++ [statusRow b width]
  rows.map (settled 0)

end Screen

end CatalogBrowser
