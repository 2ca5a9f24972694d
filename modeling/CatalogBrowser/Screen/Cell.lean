import CatalogBrowser.Text.Width

/-!
# Cells

A screen is a grid of **cells**, each with a symbol and a style. A symbol is
a grapheme. One that takes two columns stands in the first of its two cells,
and the cell behind it is blank.
-/

namespace CatalogBrowser

/-- **The colors of the screen.** -/
inductive Color where
  /-- Whatever the terminal has. -/
  | reset
  | darkGray
  | yellow
  | cyan
  | green
  | white
deriving DecidableEq, Repr, Inhabited

/-- **How a symbol is drawn.** -/
structure Style where
  foreground : Color := .reset
  background : Color := .reset
  isBold : Bool := false
  isUnderlined : Bool := false
deriving DecidableEq, Repr, Inhabited

/-- The style of what stays in the background. -/
def Style.dim : Style := { foreground := .darkGray }

/-- **One place on the screen.** -/
structure Cell where
  symbol : String
  style : Style
deriving DecidableEq, Repr, Inhabited

/-- A cell without anything in it. -/
def Cell.blank (style : Style := {}) : Cell := ⟨" ", style⟩

/-- A cell with another background. -/
def Cell.onto (background : Color) (cell : Cell) : Cell :=
  { cell with style := { cell.style with background } }

/-- **A text in one style.** -/
structure Span where
  text : String
  style : Style := {}
deriving DecidableEq, Repr, Inhabited

/-- How many columns a span takes. -/
def Span.width (s : Span) : Nat := Text.width s.text.toList

/-- **A grapheme in one style**, with how many columns it takes. -/
structure Glyph where
  symbol : String
  style : Style
  width : Nat
  /-- Whether lines can be broken at it. -/
  isBlank : Bool
deriving DecidableEq, Repr, Inhabited

/-- Whether lines can be broken at a grapheme: at blanks, but not at one
that is there to keep words together. -/
def breaksLines (grapheme : List Char) : Bool :=
  grapheme = ['\u200b'] || (grapheme.all Text.isBlank && grapheme ≠ ['\u00a0'])

/-- **The glyphs of a span.** The ends of lines have none. -/
def Span.glyphs (s : Span) : List Glyph :=
  ((Text.graphemes s.text.toList).filter (· ≠ ['\n'])).map fun g =>
    ⟨String.ofList g, s.style, Text.width g, breaksLines g⟩

/-- How many columns glyphs take. -/
def glyphsWidth (gs : List Glyph) : Nat := (gs.map (·.width)).foldr (· + ·) 0

/-- The spans of a text in one style, one for each of its lines. -/
def spansOf (text : String) (style : Style := {}) : List Span :=
  (Text.lines text).map fun line => ⟨line, style⟩

/-! ## Rows of cells

A line of text becomes a row of cells of a given length. What does not fit
is cut off, and the rest of the row is blank. -/

namespace Screen

/-- Cells filled up with blank ones, and cut off, to a given length. -/
def fit (width : Nat) (cells : List Cell) (style : Style := {}) : List Cell :=
  (cells ++ List.replicate (width - cells.length) (Cell.blank style)).take width

theorem length_fit (width : Nat) (cells : List Cell) (style : Style) :
    (fit width cells style).length = width := by
  simp [fit]
  omega

/-- A glyph and the blank cells behind it. -/
def glyphCells (g : Glyph) : List Cell :=
  ⟨g.symbol, g.style⟩ :: List.replicate (g.width - 1) Cell.blank

/-- The cells with a symbol added to the last of them. -/
def appendToLast (symbol : String) (style : Style) (cells : List Cell) : List Cell :=
  match cells.getLast? with
  | some cell => cells.dropLast ++ [⟨cell.symbol ++ symbol, style⟩]
  | none => [⟨symbol, style⟩]

/-- **The cells of a span**, up to the first glyph that does not fit. A glyph
without a width shares the cell before it. So does the glyph that follows,
if there is no cell before. `column` is the place reached. -/
def spanCells (width : Nat) : Nat → List Cell → List Glyph → List Cell
  | _, cells, [] => cells
  | column, cells, g :: gs =>
    if width < column + g.width then cells
    else if cells.isEmpty then spanCells width g.width (glyphCells g) gs
    else if column = 0 then
      spanCells width g.width
        (appendToLast g.symbol g.style cells ++ List.replicate (g.width - 1) Cell.blank) gs
    else if g.width = 0 then
      spanCells width column (appendToLast g.symbol g.style cells) gs
    else spanCells width (column + g.width) (cells ++ glyphCells g) gs

/-- **The cells of a line of spans.** Every span begins where the widths of
those before it end. -/
def lineCells : Nat → List Span → List Cell
  | _, [] => []
  | width, s :: rest =>
    if width = 0 then []
    else if s.width = 0 then lineCells width rest
    else fit (min s.width width) (spanCells width 0 [] s.glyphs)
      ++ lineCells (width - s.width) rest

/-- A row with a line of spans on it. -/
def spanRow (width : Nat) (spans : List Span) : List Cell := fit width (lineCells width spans)

/-- **A row with glyphs on it**, which have been chosen so that they fit. -/
def glyphRow (width : Nat) (glyphs : List Glyph) (style : Style := {}) : List Cell :=
  let visible := glyphs.filter (·.width ≠ 0)
  fit width (visible.flatMap fun g =>
    ⟨g.symbol, g.style⟩ :: List.replicate (g.width - 1) (Cell.blank style)) style

/-- The glyphs of a line that fit into a width. Those wider than all of it
are left out. -/
def truncated (width : Nat) : Nat → List Glyph → List Glyph
  | _, [] => []
  | used, g :: gs =>
    if width < g.width then truncated width used gs
    else if width < used + g.width then []
    else g :: truncated width (used + g.width) gs

/-- What a terminal makes of a row: the cells hidden behind a wide symbol are
blank and have no style. -/
def settled : Nat → List Cell → List Cell
  | _, [] => []
  | hidden, cell :: cells =>
    (if hidden = 0 then cell else Cell.blank)
      :: settled (Text.width cell.symbol.toList - 1) cells

end Screen

end CatalogBrowser
