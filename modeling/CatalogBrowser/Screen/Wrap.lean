import CatalogBrowser.Screen.Cell

/-!
# Breaking lines

A line that is too long is broken between words. What is read of it falls
into three parts: the **line** being filled, the **blanks** behind it, and
the **word** behind these. A word is added to the line when it ends, along
with the blanks before it; if it would not fit, the line is finished first,
and the blanks that fit behind it stay there unseen. A word longer than a
whole line is broken where the line ends.
-/

namespace CatalogBrowser

namespace Screen

/-- **What has been read of a line that is being broken.** -/
structure Wrapping where
  /-- The lines that are finished. -/
  finished : List (List Glyph) := []
  /-- The line being filled. -/
  line : List Glyph := []
  /-- The blanks behind it. -/
  blanks : List Glyph := []
  /-- The word behind these. -/
  word : List Glyph := []
  /-- Whether the last glyph was part of a word. -/
  isInWord : Bool := false
deriving Inhabited

namespace Wrapping

/-- Adds the blanks and the word to the line. -/
def commit (w : Wrapping) : Wrapping :=
  { w with line := w.line ++ w.blanks ++ w.word, blanks := [], word := [] }

/-- The blanks that are left when as many as fit into a width are gone. -/
def dropBlanks : Nat → List Glyph → List Glyph
  | _, [] => []
  | room, g :: gs => if room < g.width then g :: gs else dropBlanks (room - g.width) gs

/-- Finishes the line. -/
def breakLine (w : Wrapping) (limit : Nat) : Wrapping :=
  { w with
    finished := w.finished ++ [w.line]
    line := []
    blanks := dropBlanks (limit - glyphsWidth w.line) w.blanks }

/-- Adds a glyph to the blanks or to the word. -/
def append (w : Wrapping) (g : Glyph) : Wrapping :=
  if g.isBlank then { w with blanks := w.blanks ++ [g], isInWord := false }
  else { w with word := w.word ++ [g], isInWord := true }

/-- **Reads one more glyph.** -/
def push (limit : Nat) (w : Wrapping) (g : Glyph) : Wrapping :=
  if limit < g.width then w
  else
    let pending := glyphsWidth w.word + glyphsWidth w.blanks
    let w :=
      if (w.isInWord && g.isBlank) || (w.line.isEmpty && limit < pending + g.width) then w.commit
      else w
    let used := glyphsWidth w.line + glyphsWidth w.blanks + glyphsWidth w.word
    if limit ≤ glyphsWidth w.line || (0 < g.width && limit ≤ used) then
      let w := w.breakLine limit
      -- The blank at which the line was broken is not seen.
      if g.isBlank && w.blanks.isEmpty then w else w.append g
    else w.append g

/-- The lines when all has been read. There is one at least. -/
def lines (w : Wrapping) : List (List Glyph) :=
  let onlyBlanks := w.line.isEmpty && w.word.isEmpty && !w.blanks.isEmpty
  let last := w.commit.line
  let all := w.finished ++ (if onlyBlanks then [[]] else [])
    ++ (if last.isEmpty then [] else [last])
  if all.isEmpty then [[]] else all

end Wrapping

/-- **The lines a line of text is broken into**, none wider than `limit`. -/
def wrap (limit : Nat) (glyphs : List Glyph) : List (List Glyph) :=
  (glyphs.foldl (Wrapping.push limit) {}).lines

end Screen

end CatalogBrowser
