/-!
# Texts

What the rest of the library asks of texts and characters, apart from the larger
tables: sets of characters, which of them are blank, comparing and padding, and
cutting a text into lines.
-/

namespace CatalogBrowser

namespace Text

/-! ## Sets of characters

A property of characters is given by its **boundaries**: the numbers, in
increasing order, at which the property begins or ceases to hold. The first
boundary begins it. -/

/-- Whether a number lies inside, reading the boundaries from a place that
is `inside` or not. -/
def insideFrom (n : Nat) : Bool → List Nat → Bool
  | inside, [] => inside
  | inside, b :: bs => if n < b then inside else insideFrom n (!inside) bs

/-- **Whether a character has the property with the given boundaries.** -/
def within (boundaries : List Nat) (c : Char) : Bool := insideFrom c.toNat false boundaries

/-! ## Blank characters

The characters with the property `White_Space`, and texts without them at
either end. -/

/-- Where the property `White_Space` begins and ends. -/
def blankBoundaries : List Nat :=
  [0x9, 0xe, 0x20, 0x21, 0x85, 0x86, 0xa0, 0xa1, 0x1680, 0x1681, 0x2000, 0x200b, 0x2028, 0x202a,
    0x202f, 0x2030, 0x205f, 0x2060, 0x3000, 0x3001]

/-- **Whether a character is blank.** -/
def isBlank (c : Char) : Bool := within blankBoundaries c

/-- A text without the blanks at its end. -/
def trimEnd (cs : List Char) : List Char := (cs.reverse.dropWhile isBlank).reverse

/-- **A text without the blanks at either end.** -/
def trim (cs : List Char) : List Char := trimEnd (cs.dropWhile isBlank)

/-! ## Comparing and padding

Names of locales, log levels and flags are compared without regard to the
case of ASCII letters; other letters only equal themselves. -/

/-- A text with its ASCII capitals made small. -/
def lowerAscii (text : String) : String := text.map Char.toLower

/-- **Equality up to the case of ASCII letters.** -/
def eqIgnoreAsciiCase (a b : String) : Bool := lowerAscii a = lowerAscii b

/-- A text with spaces after it, so that it is at least `width` characters
long. -/
def padRight (width : Nat) (text : String) : String :=
  text ++ String.ofList (List.replicate (width - text.length) ' ')

/-- A text repeated `n` times. -/
def repeated (n : Nat) (text : String) : String :=
  String.join (List.replicate n text)

/-! ## Lines

A text is cut into lines at its newlines. A carriage return directly before
a newline belongs to it, and what follows the last newline is a line only
if there is something. -/

/-- A line without the carriage return at its end. -/
def withoutReturn (line : List Char) : List Char :=
  if line.getLast? = some '\r' then line.dropLast else line

/-- **The lines of a text.** -/
def lines (text : String) : List String :=
  let parts := (text.splitOn "\n").map String.toList
  let rest := parts.getLastD []
  let ended := parts.dropLast.map withoutReturn
  (if rest.isEmpty then ended else ended ++ [rest]).map String.ofList

/-- The first line of a text. -/
def firstLine (text : String) : String := (lines text).headD ""

end Text

end CatalogBrowser
