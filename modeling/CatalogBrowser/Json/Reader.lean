import CatalogBrowser.Shape.Mismatch

/-!
# Reading JSON

A document is read from left to right, with the place in it counted along, so that
a fault can say where it was found. What has been read is never looked at again.
-/

namespace CatalogBrowser

/-! ## Positions

Faults in a document are reported by line and column. Lines are counted
from one, and a column is the number of **bytes** of the line up to and
including the place, so that a fault found before the first character of a
line has column zero. A place may lie inside a character that takes several
bytes. -/

/-- **A place in a text.** -/
structure Position where
  /-- The line, counted from one. -/
  line : Nat
  /-- How many bytes of the line lie before the place. -/
  column : Nat
deriving DecidableEq, Repr, Inhabited

namespace Position

/-- The place before a text. -/
def start : Position := ⟨1, 0⟩

/-- The place after one more character. -/
def past (p : Position) (c : Char) : Position :=
  if c = '\n' then ⟨p.line + 1, 0⟩ else ⟨p.line, p.column + c.utf8Size⟩

/-- The place after the first byte of a character. -/
def pastByte (p : Position) (c : Char) : Position :=
  if c = '\n' then ⟨p.line + 1, 0⟩ else ⟨p.line, p.column + 1⟩

/-- The place `n` bytes into a text. -/
def pastBytes (p : Position) : Nat → List Char → Position
  | _, [] => p
  | n, c :: cs =>
    if n = 0 then p
    else if n < c.utf8Size then ⟨p.line, p.column + n⟩
    else (p.past c).pastBytes (n - c.utf8Size) cs

/-- The place after a text. -/
def pastAll (p : Position) (cs : List Char) : Position := cs.foldl past p

end Position

/-- How many bytes a text takes. -/
def byteLength (cs : List Char) : Nat := (cs.map Char.utf8Size).foldr (· + ·) 0

/-- **What is left of a text, and where it begins.** -/
structure Cursor where
  /-- The characters still to be read. -/
  rest : List Char
  /-- The place before them. -/
  position : Position
deriving Repr, Inhabited

namespace Cursor

/-- The cursor before a text. -/
def ofString (text : String) : Cursor := ⟨text.toList, .start⟩

/-- The place one byte further on, or the end of the text. -/
def ahead (c : Cursor) : Position :=
  match c.rest with
  | [] => c.position
  | x :: _ => c.position.pastByte x

/-- The cursor one character further on. -/
def next (c : Cursor) : Cursor :=
  match c.rest with
  | [] => c
  | x :: xs => ⟨xs, c.position.past x⟩

/-- The characters up to the first that does not satisfy `p`, and the cursor
before it. -/
def span (c : Cursor) (p : Char → Bool) : List Char × Cursor :=
  (c.rest.takeWhile p, ⟨c.rest.dropWhile p, c.position.pastAll (c.rest.takeWhile p)⟩)

end Cursor

/-! ## Faults

A **fault** is a cause and the place where it was noticed. Most causes are
matters of syntax; a mismatch is a value that is well formed but not of the
shape that was asked for. -/

namespace Json

/-- **What is wrong with a document.** -/
inductive Cause where
  | unclosedList
  | unclosedObject
  | unclosedString
  | missingValue
  | expectedColon
  | expectedListSeparator
  | expectedObjectSeparator
  | expectedWord
  | expectedValue
  | invalidEscape
  | invalidNumber
  | numberOutOfRange
  | keyNotString
  | controlCharacter
  | loneSurrogate
  | unfinishedSurrogate
  | trailingComma
  | trailingCharacters
  | tooDeep
  | mismatch (mismatch : Mismatch)
deriving DecidableEq, Repr

/-- The wording of a cause. -/
def Cause.message : Cause → String
  | unclosedList => "EOF while parsing a list"
  | unclosedObject => "EOF while parsing an object"
  | unclosedString => "EOF while parsing a string"
  | missingValue => "EOF while parsing a value"
  | expectedColon => "expected `:`"
  | expectedListSeparator => "expected `,` or `]`"
  | expectedObjectSeparator => "expected `,` or `\x7d`"
  | expectedWord => "expected ident"
  | expectedValue => "expected value"
  | invalidEscape => "invalid escape"
  | invalidNumber => "invalid number"
  | numberOutOfRange => "number out of range"
  | keyNotString => "key must be a string"
  | controlCharacter => "control character (\\u0000-\\u001F) found while parsing a string"
  | loneSurrogate => "lone leading surrogate in hex escape"
  | unfinishedSurrogate => "unexpected end of hex escape"
  | trailingComma => "trailing comma"
  | trailingCharacters => "trailing characters"
  | tooDeep => "recursion limit exceeded"
  | mismatch m => m.message

/-- **What is wrong with a document, and where.** -/
structure Fault where
  /-- What is wrong. -/
  cause : Cause
  /-- Where it was noticed. -/
  position : Position
deriving DecidableEq, Repr

/-- The wording of a fault. -/
def Fault.message (f : Fault) : String :=
  s!"{f.cause.message} at line {f.position.line} column {f.position.column}"

end Json

/-! ## Readers

A **reader** takes what it needs from a cursor and returns the cursor behind
it, or stops at the first fault. Faults are reported at one of two places:
where the cursor stands, or one byte further on, at the character that is
not what it should be. -/

namespace Json

/-- **A computation that reads from a cursor.** -/
abbrev Reader (α : Type) := StateT Cursor (Except Fault) α

namespace Reader

variable {α : Type}

/-- Stops at the cursor. -/
def fail (cause : Cause) : Reader α :=
  fun c => .error ⟨cause, c.position⟩

/-- Stops at the character under the cursor. -/
def failAhead (cause : Cause) : Reader α :=
  fun c => .error ⟨cause, c.ahead⟩

/-- The character under the cursor, which stays where it is. -/
def peek? : Reader (Option Char) :=
  fun c => .ok (c.rest.head?, c)

/-- Passes over the character under the cursor. -/
def advance : Reader Unit :=
  fun c => .ok ((), c.next)

/-- Takes the characters that satisfy `p`. -/
def takeWhile (p : Char → Bool) : Reader (List Char) :=
  fun c => .ok (c.span p)

/-- The characters that may stand between any two parts of a document. -/
def isBlank (c : Char) : Bool := c = ' ' || c = '\n' || c = '\t' || c = '\r'

/-- Passes over blanks and looks at what follows. -/
def peekPastBlanks? : Reader (Option Char) := do
  let _ ← takeWhile isBlank
  peek?

/-- The first character of a value, behind blanks. -/
def peekValue : Reader Char := do
  match ← peekPastBlanks? with
  | some c => pure c
  | none => failAhead .missingValue

/-- An upper bound on how many things can still be read, since each takes a
character at least. -/
def bound : Reader Nat :=
  fun c => .ok (c.rest.length + 1, c)

/-- Passes over the remaining letters of a word. -/
def word : List Char → Reader Unit
  | [] => pure ()
  | expected :: letters => do
    match ← peek? with
    | none => fail .missingValue
    | some c => if c = expected then do advance; word letters else failAhead .expectedWord

end Reader

end Json

end CatalogBrowser
