/-!
# Reading a TOML file

A reader takes what it needs from the characters that are left, or refuses
them. A file that is refused is no TOML file; why is not recorded. Readers
can be tried one after the other, each on the same characters.
-/

namespace CatalogBrowser

namespace Toml

/-- **A computation that reads characters.** -/
abbrev Reader (α : Type) := StateT (List Char) Option α

namespace Reader

variable {α : Type}

/-- The next character, which stays where it is. -/
def peek? : Reader (Option Char) := fun cs => some (cs.head?, cs)

/-- Takes the next character, if it satisfies `p`. -/
def charIf (p : Char → Bool) : Reader Char
  | c :: cs => if p c then some (c, cs) else none
  | [] => none

/-- Passes over one given character. -/
def char (c : Char) : Reader Unit := do
  let _ ← charIf (· = c)

/-- Passes over a given text. -/
def literal (expected : List Char) : Reader Unit := fun cs =>
  if expected.isPrefixOf cs then some ((), cs.drop expected.length) else none

/-- Passes over a given text, if it is next. -/
def literal? (expected : List Char) : Reader Bool := fun cs =>
  if expected.isPrefixOf cs then some (true, cs.drop expected.length) else some (false, cs)

/-- Takes the characters that satisfy `p`. -/
def takeWhile (p : Char → Bool) : Reader (List Char) := fun cs =>
  some (cs.takeWhile p, cs.dropWhile p)

/-- Takes at least one character that satisfies `p`. -/
def takeSome (p : Char → Bool) : Reader (List Char) := do
  let taken ← takeWhile p
  if taken.isEmpty then failure else pure taken

/-- Takes exactly `n` characters that satisfy `p`. -/
def takeExactly (n : Nat) (p : Char → Bool) : Reader (List Char) := fun cs =>
  if (cs.take n).length = n && (cs.take n).all p then some (cs.take n, cs.drop n) else none

/-- Reads something, or nothing if it is not next. -/
def optional (read : Reader α) : Reader (Option α) := fun cs =>
  match read cs with
  | some (a, rest) => some (some a, rest)
  | none => some (none, cs)

/-- An upper bound on how many things can still be read, since each takes a
character at least. -/
def bound : Reader Nat := fun cs => some (cs.length + 1, cs)

/-! ## Between values -/

/-- Spaces and tabs. -/
def isBlank (c : Char) : Bool := c = ' ' || c = '\t'

/-- What may stand in a comment: no control characters, except tabs. -/
def isPlain (c : Char) : Bool := c = '\t' || (' ' ≤ c && c ≠ '\x7f')

/-- Passes over spaces and tabs. -/
def blanks : Reader Unit := do
  let _ ← takeWhile isBlank

/-- Passes over the end of a line. -/
def newline : Reader Unit := literal ['\n'] <|> literal ['\r', '\n']

/-- Passes over the end of a line or of the file. -/
def lineEnd : Reader Unit := do
  match ← peek? with
  | none => pure ()
  | some _ => newline

/-- Passes over a comment, if one is next. -/
def comment : Reader Unit := do
  match ← peek? with
  | some '#' => do
    let _ ← takeWhile isPlain
  | _ => pure ()

/-- Passes over the rest of a line, which must not hold anything more. -/
def endOfLine : Reader Unit := do
  blanks
  comment
  lineEnd

/-- Passes over lines without values, at most `fuel` of them, and over the
blanks that follow. -/
def blankLinesWith : Nat → Reader Unit
  | 0 => pure ()
  | fuel + 1 => do
    blanks
    match ← peek? with
    | some '#' => do comment; newline; blankLinesWith fuel
    | some '\n' | some '\r' => do newline; blankLinesWith fuel
    | _ => pure ()

/-- Passes over lines without values, and over the blanks that follow. -/
def blankLines : Reader Unit := do
  blankLinesWith (← bound)

end Reader

end Toml

end CatalogBrowser
