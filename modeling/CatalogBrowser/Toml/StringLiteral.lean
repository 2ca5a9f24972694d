import CatalogBrowser.Toml.Reader

/-!
# Strings in a TOML file

There are four kinds of strings. Between double quotes a backslash starts
an escape; between single quotes every character stands for itself. Either
kind can run over several lines between three quotes of its sort, where a
newline directly behind the opening quotes does not count, and up to two
quotes may stand directly before the closing ones.
-/

namespace CatalogBrowser

namespace Toml

namespace Reader

/-- The value of a hexadecimal digit. -/
def hexValue (c : Char) : Nat :=
  if c ≤ '9' then c.toNat - '0'.toNat
  else if c ≤ 'F' then c.toNat - 'A'.toNat + 10
  else c.toNat - 'a'.toNat + 10

/-- Whether a character is a hexadecimal digit. -/
def isHexDigit (c : Char) : Bool :=
  ('0' ≤ c && c ≤ '9') || ('a' ≤ c && c ≤ 'f') || ('A' ≤ c && c ≤ 'F')

/-- The number that hexadecimal digits stand for. -/
def hexNumber (digits : List Char) : Nat := digits.foldl (fun n c => n * 16 + hexValue c) 0

/-- Reads `n` hexadecimal digits, which must be the number of a character. -/
def codePoint (n : Nat) : Reader Char := do
  let number := hexNumber (← takeExactly n isHexDigit)
  if h : number.isValidChar then pure (Char.ofNatAux number h) else failure

/-- Reads an escape, behind its backslash. -/
def escape : Reader Char := do
  match ← charIf fun _ => true with
  | 'b' => pure '\x08'
  | 'f' => pure '\x0c'
  | 'n' => pure '\n'
  | 'r' => pure '\r'
  | 't' => pure '\t'
  | '"' => pure '"'
  | '\\' => pure '\\'
  | 'u' => codePoint 4
  | 'U' => codePoint 8
  | _ => failure

/-- Reads the rest of a string of one line between double quotes. -/
def basicRest : Nat → Reader (List Char)
  | 0 => failure
  | fuel + 1 => do
    match ← charIf fun c => isPlain c with
    | '"' => pure []
    | '\\' => do
      let c ← escape
      pure (c :: (← basicRest fuel))
    | c => do pure (c :: (← basicRest fuel))

/-- Reads the rest of a string of one line between single quotes. -/
def literalRest : Reader (List Char) := do
  let content ← takeWhile fun c => isPlain c && c ≠ '\''
  char '\''
  pure content

/-- Passes over blanks and newlines, at most `fuel` of them. -/
def blanksAndNewlines : Nat → Reader Unit
  | 0 => pure ()
  | fuel + 1 => do
    blanks
    match ← optional newline with
    | some _ => blanksAndNewlines fuel
    | none => pure ()

/-- Passes over the quotes that close a string of several lines. Returns the
quotes before them that still belong to it, or nothing if there are too few
quotes to close it. -/
def closingQuotes (quote : Char) : Reader (Option (List Char)) := fun cs =>
  let n := (cs.takeWhile (· = quote)).length
  if n < 3 then some (none, cs)
  else if n ≤ 5 then some (some (List.replicate (n - 3) quote), cs.drop n)
  else none

/-- Reads the rest of a string of several lines. -/
def linesRest (quote : Char) (escapes : Bool) : Nat → Reader (List Char)
  | 0 => failure
  | fuel + 1 => do
    match ← closingQuotes quote with
    | some quotes => pure quotes
    | none =>
      match ← optional newline with
      | some _ => do pure ('\n' :: (← linesRest quote escapes fuel))
      | none => do
        let c ← charIf isPlain
        if escapes && c = '\\' then
          match ← optional (do blanks; newline) with
          | some _ => do
            blanksAndNewlines (← bound)
            linesRest quote escapes fuel
          | none => do
            let c ← escape
            pure (c :: (← linesRest quote escapes fuel))
        else pure (c :: (← linesRest quote escapes fuel))

/-- Reads a string of one line, whose kind its first quote tells. -/
def lineString : Reader String := do
  match ← charIf fun c => c = '"' || c = '\'' with
  | '"' => do pure (String.ofList (← basicRest (← bound)))
  | _ => do pure (String.ofList (← literalRest))

/-- Reads a string of several lines between quotes of one sort. -/
def linesString (quote : Char) : Reader String := do
  literal [quote, quote, quote]
  let _ ← optional newline
  pure (String.ofList (← linesRest quote (quote = '"') (← bound)))

/-- **Reads a string** of any kind. -/
def string : Reader String := fun cs =>
  if ['"', '"', '"'].isPrefixOf cs then linesString '"' cs
  else if ['\'', '\'', '\''].isPrefixOf cs then linesString '\'' cs
  else lineString cs

end Reader

end Toml

end CatalogBrowser
