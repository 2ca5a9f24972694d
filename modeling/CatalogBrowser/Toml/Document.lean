import CatalogBrowser.Toml.Scalar
import CatalogBrowser.Toml.Table

/-!
# Reading TOML files

A file is a list of lines: blank ones, keys with their values, and headers
of tables. Only arrays can run over several lines, besides the strings that
say so. How deep arrays and inline tables may lie inside each other is
limited, and so is the number of parts of a key.
-/

namespace CatalogBrowser

namespace Toml

/-- How many arrays and inline tables may lie inside each other. -/
def depthLimit : Nat := 79

/-- How many parts a key may have. -/
def keyLimit : Nat := 79

namespace Reader

variable {α : Type}

/-! ## Keys -/

/-- What a key without quotes may hold. -/
def isBareKey (c : Char) : Bool := c.isAlphanum || c = '_' || c = '-'

/-- Reads one part of a key. -/
def keyPart : Reader String := do
  match ← peek? with
  | some '"' | some '\'' => lineString
  | _ => do pure (String.ofList (← takeSome isBareKey))

/-- Reads the parts of a key, at most `fuel` of them. -/
def keyParts : Nat → Reader (List String)
  | 0 => failure
  | fuel + 1 => do
    blanks
    let part ← keyPart
    blanks
    match ← peek? with
    | some '.' => do
      char '.'
      pure (part :: (← keyParts fuel))
    | _ => pure [part]

/-- **Reads a key.** -/
def key : Reader (List String) := keyParts keyLimit

/-! ## Values -/

/-- Reads the items of an array, at most `fuel` of them, to its closing
bracket. A comma may follow the last. -/
def items (item : Reader α) : Nat → Reader (List α)
  | 0 => failure
  | fuel + 1 => do
    blankLines
    match ← peek? with
    | some ']' => do char ']'; pure []
    | _ => do
      let a ← item
      blankLines
      match ← peek? with
      | some ',' => do
        char ','
        pure (a :: (← items item fuel))
      | _ => do
        char ']'
        pure [a]

/-- Reads the members of an inline table, at most `fuel` of them, to its
closing brace. No comma may follow the last. -/
def inlineMembers (item : Reader Toml) : Nat → Members → Reader Members
  | 0, _ => failure
  | fuel + 1, members => do
    let path ← key
    char '='
    blanks
    let v ← item
    blanks
    let members ← members.insertDotted path.dropLast (path.getLastD "") v
    match ← peek? with
    | some ',' => do
      char ','
      inlineMembers item fuel members
    | _ => do
      char '}'
      pure members

/-- Reads an inline table behind its opening brace. -/
def inlineTable (item : Reader Toml) : Reader Members := do
  blanks
  match ← peek? with
  | some '}' => do char '}'; pure []
  | _ => do inlineMembers item (← bound) []

/-- **Reads a value**, with `depth` levels of nesting to go. -/
def value (depth : Nat) : Reader Toml := do
  match ← peek? with
  | some '"' | some '\'' => do pure (.string (← string))
  | some 't' => do literal ['t', 'r', 'u', 'e']; pure (.boolean true)
  | some 'f' => do literal ['f', 'a', 'l', 's', 'e']; pure (.boolean false)
  | some '[' =>
    match depth with
    | 0 => failure
    | depth + 1 => do
      char '['
      pure (.array (← items (value depth) (← bound)))
  | some '{' =>
    match depth with
    | 0 => failure
    | depth + 1 => do
      char '{'
      pure (.table (Members.toTomlMembers (← inlineTable (value depth))))
  | _ => scalar

/-! ## Lines -/

/-- Reads a key and its value. -/
def keyValue (s : Sheet) : Reader Sheet := do
  let path ← key
  char '='
  blanks
  let v ← value depthLimit
  endOfLine
  s.addValue path.dropLast (path.getLastD "") v

/-- Reads a header. -/
def header (s : Sheet) : Reader Sheet := do
  if ← literal? ['[', '['] then
    let path ← key
    literal [']', ']']
    endOfLine
    s.beginItem path
  else
    char '['
    let path ← key
    char ']'
    endOfLine
    s.beginTable path

/-- Reads lines, at most `fuel` of them, to the end of the file. -/
def lines : Nat → Sheet → Reader Sheet
  | 0, _ => failure
  | fuel + 1, s => do
    blanks
    match ← peek? with
    | none => pure s
    | some '#' => do comment; lineEnd; lines fuel s
    | some '\n' | some '\r' => do newline; lines fuel s
    | some '[' => do lines fuel (← header s)
    | some _ => do lines fuel (← keyValue s)

/-- Reads a whole file, which may begin with a mark of its byte order. -/
def file : Reader Members := do
  let _ ← literal? ['\ufeff']
  let s ← lines (← bound) .empty
  s.settle

end Reader

/-- **The top-level members of a TOML file**, if the text is one. -/
def parse? (text : String) : Option (List (String × Toml)) :=
  (Reader.file text.toList).map fun (members, _) => Members.toTomlMembers members

end Toml

end CatalogBrowser
