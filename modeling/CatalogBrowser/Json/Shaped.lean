import CatalogBrowser.Decimal.Style
import CatalogBrowser.Json.Document

/-!
# Reading values of a given shape

A document of known shape is read without building its values first, so
that a value of the wrong shape is reported where it stands: behind a value
that was read to the end, and before a list or an object. A mismatch that
concerns a whole list or object is reported behind its closing bracket, if
that follows.

A reader for what may stand at a certain depth is given `inside`, which
reads the contents of a list or an object, or is missing where nothing may
be nested any more.
-/

namespace CatalogBrowser

namespace Json

namespace Reader

variable {α β : Type}

/-- Refuses a value of another type than the one expected. -/
def wrongType (expected : String) : Reader α := do
  let refuse : Found → Reader α := fun found => fail (.mismatch (.wrongType found expected))
  match ← peek? with
  | some 'n' => do advance; word ['u', 'l', 'l']; refuse .nothing
  | some 't' => do advance; word ['r', 'u', 'e']; refuse (.boolean true)
  | some 'f' => do advance; word ['a', 'l', 's', 'e']; refuse (.boolean false)
  | some '"' => do refuse (.text (← stringLiteral))
  | some '[' => refuse .list
  | some '{' => refuse .map
  | some c =>
    if c = '-' || isDigit c then
      match ← number with
      | .natural n => refuse (.integer n)
      | .negative n => refuse (.integer (-n))
      | .real x => refuse (.real (Decimal.compactStyle.write x))
    else failAhead .expectedValue
  | none => failAhead .expectedValue

/-- Reads a string. -/
def text : Reader String := do
  match ← peekValue with
  | '"' => stringLiteral
  | _ => wrongType "a string"

/-- Reads a truth value. -/
def flag : Reader Bool := do
  match ← peekValue with
  | 't' => do advance; word ['r', 'u', 'e']; pure true
  | 'f' => do advance; word ['a', 'l', 's', 'e']; pure false
  | _ => wrongType "a boolean"

/-- Reads null. -/
def unit : Reader Unit := do
  match ← peekValue with
  | 'n' => do advance; word ['u', 'l', 'l']
  | _ => wrongType "unit"

/-- Reads on inside a list or an object, whose bracket is under the cursor. -/
def enter (inside : Option (Reader α)) : Reader α := do
  match inside with
  | some read => do advance; read
  | none => failAhead .tooDeep

/-- Reads a list of values of one shape. -/
def listOf (inside : Option (Reader α)) : Reader (List α) := do
  match ← peekValue with
  | '[' => enter (inside.map list)
  | _ => wrongType "a sequence"

/-! ## Words -/

/-- The thing a word names, or the fault of one that names nothing. -/
def named (choose : String → Except Mismatch α) (name : String) : Reader α :=
  match choose name with
  | .ok a => pure a
  | .error m => fail (.mismatch m)

/-- The only member of an object, which stands for its key. -/
def soleKey (choose : String → Except Mismatch α) : Reader α := do
  let name ← match ← peekValue with
    | '"' => stringLiteral
    | _ => wrongType "variant identifier"
  let a ← named choose name
  colon
  unit
  pure a

/-- **Reads a word out of a list of words**, written as a string or as an
object with the word as its only key and null as its value. -/
def wordOf (choose : String → Except Mismatch α) (mayNest : Bool) : Reader α := do
  match ← peekPastBlanks? with
  | some '"' => do named choose (← stringLiteral)
  | some '{' => do
    let a ← enter (if mayNest then some (soleKey choose) else none)
    match ← peekPastBlanks? with
    | some '}' => do advance; pure a
    | some _ => fail .expectedValue
    | none => fail .unclosedObject
  | some _ => failAhead .expectedValue
  | none => failAhead .missingValue

/-! ## Records -/

/-- Refuses a list or an object as a whole. -/
def failBehind (bracket : Char) (m : Mismatch) : Reader α := do
  if (← peekPastBlanks?) = some bracket then advance
  fail (.mismatch m)

/-- Reads the next item of a list, if there is one. -/
def item? (isFirst : Bool) (read : Reader α) : Reader (Option α) := do
  if ← moreItems isFirst then some <$> read else pure none

/-- Reads a field that must not have been read before. -/
def freshField (name : String) (known : Option α) (read : Reader α) : Reader (Option α) := do
  if known.isSome then failBehind '}' (.duplicateField name)
  else do
    colon
    some <$> read

/-- Passes over the value of a field that is not known. -/
def unknownField : Reader Unit := do
  colon
  skipValue

/-- **How the fields of a record are read**, from a list or from an object. -/
structure Fields (α : Type) where
  /-- Reads them in their order, behind an opening bracket. -/
  ofList : Reader α
  /-- Reads them by their names, behind an opening brace. -/
  ofObject : Reader α

/-- **Reads a record.** -/
def record (expected : String) (inside : Option (Fields α)) : Reader α := do
  match ← peekValue with
  | '[' => do
    let a ← enter (inside.map (·.ofList))
    closeList
    pure a
  | '{' => do
    let a ← enter (inside.map (·.ofObject))
    closeObject
    pure a
  | _ => wrongType expected

end Reader

end Json

end CatalogBrowser
