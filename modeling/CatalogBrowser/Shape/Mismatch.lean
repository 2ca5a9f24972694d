import CatalogBrowser.Text.Quoted

/-!
# Values of the wrong shape

A document can be well formed and still not hold what is asked of it: a
number where a text belongs, a field too many, an unknown word. Such a
**mismatch** names what was found and what was expected. Documents of both
kinds the browser reads, catalogs and configurations, report them in the
same words.
-/

namespace CatalogBrowser

/-- **What was found** where something else was expected. -/
inductive Found where
  | boolean (value : Bool)
  | integer (value : Int)
  /-- A number with a fraction or an exponent, as its document writes it. -/
  | real (written : String)
  | text (value : String)
  | nothing
  | list
  | map
deriving DecidableEq, Repr

/-- What was found, in words. -/
def Found.describe : Found → String
  | boolean value => if value then "boolean `true`" else "boolean `false`"
  | integer value => s!"integer `{value}`"
  | real written => s!"floating point `{written}`"
  | text value => "string " ++ Text.quoted value
  | nothing => "null"
  | list => "sequence"
  | map => "map"

/-- **How a value fails to be what is asked of it.** -/
inductive Mismatch where
  /-- A value of another type. -/
  | wrongType (found : Found) (expected : String)
  /-- A value of the right type that is out of range. -/
  | wrongValue (found : Found) (expected : String)
  /-- A list that ends too early. -/
  | wrongLength (length : Nat) (expected : String)
  | missingField (name : String)
  | duplicateField (name : String)
  | unknownWord (word : String) (known : List String)
deriving DecidableEq, Repr

/-- The wording of a mismatch. -/
def Mismatch.message : Mismatch → String
  | wrongType found expected => s!"invalid type: {found.describe}, expected {expected}"
  | wrongValue found expected => s!"invalid value: {found.describe}, expected {expected}"
  | wrongLength length expected => s!"invalid length {length}, expected {expected}"
  | missingField name => s!"missing field `{name}`"
  | duplicateField name => s!"duplicate field `{name}`"
  | unknownWord word known =>
    let words := ", ".intercalate (known.map fun w => s!"`{w}`")
    s!"unknown variant `{word}`, expected one of {words}"

end CatalogBrowser
