/-!
# Arguments of a command line

The arguments of a command are **switches**, **options** that take a value,
and plain words. A switch and an option begin with two dashes; the value of
an option is the next argument, or follows an equals sign. Two dashes by
themselves make words of all that follows. Nothing may be given twice but
words, and no value may be empty.
-/

namespace CatalogBrowser

/-- **What arguments a command understands.** -/
structure ArgumentRules where
  /-- The switches. -/
  switches : List String
  /-- The options that take a value. -/
  options : List String
  /-- Whether it takes words. -/
  takesWords : Bool
deriving Repr, Inhabited

/-- **The arguments of a command.** -/
structure Arguments where
  /-- The switches that are set. -/
  switches : List String := []
  /-- The options that are given, with their values. -/
  options : List (String × String) := []
  /-- The words, in order. -/
  words : List String := []
deriving Repr, Inhabited

/-- Whether an argument looks like a switch or an option. A single dash does
not. -/
def looksLikeOption (argument : String) : Bool := argument.startsWith "-" && argument ≠ "-"

/-- The name of a switch or an option, and the value behind the equals sign.
A dash by itself has no name. -/
def optionName? (argument : String) : Option (String × Option String) :=
  match argument.toList with
  | '-' :: '-' :: rest =>
    let isName : Char → Bool := (· ≠ '=')
    let value := rest.dropWhile isName
    some (String.ofList (rest.takeWhile isName),
      if value.isEmpty then none else some (String.ofList (value.drop 1)))
  | _ => none

namespace Arguments

/-- Whether a switch is set. -/
def has (a : Arguments) (name : String) : Bool := a.switches.contains name

/-- The value of an option, if it is given. -/
def value? (a : Arguments) (name : String) : Option String := a.options.lookup name

/-- The arguments with one more switch, which must not be set yet. -/
def addSwitch (a : Arguments) (name : String) : Option Arguments :=
  if a.has name then none else some { a with switches := a.switches ++ [name] }

/-- The arguments with one more option, which must not be given yet. -/
def addOption (a : Arguments) (name value : String) : Option Arguments :=
  if value.isEmpty || (a.value? name).isSome then none
  else some { a with options := a.options ++ [(name, value)] }

/-- The arguments with more words. -/
def addWords (a : Arguments) (rules : ArgumentRules) (words : List String) : Option Arguments :=
  if words.isEmpty || rules.takesWords then some { a with words := a.words ++ words } else none

/-- **Reads arguments**, on top of those read before. -/
def readFrom (rules : ArgumentRules) : Arguments → List String → Option Arguments
  | a, [] => some a
  | a, "--" :: rest => a.addWords rules rest
  | a, argument :: rest =>
    match optionName? argument with
    | some (name, value) =>
      if rules.options.contains name then
        match value, rest with
        | some value, rest => do
          let a ← a.addOption name value
          readFrom rules a rest
        | none, value :: rest => do
          if looksLikeOption value then none
          else
            let a ← a.addOption name value
            readFrom rules a rest
        | none, [] => none
      else if rules.switches.contains name && value.isNone then do
        let a ← a.addSwitch name
        readFrom rules a rest
      else none
    | none => do
      if looksLikeOption argument then none
      else
        let a ← a.addWords rules [argument]
        readFrom rules a rest

/-- The arguments of a command. -/
def read (rules : ArgumentRules) (arguments : List String) : Option Arguments :=
  readFrom rules {} arguments

end Arguments

end CatalogBrowser
