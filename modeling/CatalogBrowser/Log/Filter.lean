import CatalogBrowser.Log.Event
import CatalogBrowser.Text.Alphanumeric

/-!
# Log filters

A **filter** says which events are logged. It is a list of directives with
commas between them, and a directive is a level, a target, or both: the
events it is about are those of the target and all targets that begin with
it, and it lets them through up to its level. Of the directives that are
about an event the most specific decides.

A directive can also name a span and a field of it, in brackets. No event
of the browser lies in a span, so such a directive lets nothing through; one
that only names a field is about the events that have it.
-/

namespace CatalogBrowser

namespace Log

/-- **How much is let through**: nothing, or everything up to a level. -/
abbrev Threshold := Option Level

/-- A larger rank lets more through. -/
def Threshold.rank : Threshold → Nat
  | none => 0
  | some level => level.rank

/-- The threshold with a given rank. -/
def Threshold.ofRank? : Nat → Option Threshold
  | 0 => some none
  | 1 => some (some .error)
  | 2 => some (some .warn)
  | 3 => some (some .info)
  | 4 => some (some .debug)
  | 5 => some (some .trace)
  | _ => none

/-- The name of a threshold. -/
def Threshold.name : Threshold → String
  | none => "off"
  | some .error => "error"
  | some .warn => "warn"
  | some .info => "info"
  | some .debug => "debug"
  | some .trace => "trace"

/-- The number a text of digits stands for. A plus may stand before them. -/
def digitsNumber? (word : List Char) : Option Nat :=
  let digits := match word with
    | '+' :: digits => digits
    | _ => word
  if digits.isEmpty || !digits.all Char.isDigit then none
  else some (digits.foldl (fun n c => n * 10 + (c.toNat - '0'.toNat)) 0)

/-- **The threshold a word names**, by its name in any case or by its rank. -/
def Threshold.ofWord? (word : List Char) : Option Threshold :=
  match (digitsNumber? word).bind Threshold.ofRank? with
  | some t => some t
  | none =>
    if word.isEmpty then some (some .error)
    else
      [none, some .error, some .warn, some .info, some .debug, some .trace].find?
        fun t => Text.eqIgnoreAsciiCase (Threshold.name t) (String.ofList word)

/-- **Why a filter does not read.** -/
inductive FilterFault where
  /-- What should be a level is none. -/
  | badLevel
  /-- A directive is not built like one. -/
  | badDirective
deriving DecidableEq, Repr

/-- The wording of a fault. -/
def FilterFault.message : FilterFault → String
  | badLevel => "error parsing level filter: expected one of \"off\", \"error\", \"warn\", " ++
      "\"info\", \"debug\", \"trace\", or a number 0-5"
  | badDirective => "invalid filter directive"

/-- **One part of a filter.** -/
structure Directive where
  /-- How much it lets through. -/
  threshold : Threshold
  /-- What the target of an event must begin with. -/
  target : Option String := none
  /-- The span an event must lie in. -/
  span : Option String := none
  /-- The field that must be there, and perhaps the value it must have. -/
  field : Option (String × Option String) := none
deriving DecidableEq, Repr, Inhabited

/-! ## Reading -/

/-- The threshold behind an equals sign. None at all stands for the largest. -/
def readLevel (word : List Char) : Except FilterFault Threshold :=
  if word.isEmpty then .ok (some .trace)
  else
    match Threshold.ofWord? word with
    | some t => .ok t
    | none => .error .badLevel

/-- A directive that is a single word: a level if it names one, and a target
otherwise. -/
def wordDirective (word : List Char) : Directive :=
  match Threshold.ofWord? word with
  | some t => ⟨t, none, none, none⟩
  | none => ⟨some .trace, some (String.ofList word), none, none⟩

/-- A field, and the value it must have behind an equals sign. -/
def fieldOfWord (word : List Char) : String × Option String :=
  let isName : Char → Bool := (· ≠ '=')
  let rest := word.dropWhile isName
  (String.ofList (word.takeWhile isName),
    if rest.isEmpty then none else some (String.ofList ((rest.drop 1).takeWhile isName)))

/-- **The text of a directive.** Where its parts begin and end is found in
the text without the blanks around it, and then cut out of the text as it
is given. -/
structure DirectiveText where
  /-- The text as it is given. -/
  given : List Char
  /-- The text without blanks around it. -/
  trimmed : List Char

namespace DirectiveText

/-- Takes a text. -/
def ofList (text : List Char) : DirectiveText := ⟨text, Text.trim text⟩

/-- The characters between two places. -/
def cut (t : DirectiveText) (start stop : Nat) : List Char :=
  (t.given.drop start).take (stop - start)

/-- The first place from `start` on with one of two characters. -/
def seek (t : DirectiveText) (start : Nat) (a b : Char) : Nat :=
  start + ((t.trimmed.drop start).takeWhile fun c => c ≠ a && c ≠ b).length

/-- Reads the level at the end, with what stands before it known. -/
def readEnd (t : DirectiveText) (start : Nat) (known : Directive) : Except FilterFault Directive :=
  match t.trimmed[start]? with
  | none => .ok known
  | some '=' => do pure { known with threshold := ← readLevel (t.given.drop (start + 1)) }
  | some _ => .error .badDirective

/-- Reads what stands in brackets, and on from there. -/
def readSpan (t : DirectiveText) (start : Nat) (known : Directive) : Except FilterFault Directive :=
  let stop := t.seek start ']' '{'
  let span := String.ofList (t.cut start stop)
  match t.trimmed[stop]? with
  | some ']' => t.readEnd (stop + 1) { known with span := some span }
  | some '{' =>
    let close := t.seek (stop + 1) '}' '}'
    let field := t.cut (stop + 1) close
    if field.isEmpty || t.trimmed[close + 1]? ≠ some ']' then .error .badDirective
    else
      t.readEnd (close + 2)
        { known with
          span := if span.isEmpty then none else some span
          field := some (fieldOfWord field) }
  | _ => .error .badDirective

/-- **Reads a directive.** -/
def read (t : DirectiveText) : Except FilterFault Directive :=
  match t.trimmed with
  | [] => .error .badDirective
  | '[' :: _ => t.readSpan 1 ⟨some .trace, none, none, none⟩
  | c :: _ =>
    if !(Text.isAlphanumeric c || c = '-' || c = ':' || c = '_') then .error .badDirective
    else
      let stop := t.seek 1 '=' '['
      let target := String.ofList (t.cut 0 stop)
      let known : Directive := ⟨some .trace, some target, none, none⟩
      match t.trimmed[stop]? with
      | none => .ok (wordDirective t.given)
      | some '=' => t.readEnd stop known
      | some _ => t.readSpan (stop + 1) known

end DirectiveText

/-- **A log filter.** -/
structure Filter where
  /-- Its directives, in order. -/
  directives : List Directive
deriving Repr, Inhabited

namespace Filter

/-- **The filter a text describes.** Empty directives do not count. -/
def ofText (text : String) : Except FilterFault Filter := do
  let words := (text.splitOn ",").filter fun word => !word.isEmpty
  pure ⟨← words.mapM fun word => (DirectiveText.ofList word.toList).read⟩

/-- **The most a filter lets through.** A directive about the value of a
field may let anything through. -/
def limit (filter : Filter) : Threshold :=
  if filter.directives.any fun d => (d.field.bind (·.2)).isSome then some .trace
  else
    filter.directives.foldl
      (fun (t : Threshold) d => if t.rank < d.threshold.rank then d.threshold else t) none

end Filter

/-! ## Deciding -/

namespace Directive

/-- Whether a directive is about an event. -/
def isAbout (d : Directive) (e : Event) : Bool :=
  d.span.isNone
    && (match d.target with
      | some target => target.isPrefixOf e.target
      | none => true)
    && (match d.field with
      | some (name, none) => name = "message" || e.fields.any (·.1 = name)
      | some (_, some _) => false
      | none => true)

/-- How specific a directive is: by the length of its target, then by
whether it names a field. -/
def specificity (d : Directive) : Nat × Nat × String :=
  (match d.target with
    | some target => target.utf8ByteSize + 1
    | none => 0,
    if d.field.isSome then 1 else 0,
    match d.field with
    | some (name, _) => name
    | none => "")

/-- Whether a directive is less specific than another. -/
def isLessSpecific (d e : Directive) : Bool :=
  let (t, f, n) := d.specificity
  let (t', f', n') := e.specificity
  t < t' || (t = t' && (f < f' || (f = f' && n < n')))

end Directive

/-- **Whether a filter lets an event through.** Of two directives that are
equally specific the later decides. -/
def Filter.allows (filter : Filter) (e : Event) : Bool :=
  let decisive := (filter.directives.filter (·.isAbout e)).foldl
    (fun best d =>
      match best with
      | none => some d
      | some b => if d.isLessSpecific b then some b else some d)
    (none : Option Directive)
  match decisive with
  | some d => e.level.rank ≤ d.threshold.rank
  | none => false

/-! ## Which filter is used

The environment can give a filter of its own, which goes before the one in
the settings if it reads. -/

/-- The filter to use, given the one of the environment and the one of the
settings, both in writing. -/
def chooseFilter (fromEnvironment : Option String) (level : String) : Except FilterFault Filter :=
  match fromEnvironment.map Filter.ofText with
  | some (.ok filter) => .ok filter
  | _ => Filter.ofText level

/-- The wording of a fault of the filter that was to be used. -/
def filterFaultMessage (level : String) (fault : FilterFault) : String :=
  s!"Invalid log filter '{level}': {fault.message}"

end Log

end CatalogBrowser
