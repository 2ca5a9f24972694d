/-!
# Log events

What the browser does is reported as **events**: a level, the part of the
program that speaks, a message and named fields. Events are values. A
computation that reports any returns them beside its result (`Traced`), in
the order in which they happened, and whoever runs it decides what to do
with them.

The result of a traced computation does not depend on its events: `value`
passes through `pure`, `bind` and `map` unchanged (`Traced.value_bind`).
-/

namespace CatalogBrowser

namespace Log

/-- **How important an event is**, the gravest first. -/
inductive Level where
  | error
  | warn
  | info
  | debug
  | trace
deriving DecidableEq, Repr, Inhabited

/-- A larger rank is a chattier level. -/
def Level.rank : Level → Nat
  | error => 1
  | warn => 2
  | info => 3
  | debug => 4
  | trace => 5

/-- The name of a level at the head of a log line. -/
def Level.label : Level → String
  | error => "ERROR"
  | warn => "WARN"
  | info => "INFO"
  | debug => "DEBUG"
  | trace => "TRACE"

/-- The value of a field of an event. -/
inductive FieldValue where
  | text (value : String)
  | flag (value : Bool)
  | count (value : Nat)
deriving DecidableEq, Repr, Inhabited

/-- A field value as it is written in a log line. -/
def FieldValue.render : FieldValue → String
  | text value => value
  | flag value => if value then "true" else "false"
  | count value => toString value

/-- **One thing that happened.** -/
structure Event where
  /-- How important it is. -/
  level : Level
  /-- The part of the program that reports it. -/
  target : String
  /-- What happened. -/
  message : String
  /-- What it happened to, in the order of writing. -/
  fields : List (String × FieldValue)
deriving DecidableEq, Repr, Inhabited

/-- The line an event leaves in a log, without its time stamp. -/
def Event.line (e : Event) : String :=
  let fields := e.fields.map fun (name, value) => s!" {name}={value.render}"
  s!"{e.level.label} {e.target}: {e.message}{String.join fields}"

end Log

/-- **A result, and the events reported on the way to it.** -/
structure Traced (α : Type) where
  /-- The result. -/
  value : α
  /-- The events, in order. -/
  events : List Log.Event
deriving Repr

namespace Traced

variable {α β : Type}

instance : Monad Traced where
  pure a := ⟨a, []⟩
  bind x f := ⟨(f x.value).value, x.events ++ (f x.value).events⟩

/-- Reports one event. -/
def tell (e : Log.Event) : Traced Unit := ⟨(), [e]⟩

@[simp]
theorem value_pure (a : α) : (pure a : Traced α).value = a := rfl

@[simp]
theorem value_bind (x : Traced α) (f : α → Traced β) : (x >>= f).value = (f x.value).value := rfl

@[simp]
theorem value_map (f : α → β) (x : Traced α) : (f <$> x).value = f x.value := rfl

@[simp]
theorem events_pure (a : α) : (pure a : Traced α).events = [] := rfl

@[simp]
theorem events_bind (x : Traced α) (f : α → Traced β) :
    (x >>= f).events = x.events ++ (f x.value).events := rfl

@[simp]
theorem events_tell (e : Log.Event) : (tell e).events = [e] := rfl

end Traced

end CatalogBrowser
