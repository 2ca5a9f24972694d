/-!
# TOML values and tables

A value of a configuration file. Tables keep the order of the file, and no
key occurs twice in one. What date or time a value gives does not matter to
the browser, only that it is one.

A file builds its tables piece by piece: by headers, by headers for one more
item of a list of tables, and by keys with dots. While they are built, each
table remembers how it came about, since that decides what may still be
added to it. A table that was only named on the way to another one is
**implicit**; one that was named by the dots of a key is **dotted**.

A key can be given once. A header can turn an implicit table into a proper
one, which is put last then; a dotted key can only go on in dotted tables
and add to what dotted keys began.
-/

namespace CatalogBrowser

/-! ## Values -/

/-- **A TOML value.** -/
inductive Toml where
  | string (value : String)
  | integer (value : Int)
  | real (value : Float)
  | boolean (value : Bool)
  | moment
  | array (items : List Toml)
  | table (members : List (String × Toml))
deriving Repr, BEq, Inhabited

/-! ## Tables under construction -/

namespace Toml

/-- **What a key stands for** while tables are built. -/
inductive Entry where
  /-- A value, to which nothing can be added. -/
  | value (value : Toml)
  /-- A table, whether it is implicit, and whether it is dotted. -/
  | table (isImplicit isDotted : Bool) (members : List (String × Entry))
  /-- A list of tables. -/
  | tables (items : List (List (String × Entry)))
deriving Inhabited

/-- The members of a table under construction. -/
abbrev Members := List (String × Entry)

namespace Members

/-- The members with another entry for a key they have. -/
def replace (key : String) (entry : Entry) (members : Members) : Members :=
  members.map fun (k, e) => if k = key then (k, entry) else (k, e)

/-- The members with an entry for a key they do not have yet. -/
def addNew (key : String) (entry : Entry) (members : Members) : Option Members :=
  if (members.lookup key).isSome then none else some (members ++ [(key, entry)])

/-- **Changes the members of the table at a path**, given whether the path
was written with dots in a key. Tables on the way are added where there are
none, and of a list of tables the last is meant. `change` is told whether
the table it changes is dotted, as `isDotted` tells of the first. -/
def changeAt (inKey : Bool) (change : Bool → Members → Option Members) (isDotted : Bool) :
    List String → Members → Option Members
  | [], members => change isDotted members
  | key :: path, members =>
    match members.lookup key with
    | none => do
      let inner ← changeAt inKey change inKey path []
      some (members ++ [(key, .table true inKey inner)])
    | some (.value _) => none
    | some (.table isImplicit dotted inner) =>
      if inKey && !isImplicit then none
      else do
        let inner ← changeAt inKey change dotted path inner
        some (members.replace key (.table isImplicit dotted inner))
    | some (.tables items) => do
      let inner ← changeAt inKey change false path (items.getLastD [])
      some (members.replace key (.tables (items.dropLast ++ [inner])))

/-- **Adds the value of a key**, whose last part comes separately. -/
def insertDotted (path : List String) (key : String) (value : Toml) (members : Members) :
    Option Members :=
  members.changeAt true
    (fun isDotted inner =>
      if isDotted = path.isEmpty then none else inner.addNew key (.value value)) false path

end Members

/-! ## Values of tables -/

mutual

/-- The value an entry stands for. -/
def Entry.toToml : Entry → Toml
  | .value v => v
  | .table _ _ members => .table (Members.toTomlMembers members)
  | .tables items => .array (Members.toTomlTables items)

/-- The values of the members of a table. -/
def Members.toTomlMembers : List (String × Entry) → List (String × Toml)
  | [] => []
  | (key, entry) :: rest => (key, entry.toToml) :: Members.toTomlMembers rest

/-- The values of a list of tables. -/
def Members.toTomlTables : List (List (String × Entry)) → List Toml
  | [] => []
  | members :: rest => .table (Members.toTomlMembers members) :: Members.toTomlTables rest

end

/-! ## Headers -/

/-- **A file under construction**: the tables whose headers are behind us,
and the one that is being filled. -/
structure Sheet where
  /-- All tables but the current one. -/
  root : Members
  /-- The members of the current table. -/
  current : Members
  /-- Where the current table belongs. Nowhere means that it is the root. -/
  path : List String
  /-- Whether the current table is an item of a list of tables. -/
  isItem : Bool
deriving Inhabited

namespace Sheet

/-- Before the first line. -/
def empty : Sheet := ⟨[], [], [], false⟩

/-- Adds the value of a key to the current table. -/
def addValue (s : Sheet) (path : List String) (key : String) (value : Toml) : Option Sheet := do
  some { s with current := ← s.current.insertDotted path key value }

/-- Puts the current table where it belongs. -/
def settle (s : Sheet) : Option Members :=
  match s.path.getLast? with
  | none => some s.current
  | some key =>
    s.root.changeAt false (fun _ parent =>
      if s.isItem then
        match parent.lookup key with
        | some (.tables items) => some (parent.replace key (.tables (items ++ [s.current])))
        | _ => none
      else parent.addNew key (.table false false s.current)) false s.path.dropLast

/-- **Begins the table of a header.** What was added to it so far, if it is
only implicit, is taken along. -/
def beginTable (s : Sheet) (path : List String) : Option Sheet := do
  let key ← path.getLast?
  let root ← s.settle
  -- The parent comes into being even if the table turns out to be taken.
  let root ← root.changeAt false (fun _ parent => some parent) false path.dropLast
  let mine ← taken root path
  let root ← root.changeAt false
    (fun _ parent => some (parent.filter (·.1 ≠ key))) false path.dropLast
  some ⟨root, mine, path, false⟩
where
  /-- The members a header takes over from the tables at its path. -/
  taken (members : Members) : List String → Option Members
    | [] => none
    | [key] =>
      match members.lookup key with
      | none => some []
      | some (.table true false inner) => some inner
      | some _ => none
    | key :: path =>
      match members.lookup key with
      | some (.table _ _ inner) => taken inner path
      | some (.tables items) => taken (items.getLastD []) path
      | _ => none

/-- **Begins one more item of a list of tables.** -/
def beginItem (s : Sheet) (path : List String) : Option Sheet := do
  let key ← path.getLast?
  let root ← s.settle
  let root ← root.changeAt false (fun _ parent =>
    match parent.lookup key with
    | none => some (parent ++ [(key, .tables [])])
    | some (.tables _) => some parent
    | some _ => none) false path.dropLast
  some ⟨root, [], path, true⟩

end Sheet

end Toml

end CatalogBrowser
