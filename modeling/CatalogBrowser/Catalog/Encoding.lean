import CatalogBrowser.Json.Value
import CatalogBrowser.Resource.Basic

/-!
# Resources as JSON values

A catalog writes an entry as an object with the members `type`, `name`,
`fullPath` and `children`, the last only if there are any.

It reads more than it writes. Only the name is required, members it does not
know are passed over, and the members may also stand in a list, in the order
above and without their names. A type is a tag, or an object whose only
member is a tag with the value null. No member may occur twice.
-/

namespace CatalogBrowser

/-! ## Writing -/

mutual

/-- **The value a catalog writes for an entry.** -/
def Resource.toJson : Resource → Json
  | ⟨kind, name, path, children⟩ =>
    .object ([("type", .string kind.tag), ("name", .string name),
      ("fullPath", .list (path.map .string))] ++
      match children with
      | [] => []
      | c :: cs => [("children", .list (Forest.toJsonList (c :: cs)))])

/-- The values of the entries of a forest. -/
def Forest.toJsonList : Forest → List Json
  | [] => []
  | r :: rs => r.toJson :: Forest.toJsonList rs

end

/-! ## Reading -/

/-- The string a value is. -/
def Json.asString? : Json → Option String
  | .string s => some s
  | _ => none

/-- The kind a value names. -/
def Kind.ofJson? : Json → Option Kind
  | .string tag => some (Kind.ofTag tag)
  | .object [(tag, .null)] => some (Kind.ofTag tag)
  | _ => none

/-- The path a value is. -/
def pathOfJson? : Json → Option (List String)
  | .list items => items.mapM Json.asString?
  | _ => none

/-- **The members of an entry read so far.** -/
structure ResourceParts where
  kind : Option Kind := none
  name : Option String := none
  path : Option (List String) := none
  children : Option Forest := none
deriving Inhabited

/-- The entry with these members, if its name is among them. -/
def ResourceParts.complete? (parts : ResourceParts) : Option Resource :=
  parts.name.map fun name =>
    ⟨parts.kind.getD .unknown, name, parts.path.getD [], parts.children.getD []⟩

mutual

/-- **The entry a value describes**, if it is of the right shape. -/
def Resource.ofJson? : Json → Option Resource
  | .object members =>
    match ResourceParts.ofMembers? members with
    | some parts => parts.complete?
    | none => none
  | .list [kind, name] => do
    pure ⟨← Kind.ofJson? kind, ← name.asString?, [], []⟩
  | .list [kind, name, path] => do
    pure ⟨← Kind.ofJson? kind, ← name.asString?, ← pathOfJson? path, []⟩
  | .list [kind, name, path, children] => do
    pure ⟨← Kind.ofJson? kind, ← name.asString?, ← pathOfJson? path, ← Forest.ofJson? children⟩
  | _ => none

/-- The forest a value describes. -/
def Forest.ofJson? : Json → Option Forest
  | .list items => Forest.ofJsonList? items
  | _ => none

/-- The forest whose entries the values describe. -/
def Forest.ofJsonList? : List Json → Option Forest
  | [] => some []
  | j :: js =>
    match Resource.ofJson? j, Forest.ofJsonList? js with
    | some r, some rs => some (r :: rs)
    | _, _ => none

/-- The members of an entry, each of them at most once. -/
def ResourceParts.ofMembers? : List (String × Json) → Option ResourceParts
  | [] => some {}
  | (key, value) :: members =>
    match ResourceParts.ofMembers? members with
    | none => none
    | some parts =>
      match key with
      | "type" =>
        if parts.kind.isSome then none
        else (Kind.ofJson? value).map fun kind => { parts with kind := some kind }
      | "name" =>
        if parts.name.isSome then none
        else value.asString?.map fun name => { parts with name := some name }
      | "fullPath" =>
        if parts.path.isSome then none
        else (pathOfJson? value).map fun path => { parts with path := some path }
      | "children" =>
        if parts.children.isSome then none
        else (Forest.ofJson? value).map fun children => { parts with children := some children }
      | _ => some parts

end

end CatalogBrowser
