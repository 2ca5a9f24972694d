import CatalogBrowser.Catalog.Encoding
import Mathlib.Data.List.Forall2

/-!
# The grammar of entries

Which JSON values describe an entry, and which entry each of them describes,
said without a word about how they are read. The rules are those of
`Json.DescribesEntry` and `Json.DescribesForest`, which refer to each other:
an entry is an object or a short list, and a forest is a list of entries. A
key the grammar knows may stand in an object once at most, or exactly once
where there is no default; the values of the other keys are not looked at.

The reader takes a value apart from the outside in, and gives up at the first
part it cannot use. That it accepts just the values of the grammar, and
returns what they describe, is `Json.reads_iff_describes`, by
induction on the value. What the members of an object amount to is settled
before that, key by key (`ResourceParts.ofMembers?_eq`).
-/

namespace CatalogBrowser

namespace Json

/-! ## Parts of a value -/

/-- **The values right inside a value.** -/
def components : Json → List Json
  | list items => items
  | object members => members.map (·.2)
  | _ => []

/-- What is right inside a value is smaller than the value. This is what the induction on
values comes down to. -/
theorem sizeOf_lt_of_mem_components {i j : Json} (h : i ∈ j.components) :
    sizeOf i < sizeOf j := by
  cases j with
  | list items =>
    have hlt : sizeOf i < sizeOf items := List.sizeOf_lt_of_mem h
    rw [list.sizeOf_spec]
    omega
  | object members =>
    obtain ⟨⟨key, value⟩, hmem, rfl⟩ := List.mem_map.1 h
    have hlt : sizeOf (key, value) < sizeOf members := List.sizeOf_lt_of_mem hmem
    rw [Prod.mk.sizeOf_spec] at hlt
    show sizeOf value < _
    rw [object.sizeOf_spec]
    omega
  | _ => exact absurd h List.not_mem_nil

/-- **Induction along the values inside a value.** A value is nested through lists and
through members with keys, and both are the same to this induction. -/
@[elab_as_elim]
theorem induction {P : Json → Prop} (step : ∀ j, (∀ i ∈ j.components, P i) → P j) :
    ∀ j, P j := fun j =>
  step j fun i hi =>
    have := sizeOf_lt_of_mem_components hi
    induction step i
termination_by j => sizeOf j

/-- **The values an object gives for a key**, in their order. -/
def valuesOf (key : String) (members : List (String × Json)) : List Json :=
  (members.filter (·.1 = key)).map (·.2)

@[simp]
theorem valuesOf_nil (key : String) : valuesOf key [] = [] := rfl

/-- The first member counts if its key is the one that is asked for. Values keep their
order, so a key that comes twice is seen twice. -/
theorem valuesOf_cons (key key' : String) (value : Json) (members : List (String × Json)) :
    valuesOf key ((key', value) :: members)
      = if key' = key then value :: valuesOf key members else valuesOf key members := by
  by_cases h : key' = key <;> simp [valuesOf, h]

/-- A value under a key is right inside the object, whatever its key is, so the induction
reaches it. -/
theorem mem_components_of_mem_valuesOf {key : String} {value : Json}
    {members : List (String × Json)} (h : value ∈ valuesOf key members) :
    value ∈ (object members).components := by
  obtain ⟨member, hmem, rfl⟩ := List.mem_map.1 h
  exact List.mem_map_of_mem (List.mem_of_mem_filter hmem)

variable {α : Type}

/-- A list is read as a list whose items are what its items are read as. So what is said of
the reader of items carries over without another induction. -/
theorem mapM_eq_some_iff {read : Json → Option α} {items : List Json} {as : List α} :
    items.mapM read = some as ↔ List.Forall₂ (fun j a => read j = some a) items as := by
  induction items generalizing as with
  | nil => cases as <;> simp
  | cons j items ih =>
    rw [List.mapM_cons]
    constructor
    · intro h
      obtain ⟨a, ha, h⟩ := Option.bind_eq_some_iff.1 h
      obtain ⟨as', has, h⟩ := Option.bind_eq_some_iff.1 h
      obtain rfl : a :: as' = as := Option.some.inj h
      exact .cons ha (ih.1 has)
    · rintro (_ | ⟨ha, has⟩)
      rw [ha, ih.2 has]
      rfl

/-! ## Members that may be missing -/

/-- **What the values for a key amount to** where the key may be missing:
nothing without a value, what the value describes with one. More than one is
too many. -/
inductive Given (Describes : Json → α → Prop) : List Json → Option α → Prop where
  | missing : Given Describes [] none
  | once {value : Json} {a : α} (h : Describes value a) : Given Describes [value] (some a)

/-- What the values for a key are read as. -/
def given? (read : Json → Option α) : List Json → Option (Option α)
  | [] => some none
  | [value] => (read value).map some
  | _ => none

/-- The value in front is read if there is none behind it. The reader of objects goes from
behind, and gives up at the second value for a key. -/
theorem given?_cons (read : Json → Option α) (value : Json) (values : List Json) :
    given? read (value :: values)
      = (given? read values).bind fun known =>
          if known.isSome then none else (read value).map some := by
  match values with
  | [] => rfl
  | [other] => cases h : read other <;> simp [given?, h]
  | _ :: _ :: _ => rfl

/-- One more member adds to the values for its own key only. -/
theorem given?_valuesOf_cons (read : Json → Option α) (key key' : String) (value : Json)
    (members : List (String × Json)) :
    given? read (valuesOf key ((key', value) :: members))
      = if key' = key then
          (given? read (valuesOf key members)).bind fun known =>
            if known.isSome then none else (read value).map some
        else given? read (valuesOf key members) := by
  rw [valuesOf_cons]
  split
  · rw [given?_cons]
  · rfl

/-- Where a value is read as what it describes, so are the values for a key. The condition
is asked of the values that are there only, which is what the induction on values can give. -/
theorem given?_eq_some_iff {read : Json → Option α} {Describes : Json → α → Prop}
    {values : List Json} (h : ∀ value ∈ values, ∀ a, read value = some a ↔ Describes value a)
    {known : Option α} : given? read values = some known ↔ Given Describes values known := by
  match values with
  | [] =>
    constructor
    · rintro ⟨⟩
      exact .missing
    · rintro ⟨⟩
      rfl
  | [value] =>
    have hvalue := h value List.mem_cons_self
    constructor
    · intro hread
      obtain ⟨a, ha, rfl⟩ := Option.map_eq_some_iff.1 hread
      exact .once ((hvalue a).1 ha)
    · rintro (_ | ⟨hd⟩)
      rw [given?, (hvalue _).2 hd, Option.map_some]
  | _ :: _ :: _ =>
    constructor
    · intro hread
      exact nomatch hread
    · intro hgiven
      exact nomatch hgiven

end Json

/-! ## Types -/

/-- **The kind a tag names**: the kind with that tag, or `unknown` if no kind has
it. -/
def Kind.Named (tag : String) (k : Kind) : Prop :=
  k.tag = tag ∨ k = .unknown ∧ ∀ k' : Kind, k'.tag ≠ tag

/-- A tag that is not taken for an unknown one is the tag of the kind it is taken for. -/
theorem Kind.tag_ofTag {tag : String} (h : Kind.ofTag tag ≠ .unknown) :
    (Kind.ofTag tag).tag = tag := by
  revert h
  unfold Kind.ofTag
  split <;> simp [Kind.tag]

/-- **The kind of a tag**, said from the side of the kinds and without the table of tags:
the kind that is called so, or the kind of what nobody knows. -/
theorem Kind.ofTag_eq_iff {tag : String} {k : Kind} :
    Kind.ofTag tag = k ↔ Kind.Named tag k := by
  constructor
  · rintro rfl
    by_cases hk : ∃ k' : Kind, k'.tag = tag
    · obtain ⟨k', rfl⟩ := hk
      exact .inl (by rw [Kind.ofTag_tag])
    · have hk' : ∀ k' : Kind, k'.tag ≠ tag := fun k' htag => hk ⟨k', htag⟩
      refine .inr ⟨?_, hk'⟩
      by_contra hne
      exact hk' _ (Kind.tag_ofTag hne)
  · rintro (rfl | ⟨rfl, hk⟩)
    · exact Kind.ofTag_tag k
    · by_contra hne
      exact hk _ (Kind.tag_ofTag hne)

namespace Json

/-- **The kind a value describes**: a tag, or an object whose only member is a
tag with the value null. -/
inductive DescribesKind : Json → Kind → Prop where
  | tag {tag : String} {k : Kind} (h : k.Named tag) : DescribesKind (string tag) k
  | soleKey {tag : String} {k : Kind} (h : k.Named tag) :
      DescribesKind (object [(tag, null)]) k

/-- A kind is read from the two values that describe one. Both come down to a tag, and a
tag is never refused. -/
theorem kindOfJson?_eq_some_iff {j : Json} {k : Kind} :
    Kind.ofJson? j = some k ↔ DescribesKind j k := by
  constructor
  · intro h
    unfold Kind.ofJson? at h
    split at h
    · exact .tag (Kind.ofTag_eq_iff.1 (Option.some.inj h))
    · exact .soleKey (Kind.ofTag_eq_iff.1 (Option.some.inj h))
    · exact nomatch h
  · rintro (h | h)
    all_goals exact congrArg some (Kind.ofTag_eq_iff.2 h)

/-! ## Names and paths -/

/-- A string is read from a string only. Nothing else is turned into one. -/
theorem asString?_eq_some_iff {j : Json} {s : String} : j.asString? = some s ↔ j = string s := by
  cases j <;> simp [asString?]

/-- A name is given just if its key is there once, with a string for its value. -/
theorem given?_asString?_eq_some_iff {values : List Json} {name : String} :
    given? asString? values = some (some name) ↔ values = [string name] := by
  rw [given?_eq_some_iff fun _ _ _ => asString?_eq_some_iff]
  constructor
  · rintro (_ | rfl)
    rfl
  · rintro rfl
    exact .once rfl

/-- **The path a value describes**: the strings it lists. -/
inductive DescribesPath : Json → List String → Prop where
  | list (path : List String) : DescribesPath (list (path.map string)) path

/-- A list is read as strings just if it is a list of strings, all of them. -/
theorem mapM_asString?_eq_some_iff {items : List Json} {path : List String} :
    items.mapM asString? = some path ↔ items = path.map string := by
  rw [mapM_eq_some_iff]
  constructor
  · intro h
    induction h with
    | nil => rfl
    | cons hs _ ih => rw [asString?_eq_some_iff.1 hs, ih, List.map_cons]
  · rintro rfl
    exact List.forall₂_map_left_iff.2 (List.forall₂_same.2 fun _ _ => rfl)

/-- A path is read from the list of its segments, and an empty list is the empty path. -/
theorem pathOfJson?_eq_some_iff {j : Json} {path : List String} :
    pathOfJson? j = some path ↔ DescribesPath j path := by
  constructor
  · intro h
    unfold pathOfJson? at h
    split at h
    · rw [mapM_asString?_eq_some_iff.1 h]
      exact .list path
    · exact nomatch h
  · rintro ⟨⟩
    exact mapM_asString?_eq_some_iff.2 rfl

/-! ## Entries -/

mutual

/-- **The entry a value describes.** As an object, it gives its name once and
its other members once at most. As a list, it gives the members from the front
without their keys, two of them at least. -/
inductive DescribesEntry : Json → Resource → Prop where
  | object {members : List (String × Json)} {kind : Option Kind} {name : String}
      {path : Option (List String)} {children : Option Forest}
      (hkind : Given DescribesKind (valuesOf "type" members) kind)
      (hname : valuesOf "name" members = [string name])
      (hpath : Given DescribesPath (valuesOf "fullPath" members) path)
      (hchildren : Given DescribesForest (valuesOf "children" members) children) :
      DescribesEntry (object members)
        ⟨kind.getD .unknown, name, path.getD [], children.getD []⟩
  | pair {k : Json} {kind : Kind} {name : String} (hkind : DescribesKind k kind) :
      DescribesEntry (list [k, string name]) ⟨kind, name, [], []⟩
  | triple {k p : Json} {kind : Kind} {name : String} {path : List String}
      (hkind : DescribesKind k kind) (hpath : DescribesPath p path) :
      DescribesEntry (list [k, string name, p]) ⟨kind, name, path, []⟩
  | quadruple {k p c : Json} {kind : Kind} {name : String} {path : List String}
      {children : Forest} (hkind : DescribesKind k kind) (hpath : DescribesPath p path)
      (hchildren : DescribesForest c children) :
      DescribesEntry (list [k, string name, p, c]) ⟨kind, name, path, children⟩

/-- **The forest a value describes**: the entries its items describe. -/
inductive DescribesForest : Json → Forest → Prop where
  | list {items : List Json} {forest : Forest} (h : List.Forall₂ DescribesEntry items forest) :
      DescribesForest (list items) forest

end

end Json

/-! ## The reader -/

/-- **The members of an object**, key by key: none of them may come twice, and the
rest does not matter. -/
theorem ResourceParts.ofMembers?_eq (members : List (String × Json)) :
    ResourceParts.ofMembers? members = (do
      let kind ← Json.given? Kind.ofJson? (Json.valuesOf "type" members)
      let name ← Json.given? Json.asString? (Json.valuesOf "name" members)
      let path ← Json.given? pathOfJson? (Json.valuesOf "fullPath" members)
      let children ← Json.given? Forest.ofJson? (Json.valuesOf "children" members)
      pure ⟨kind, name, path, children⟩) := by
  induction members with
  | nil => rfl
  | cons member members ih =>
    obtain ⟨key, value⟩ := member
    rw [ResourceParts.ofMembers?, ih]
    simp only [Json.given?_valuesOf_cons]
    generalize Json.given? Kind.ofJson? (Json.valuesOf "type" members) = kind
    generalize Json.given? Json.asString? (Json.valuesOf "name" members) = name
    generalize Json.given? pathOfJson? (Json.valuesOf "fullPath" members) = path
    generalize Json.given? Forest.ofJson? (Json.valuesOf "children" members) = children
    -- Where the members behind this one are refused, so are all of them.
    obtain _ | kind := kind
    · simp
    obtain _ | name := name
    · simp
    obtain _ | path := path
    · simp
    obtain _ | children := children
    · simp
    simp only [Option.bind_eq_bind, Option.bind_some, Option.pure_def]
    split
    · cases kind <;> cases Kind.ofJson? value <;> simp
    · cases name <;> cases value.asString? <;> simp
    · cases path <;> cases pathOfJson? value <;> simp
    · cases children <;> cases Forest.ofJson? value <;> simp
    · next htype hname hpath hchildren =>
      rw [if_neg htype, if_neg hname, if_neg hpath, if_neg hchildren]
      rfl

/-- Entries are read one by one. The reader is one recursion over entries and lists of
entries, and this takes the lists out of it. -/
theorem Forest.ofJsonList?_eq_mapM (items : List Json) :
    Forest.ofJsonList? items = items.mapM Resource.ofJson? := by
  induction items with
  | nil => rfl
  | cons j items ih =>
    rw [Forest.ofJsonList?, List.mapM_cons, ih]
    cases Resource.ofJson? j <;> cases List.mapM Resource.ofJson? items <;> rfl

namespace Json

variable {r : Resource} {forest : Forest}

/-- An object is read by its members, as `ResourceParts.ofMembers?_eq` has it. What its
children are read as is the part the induction knows already. -/
theorem ofJson?_object_eq_some_iff {members : List (String × Json)}
    (ih : ∀ i ∈ (object members).components,
      ∀ forest, Forest.ofJson? i = some forest ↔ DescribesForest i forest) :
    Resource.ofJson? (object members) = some r ↔ DescribesEntry (object members) r := by
  have hkind {kind : Option Kind} :
      given? Kind.ofJson? (valuesOf "type" members) = some kind ↔
        Given DescribesKind (valuesOf "type" members) kind :=
    given?_eq_some_iff fun _ _ _ => kindOfJson?_eq_some_iff
  have hpath {path : Option (List String)} :
      given? pathOfJson? (valuesOf "fullPath" members) = some path ↔
        Given DescribesPath (valuesOf "fullPath" members) path :=
    given?_eq_some_iff fun _ _ _ => pathOfJson?_eq_some_iff
  have hchildren {children : Option Forest} :
      given? Forest.ofJson? (valuesOf "children" members) = some children ↔
        Given DescribesForest (valuesOf "children" members) children :=
    given?_eq_some_iff fun i hi => ih i (mem_components_of_mem_valuesOf hi)
  rw [Resource.ofJson?, ResourceParts.ofMembers?_eq]
  constructor
  · intro h
    split at h
    · next parts hparts =>
      simp only [Option.bind_eq_bind, Option.bind_eq_some_iff, Option.pure_def,
        Option.some.injEq] at hparts
      obtain ⟨kind, hk, name, hn, path, hp, children, hc, rfl⟩ := hparts
      obtain ⟨name, rfl, rfl⟩ := Option.map_eq_some_iff.1 h
      exact .object (hkind.1 hk) (given?_asString?_eq_some_iff.1 hn) (hpath.1 hp)
        (hchildren.1 hc)
    · exact nomatch h
  · rintro ⟨hk, hn, hp, hc⟩
    rw [hkind.2 hk, given?_asString?_eq_some_iff.2 hn, hpath.2 hp, hchildren.2 hc]
    rfl

/-- A list is read by its places: kind and name have to be there, path and children may be
missing from the end, and there may not be more than these four. -/
theorem ofJson?_list_eq_some_iff {items : List Json}
    (ih : ∀ i ∈ items, ∀ forest, Forest.ofJson? i = some forest ↔ DescribesForest i forest) :
    Resource.ofJson? (list items) = some r ↔ DescribesEntry (list items) r := by
  constructor
  · intro h
    match items with
    | [] | [_] | _ :: _ :: _ :: _ :: _ :: _ => simp [Resource.ofJson?] at h
    | [k, n] =>
      simp only [Resource.ofJson?, Option.bind_eq_bind, Option.bind_eq_some_iff, Option.pure_def,
        Option.some.injEq, asString?_eq_some_iff, kindOfJson?_eq_some_iff] at h
      obtain ⟨kind, hk, name, rfl, rfl⟩ := h
      exact .pair hk
    | [k, n, p] =>
      simp only [Resource.ofJson?, Option.bind_eq_bind, Option.bind_eq_some_iff, Option.pure_def,
        Option.some.injEq, asString?_eq_some_iff, kindOfJson?_eq_some_iff,
        pathOfJson?_eq_some_iff] at h
      obtain ⟨kind, hk, name, rfl, path, hp, rfl⟩ := h
      exact .triple hk hp
    | [k, n, p, c] =>
      simp only [Resource.ofJson?, Option.bind_eq_bind, Option.bind_eq_some_iff, Option.pure_def,
        Option.some.injEq, asString?_eq_some_iff, kindOfJson?_eq_some_iff,
        pathOfJson?_eq_some_iff, ih c (by simp)] at h
      obtain ⟨kind, hk, name, rfl, path, hp, children, hc, rfl⟩ := h
      exact .quadruple hk hp hc
  · rintro (_ | hk | ⟨hk, hp⟩ | ⟨hk, hp, hc⟩)
    · simp [Resource.ofJson?, kindOfJson?_eq_some_iff.2 hk, asString?]
    · simp [Resource.ofJson?, kindOfJson?_eq_some_iff.2 hk, asString?,
        pathOfJson?_eq_some_iff.2 hp]
    · simp [Resource.ofJson?, kindOfJson?_eq_some_iff.2 hk, asString?,
        pathOfJson?_eq_some_iff.2 hp, (ih _ (by simp) _).2 hc]

/-- A list of entries is read just if each of its items is, so that one item that does not
fit spoils the list. -/
theorem forestOfJson?_list_eq_some_iff {items : List Json}
    (ih : ∀ i ∈ items, ∀ r, Resource.ofJson? i = some r ↔ DescribesEntry i r) :
    Forest.ofJson? (list items) = some forest ↔ DescribesForest (list items) forest := by
  have hitems : List.Forall₂ (fun j r => Resource.ofJson? j = some r) items forest ↔
      List.Forall₂ DescribesEntry items forest := by
    simp only [List.forall₂_iff_zip]
    refine and_congr_right fun _ => ?_
    constructor <;> intro h i r hmem
    · exact (ih i (List.of_mem_zip hmem).1 r).1 (h hmem)
    · exact (ih i (List.of_mem_zip hmem).1 r).2 (h hmem)
  rw [Forest.ofJson?, Forest.ofJsonList?_eq_mapM, mapM_eq_some_iff, hitems]
  constructor
  · exact .list
  · rintro ⟨h⟩
    exact h

/-- **The reader keeps to the grammar**, for entries and for forests alike. The two are
said together because an entry holds a forest and a forest holds entries, so neither can be
proved before the other. -/
theorem reads_iff_describes (j : Json) :
    (∀ r, Resource.ofJson? j = some r ↔ DescribesEntry j r) ∧
      ∀ forest, Forest.ofJson? j = some forest ↔ DescribesForest j forest := by
  induction j using Json.induction with
  | step j ih =>
    -- Of lists and objects the parts decide. Nothing else describes anything.
    constructor
    · intro r
      cases j with
      | list items => exact ofJson?_list_eq_some_iff fun i hi => (ih i hi).2
      | object members => exact ofJson?_object_eq_some_iff fun i hi => (ih i hi).2
      | _ =>
        rw [Resource.ofJson?.eq_def]
        exact ⟨nofun, nofun⟩
    · intro forest
      cases j with
      | list items => exact forestOfJson?_list_eq_some_iff fun i hi => (ih i hi).1
      | _ =>
        rw [Forest.ofJson?.eq_def]
        exact ⟨nofun, nofun⟩

/-- **A forest is read just from the values that describe it.** A document comes down to
one such value, for the children of no entry. -/
theorem forestOfJson?_eq_some_iff {j : Json} :
    Forest.ofJson? j = some forest ↔ DescribesForest j forest := (reads_iff_describes j).2 forest

end Json

end CatalogBrowser
