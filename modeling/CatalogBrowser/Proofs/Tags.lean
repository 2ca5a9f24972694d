import CatalogBrowser.Command.Run
import CatalogBrowser.Proofs.CompletedPaths
import CatalogBrowser.Proofs.Documents
import CatalogBrowser.Proofs.Rows

/-!
# Tags

A tag is met with in several places. An entry of a document carries one, an entry
that is written gets one, and on the command line a tag stands by itself and is told
how its entries are treated. That these places agree on every tag, also on those
that no kind has, is `Kind.tag_treated_alike`.

For the document this needs more than that its types are read as tags are. A tag is
found at a place of the document, inside values of two shapes, and the entry that
carries it stands in the catalog after paths and names have been completed. So the
document is walked by the same positions as the catalog (`Json.entryAt?`), and at
each of them both hold an entry or neither does (`Catalog.rel_entryAt?`).
-/

namespace CatalogBrowser

/-! ## How tags are spelled -/

namespace Kind

/-- **The name of a kind**, its words run together. -/
def wholeName : Kind → String
  | source => "Source"
  | space => "Space"
  | home => "Home"
  | folder => "Folder"
  | virtualDataset => "VirtualDataset"
  | physicalDataset => "PhysicalDataset"
  | sourceFile => "PhysicalDatasetSourceFile"
  | sourceFolder => "PhysicalDatasetSourceFolder"
  | homeFile => "PhysicalDatasetHomeFile"
  | homeFolder => "PhysicalDatasetHomeFolder"
  | file => "File"
  | function => "Function"
  | unknown => "Unknown"

/-- A name in capitals, with an underscore before every word but the first. -/
def spelled (name : String) : String :=
  match name.toList with
  | [] => ""
  | c :: cs =>
    String.ofList (c.toUpper :: cs.flatMap fun d => if d.isUpper then ['_', d] else [d.toUpper])

/-- **Tags are spelled by one rule.** -/
theorem tag_eq_spelled (k : Kind) : k.tag = spelled k.wholeName := by
  cases k <;> decide

end Kind

/-! ## Tags in a document -/

namespace Json

/-- **The type a value gives for an entry**, under its key or in front. -/
def typeValue? : Json → Option Json
  | object members => (valuesOf "type" members).head?
  | list items => items.head?
  | _ => none

/-- The items of the only value, if it is a list. -/
def onlyItems : List Json → List Json
  | [list items] => items
  | _ => []

/-- The values for the entries right below the one a value describes. -/
def childValues : Json → List Json
  | object members => onlyItems (valuesOf "children" members)
  | list items => onlyItems (items.drop 3)
  | _ => []

/-- The values for the entries a document lists. -/
def entryValues : Json → List Json
  | list items => items
  | object members => onlyItems (valuesOf "resources" members)
  | _ => []

/-- The value for an entry at a position, counted along some values for entries. -/
def valueAt? (values : List Json) : List Nat → Option Json
  | [] => none
  | [i] => values[i]?
  | i :: j :: pos => values[i]?.bind fun value => valueAt? value.childValues (j :: pos)

/-- **The value for an entry at a position of a document.** -/
def entryAt? (document : Json) (pos : List Nat) : Option Json := valueAt? document.entryValues pos

variable {j : Json} {r : Resource}

/-- The children of an entry are described by the items of the one value that its key has. -/
theorem forall₂_onlyItems {values : List Json} {children : Option Forest}
    (h : Given DescribesForest values children) :
    List.Forall₂ DescribesEntry (onlyItems values) (children.getD []) := by
  cases h with
  | missing => exact .nil
  | once h =>
    cases h with
    | list h => exact h

/-- The values below a value describe the children of its entry. -/
theorem DescribesEntry.forall₂_childValues (h : DescribesEntry j r) :
    List.Forall₂ DescribesEntry j.childValues r.children := by
  cases h with
  | object _ _ _ hchildren => exact forall₂_onlyItems hchildren
  | pair _ => exact .nil
  | triple _ _ => exact .nil
  | quadruple _ _ hchildren => exact forall₂_onlyItems (.once hchildren)

/-- The entries of a document are described by its items, whether they stand in a list or
under a key. -/
theorem Lists.forall₂_entryValues {document : Json} {entries : Forest}
    (h : Lists document entries) :
    List.Forall₂ DescribesEntry document.entryValues entries := by
  cases h with
  | bare h =>
    cases h with
    | list h => exact h
  | wrapped hvalue h =>
    show List.Forall₂ _ (onlyItems _) _
    rw [hvalue]
    exact forall₂_onlyItems (.once h)

/-- A tag describes one kind, which is the one that the command line takes it for. -/
theorem DescribesKind.eq_ofTag {tag : String} {k : Kind} (h : DescribesKind (string tag) k) :
    k = Kind.ofTag tag :=
  (Option.some.inj (kindOfJson?_eq_some_iff.2 h)).symm

/-- The same where the type may be missing, in which case there is no tag either. -/
theorem Given.kind_eq_ofTag {values : List Json} {kind : Option Kind} {tag : String}
    (h : Given DescribesKind values kind) (htag : values.head? = some (string tag)) :
    kind.getD .unknown = Kind.ofTag tag := by
  cases h with
  | missing => exact nomatch htag
  | once h =>
    obtain rfl := Option.some.inj htag
    exact h.eq_ofTag

/-- An entry whose type is a tag is of the kind the tag names. -/
theorem DescribesEntry.kind_eq_ofTag (h : DescribesEntry j r) {tag : String}
    (htag : j.typeValue? = some (string tag)) : r.kind = Kind.ofTag tag := by
  cases h with
  | object hkind _ _ _ => exact hkind.kind_eq_ofTag htag
  | pair hkind | triple hkind _ | quadruple hkind _ _ =>
    obtain rfl := Option.some.inj htag
    exact hkind.eq_ofTag

/-- Lists that are related entry by entry have related entries at each place. -/
theorem rel_getElem? {α β : Type} {R : α → β → Prop} {as : List α} {bs : List β}
    (h : List.Forall₂ R as bs) (i : Nat) : Option.Rel R as[i]? bs[i]? := by
  induction h generalizing i with
  | nil => exact .none
  | cons hr _ ih =>
    cases i with
    | zero => exact .some hr
    | succ i => exact ih i

/-- **Values and the entries they describe are at the same positions.** -/
theorem rel_valueAt? {values : List Json} {forest : Forest}
    (h : List.Forall₂ DescribesEntry values forest) (pos : List Nat) :
    Option.Rel DescribesEntry (valueAt? values pos) (forest.at? pos) := by
  induction pos generalizing values forest with
  | nil =>
    rw [Forest.at?_nil]
    exact .none
  | cons i pos ih =>
    have hi := rel_getElem? h i
    cases pos with
    | nil => exact hi
    | cons j pos =>
      unfold valueAt? Forest.at?
      generalize values[i]? = value, forest[i]? = r at hi
      cases hi with
      | none => exact .none
      | some hr => exact ih hr.forall₂_childValues

end Json

namespace Catalog

/-- **An entry of a document is in its place in the catalog**, with the kind its tag
names, and there are no others in the catalog. -/
theorem rel_entryAt? {path : String} {document : Json} {c : Catalog}
    (h : ofJson path document = .ok c) (tag : String) (pos : List Nat) :
    Option.Rel (fun j r => j.typeValue? = some (.string tag) → r.kind = Kind.ofTag tag)
      (document.entryAt? pos) (c.roots.at? pos) := by
  obtain ⟨entries, hlists, -, rfl⟩ := ofJson_eq_ok_iff.1 h
  have hread : Option.Rel Json.DescribesEntry (document.entryAt? pos) (entries.at? pos) :=
    Json.rel_valueAt? hlists.forall₂_entryValues pos
  have hcompleted := Forest.rel_completePaths [] entries pos
  generalize document.entryAt? pos = j, entries.at? pos = r,
    (Forest.completePaths [] entries).at? pos = r' at hread hcompleted ⊢
  cases hread with
  | none =>
    cases hcompleted
    exact .none
  | some hj =>
    cases hcompleted with
    | some hr => exact .some fun htag => hr.kind_eq.trans (hj.kind_eq_ofTag htag)

/-- A document with one entry of which only the type and the name are given. -/
def soleEntry (tag name : String) : Json :=
  .list [.object [("type", .string tag), ("name", .string name)]]

/-- **A document of one entry is read whatever its tag is.** -/
theorem ofText_write_soleEntry (path tag name : String) :
    ofText path (soleEntry tag name).write
      = .ok ⟨path, [⟨Kind.ofTag tag, name, [name], []⟩]⟩ := by
  have hfits : (soleEntry tag name).Fits Json.depthLimit := by
    refine .list (List.forall_mem_singleton.2 (.object (List.forall_mem_cons.2 ⟨.string tag, ?_⟩)))
    exact List.forall_mem_singleton.2 (.string name)
  rw [ofText_of_parse (Json.parse_write hfits), ofJson_eq_ok_iff]
  refine ⟨[⟨Kind.ofTag tag, name, [], []⟩], Json.entries?_eq_some_iff.1 rfl,
    List.cons_ne_nil _ _, ?_⟩
  have hname : completedName name [name] = name := by
    unfold completedName
    split <;> rfl
  show _ = (⟨path, [⟨_, completedName name [name], [name], []⟩]⟩ : Catalog)
  rw [hname]

end Catalog

/-! ## Tags in what is written -/

/-- An entry is written with the tag of its kind. -/
theorem Resource.typeValue?_toJson (r : Resource) :
    r.toJson.typeValue? = some (.string r.kind.tag) := by
  cases r
  simp [Resource.toJson, Json.typeValue?, Json.valuesOf_cons]

/-- A row is written with the tag of the kind of its entry. -/
theorem Listing.typeValue?_rowJson (row : Row) :
    (Listing.rowJson row).typeValue? = some (.string row.resource.kind.tag) := by
  simp [Listing.rowJson, Json.typeValue?, Json.valuesOf_cons]

/-! ## Tags on the command line -/

/-- The word for a class, filled up with spaces to a column of ten characters. -/
def Listing.classColumn : Kind.Class → String
  | .container => "container "
  | .dataset => "dataset   "
  | .leaf => "leaf      "

/-- **The line of a kind whose entries are expandable or not**: the tag in a column of 32
characters, the word for the class, and whether the entries are expandable. -/
def Listing.treatment (k : Kind) (expandable : Bool) : String :=
  k.tag ++ String.ofList (List.replicate (32 - k.tag.length) ' ') ++ " "
    ++ classColumn k.cls ++ (if expandable then " expandable=true" else " expandable=false")

/-- The line is printed with these words. That an entry of its own stands for the tag
makes no difference, since neither its name nor its path is in the line. -/
theorem Listing.kindLine_eq_treatment (datasetsAreLeaves : Bool) (tag : String) :
    kindLine datasetsAreLeaves tag = treatment (Kind.ofTag tag)
      ((Resource.atPath (Kind.ofTag tag) [tag]).expandable datasetsAreLeaves) := by
  have hclass (cls : Kind.Class) : Text.padRight 10 cls.name = classColumn cls := by
    cases cls <;> decide
  unfold kindLine treatment
  show Text.padRight 32 (Kind.ofTag tag).tag ++ " " ++ Text.padRight 10 (Kind.ofTag tag).cls.name
    ++ " expandable=" ++ _ = _
  rw [hclass, Text.padRight]
  cases (Resource.atPath (Kind.ofTag tag) [tag]).expandable datasetsAreLeaves <;>
    simp [String.append_assoc]

/-- **The command line prints one line for a tag**, whatever the settings and the files
are. -/
theorem Command.runWith_classify {m : Type → Type} [Monad m] (disk : Disk m)
    (around : Surroundings) (c : Config) (tag : String) (datasetsAreLeaves : Bool) :
    runWith disk around c (.classify [tag] datasetsAreLeaves)
      = pure (.printed (Listing.treatment (Kind.ofTag tag)
          ((Resource.atPath (Kind.ofTag tag) [tag]).expandable datasetsAreLeaves) ++ "\n")) := by
  have hline : String.join [Listing.kindLine datasetsAreLeaves tag ++ "\n"]
      = Listing.kindLine datasetsAreLeaves tag ++ "\n" := String.empty_append
  show pure (Outcome.printed (String.join [Listing.kindLine datasetsAreLeaves tag ++ "\n"])) = _
  rw [hline, Listing.kindLine_eq_treatment]

namespace Kind

/-- **A tag means the same wherever it is met with**: the kind with the tag, or
`unknown` if no kind has it, where each tag spells the name of its kind. An entry of
a document with the tag for its type is of that kind in the catalog, at the same
position, and a document of one such entry is always read. What is of the kind is
written with the tag of the kind, in a catalog and in a listing. And the line that
the command line prints for the tag gives the class of the kind, and whether the
rows of its entries can be opened, the same for all of them. -/
theorem tag_treated_alike (tag : String) (datasetsAreLeaves : Bool) :
    let k := ofTag tag
    (∀ t : Kind, t.tag = tag → k = t) ∧ ((∀ t : Kind, t.tag ≠ tag) → k = unknown) ∧
    (∀ t : Kind, t.tag = spelled t.wholeName) ∧
    (∀ path text c, Catalog.ofText path text = .ok c →
      ∃ document, Json.parse text = .ok document ∧
        ∀ pos, Option.Rel (fun j r => j.typeValue? = some (.string tag) → r.kind = k)
          (document.entryAt? pos) (c.roots.at? pos)) ∧
    (∀ path name, Catalog.ofText path (Catalog.soleEntry tag name).write
      = .ok ⟨path, [⟨k, name, [name], []⟩]⟩) ∧
    (∀ r : Resource, r.kind = k → r.toJson.typeValue? = some (.string k.tag)) ∧
    (∀ row : Row, row.resource.kind = k →
      (Listing.rowJson row).typeValue? = some (.string k.tag)) ∧
    ∃ expandable : Bool,
      (∀ (m : Type → Type) [Monad m] (disk : Disk m) (around : Surroundings) (c : Config),
        Command.runWith disk around c (.classify [tag] datasetsAreLeaves)
          = pure (.printed (Listing.treatment k expandable ++ "\n"))) ∧
      ∀ (s : TreeState) (options : ViewOptions) (roots : Forest),
        options.datasetsAreLeaves = datasetsAreLeaves →
        ∀ row ∈ s.visibleRows options roots, row.resource.kind = k →
          row.resource.kind.cls = k.cls ∧ row.expandable = expandable := by
  intro k
  refine ⟨fun t ht => ofTag_eq_iff.2 (.inl ht), fun hk => ofTag_eq_iff.2 (.inr ⟨rfl, hk⟩),
    tag_eq_spelled, fun path text c hread => ?_,
    fun path name => Catalog.ofText_write_soleEntry path tag name, fun r hr => ?_,
    fun row hrow => ?_, (Resource.atPath k [tag]).expandable datasetsAreLeaves,
    fun m _ disk around c => Command.runWith_classify disk around c tag datasetsAreLeaves, ?_⟩
  · obtain ⟨document, hparse, hjson⟩ := Catalog.exists_parse_of_ofText hread
    exact ⟨document, hparse, Catalog.rel_entryAt? hjson tag⟩
  · rw [← hr, Resource.typeValue?_toJson]
  · rw [← hrow, Listing.typeValue?_rowJson]
  · rintro s options roots rfl row hrow hkind
    refine ⟨congrArg cls hkind, ?_⟩
    rw [TreeState.expandable_of_mem_visibleRows hrow, Resource.expandable, hkind]
    rfl

/-- A document with a view and below it an entry with a type that is almost the tag of
a view. -/
def miscasedViews : Json :=
  .list [.object [("type", .string "VIRTUAL_DATASET"), ("name", .string "orders"),
    ("children", .list [.list [.string "Virtual_Dataset", .string "weekly"]])]]

theorem fits_miscasedViews : miscasedViews.Fits Json.depthLimit := by
  have hweekly : Json.Fits 124 (.list [.string "Virtual_Dataset", .string "weekly"]) :=
    .list (List.forall_mem_cons.2 ⟨.string _, List.forall_mem_singleton.2 (.string _)⟩)
  have horders : Json.Fits 126 (.object [("type", .string "VIRTUAL_DATASET"),
      ("name", .string "orders"),
      ("children", .list [.list [.string "Virtual_Dataset", .string "weekly"]])]) :=
    .object (List.forall_mem_cons.2 ⟨.string _, List.forall_mem_cons.2 ⟨.string _,
      List.forall_mem_singleton.2 (.list (List.forall_mem_singleton.2 hweekly))⟩⟩)
  exact .list (List.forall_mem_singleton.2 horders)

/-- Nothing can be opened where the tag is misspelt, neither by the line nor by the
row. -/
theorem tag_treated_alike_miscased :
    let weekly : Resource := ⟨.unknown, "weekly", ["orders", "weekly"], []⟩
    let c : Catalog := ⟨"views.json", [⟨.virtualDataset, "orders", ["orders"], [weekly]⟩]⟩
    let s : TreeState := { TreeState.initial with expanded := IdSet.empty.insert "orders" }
    (∀ t : Kind, t.tag ≠ "Virtual_Dataset") ∧ ofTag "Virtual_Dataset" = unknown ∧
    Catalog.ofText c.path miscasedViews.write = .ok c ∧
    (∃ j, miscasedViews.entryAt? [0, 0] = some j ∧
      j.typeValue? = some (.string "Virtual_Dataset") ∧
      ∃ r, c.roots.at? [0, 0] = some r ∧ r.kind = ofTag "Virtual_Dataset") ∧
    s.row {} 1 weekly ∈ s.visibleRows {} c.roots ∧
    (s.row {} 1 weekly).expandable = false ∧
    ∀ around config, Command.runWith FileTree.disk around config
      (.classify ["Virtual_Dataset"] false)
        = pure (.printed "UNKNOWN                          leaf       expandable=false\n") := by
  intro weekly c s
  have hmisspelt : ∀ t : Kind, t.tag ≠ "Virtual_Dataset" := by
    intro t
    cases t <;> decide
  have hparse : Json.parse miscasedViews.write = .ok miscasedViews :=
    Json.parse_write fits_miscasedViews
  have hread : Catalog.ofText c.path miscasedViews.write = .ok c := by
    rw [Catalog.ofText_of_parse hparse, Catalog.ofJson_eq_ok_iff]
    exact ⟨_, Json.entries?_eq_some_iff.1 rfl, List.cons_ne_nil _ _, rfl⟩
  obtain ⟨-, hunknown, -, hplaced, -, -, -, expandable, hline, hrows⟩ :=
    tag_treated_alike "Virtual_Dataset" false
  obtain ⟨document, hparse', hpos⟩ := hplaced _ _ _ hread
  obtain rfl : miscasedViews = document := Except.ok.inj (hparse.symm.trans hparse')
  have hrow : s.row {} 1 weekly ∈ s.visibleRows {} c.roots :=
    List.mem_of_getElem? (i := 1) rfl
  refine ⟨hmisspelt, hunknown hmisspelt, hread, ⟨_, rfl, rfl, weekly, rfl, ?_⟩, hrow, rfl,
    fun around config => ?_⟩
  · cases hpos [0, 0] with
    | some hkind => exact hkind rfl
  · have hexpandable := (hrows s {} c.roots rfl _ hrow rfl).2
    have hprinted : Listing.treatment .unknown false ++ "\n"
        = "UNKNOWN                          leaf       expandable=false\n" := by decide
    rw [hline, ← hexpandable, hunknown hmisspelt]
    exact congrArg (fun text => pure (Outcome.printed text)) hprinted

end Kind

end CatalogBrowser
