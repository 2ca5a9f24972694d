import CatalogBrowser.Proofs.CompletedPaths
import CatalogBrowser.Proofs.Documents
import CatalogBrowser.Proofs.InPlace

/-!
# Writing a catalog and reading it again

What a catalog writes for an entry is read as that entry, whatever is below
it: `Forest.ofJsonList?_toJsonList` says so for a forest, by induction along
children and siblings. So a snapshot that is written and read again differs
from the first one at most by having its paths completed twice.

It does not differ at all, since there is nothing to complete in a forest that
was completed (`Forest.Completed.completePaths_eq`).
-/

namespace CatalogBrowser

/-! ## Entries -/

/-- The members an entry is written with are read as what they were. -/
theorem Resource.ofJson?_toJson_of_children {r : Resource}
    (h : Forest.ofJsonList? (Forest.toJsonList r.children) = some r.children) :
    Resource.ofJson? r.toJson = some r := by
  obtain ⟨kind, name, path, children⟩ := r
  have hkind : Kind.ofJson? (.string kind.tag) = some kind := congrArg some (Kind.ofTag_tag kind)
  have hpath : pathOfJson? (.list (path.map .string)) = some path :=
    Json.pathOfJson?_eq_some_iff.2 (.list path)
  cases children with
  | nil =>
    simp [Resource.toJson, Resource.ofJson?, ResourceParts.ofMembers?, ResourceParts.complete?,
      Json.asString?, hkind, hpath]
  | cons child children =>
    simp [Resource.toJson, Resource.ofJson?, ResourceParts.ofMembers?, ResourceParts.complete?,
      Json.asString?, Forest.ofJson?, hkind, hpath, h]

/-- **A forest is read from what is written for it.** -/
theorem Forest.ofJsonList?_toJsonList (forest : Forest) :
    Forest.ofJsonList? (Forest.toJsonList forest) = some forest := by
  induction forest using Forest.induction with
  | nil => rfl
  | cons r rest ihc ihr =>
    rw [Forest.toJsonList, Forest.ofJsonList?, Resource.ofJson?_toJson_of_children ihc, ihr]

/-- **An entry is read from what is written for it.** -/
theorem Resource.ofJson?_toJson (r : Resource) : Resource.ofJson? r.toJson = some r :=
  Resource.ofJson?_toJson_of_children (Forest.ofJsonList?_toJsonList r.children)

/-- An entry is written under three keys, and its children, if it has any, under a
fourth. -/
theorem Resource.toJson_keys (r : Resource) :
    ∃ members, r.toJson = .object members ∧
      members.map (·.1)
        = ["type", "name", "fullPath"] ++ if r.children = [] then [] else ["children"] := by
  obtain ⟨kind, name, path, children⟩ := r
  cases children with
  | nil => exact ⟨_, rfl, rfl⟩
  | cons child children => exact ⟨_, rfl, rfl⟩

/-! ## Catalogs -/

namespace Catalog

variable {path text : String} {document : Json} {c : Catalog}

/-- **A catalog is a completed forest**, and not an empty one. -/
theorem completed_of_ofJson (h : ofJson path document = .ok c) :
    c.roots ≠ [] ∧ Forest.Completed c.roots := by
  obtain ⟨entries, -, hne, rfl⟩ := ofJson_eq_ok_iff.1 h
  refine ⟨?_, Forest.completed_completePaths [] entries⟩
  cases entries with
  | nil => exact absurd rfl hne
  | cons r rest => exact List.cons_ne_nil _ _

/-- What is written for a completed forest is the catalog of it. -/
theorem ofJson_toJsonList {roots : Forest} (hne : roots ≠ []) (h : Forest.Completed roots)
    (path : String) : ofJson path (.list (Forest.toJsonList roots)) = .ok ⟨path, roots⟩ := by
  rw [ofJson_eq_ok_iff]
  refine ⟨roots, Json.entries?_eq_some_iff.1 (Forest.ofJsonList?_toJsonList roots), hne, ?_⟩
  rw [h.completePaths_eq]

/-- **Writing and reading lose nothing**, neither of an entry, which is written under
three keys or four, nor of a catalog that was read from a value or from a text. -/
theorem reading_of_writing :
    (∀ r : Resource, Resource.ofJson? r.toJson = some r ∧
      ∃ members, r.toJson = .object members ∧
        members.map (·.1)
          = ["type", "name", "fullPath"] ++ if r.children = [] then [] else ["children"]) ∧
    ∀ c : Catalog,
      (∃ path, (∃ document, ofJson path document = .ok c) ∨
        ∃ text, ofText path text = .ok c) →
      ∀ path', ∃ c', ofJson path' (.list (Forest.toJsonList c.roots)) = .ok c' ∧
        c'.roots = c.roots ∧ c'.count = c.count := by
  refine ⟨fun r => ⟨Resource.ofJson?_toJson r, Resource.toJson_keys r⟩, ?_⟩
  rintro c ⟨path, hread⟩ path'
  -- A text that is accepted is the text of a value that is.
  have hjson : ∃ document, ofJson path document = .ok c := by
    obtain hjson | ⟨text, htext⟩ := hread
    · exact hjson
    · obtain ⟨document, -, hjson⟩ := exists_parse_of_ofText htext
      exact ⟨document, hjson⟩
  obtain ⟨document, hjson⟩ := hjson
  obtain ⟨hne, hcompleted⟩ := completed_of_ofJson hjson
  exact ⟨⟨path', c.roots⟩, ofJson_toJsonList hne hcompleted path', rfl, rfl⟩

/-- A text in which an entry has a type of its own, one has a path from elsewhere
and no name, and one has neither a path nor a name. -/
def untidyText : String :=
  "\x7b\"resources\":[\x7b\"type\":\"DASHBOARD\",\"name\":\"Sales\",\"children\":["
    ++ "[\"FILE\",\"\",[\"Old\",\"orders\"]],\x7b\"name\":\"\"\x7d]\x7d]\x7d"

/-- The catalog of the text. -/
def untidyCatalog : Catalog :=
  ⟨"untidy.json", [⟨.unknown, "Sales", ["Sales"],
    [⟨.file, "orders", ["Old", "orders"], []⟩, ⟨.unknown, "", ["Sales", ""], []⟩]⟩]⟩

theorem ofText_untidyText : ofText "untidy.json" untidyText = .ok untidyCatalog := by
  decide +kernel

/-- The untidy catalog is tidy once it was read. -/
theorem reading_of_writing_untidy :
    ofText "untidy.json" untidyText = .ok untidyCatalog ∧
      ∃ c', ofJson "tidy.json" (.list (Forest.toJsonList untidyCatalog.roots)) = .ok c' ∧
        c'.roots = untidyCatalog.roots ∧ c'.count = untidyCatalog.count :=
  ⟨ofText_untidyText,
    reading_of_writing.2 untidyCatalog ⟨_, .inr ⟨_, ofText_untidyText⟩⟩ "tidy.json"⟩

end Catalog

end CatalogBrowser
