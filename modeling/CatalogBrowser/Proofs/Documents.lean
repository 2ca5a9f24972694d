import CatalogBrowser.Catalog.Basic
import CatalogBrowser.Proofs.EntryGrammar
import CatalogBrowser.Proofs.WrittenValues

/-!
# Documents that are catalogs

A document is a catalog of the entries it lists (`Json.Lists`), as a list of
entries or as an object with such a list. It lists one forest at most, so what
it is read as is settled: a catalog of those entries with their paths
completed, or a fault, and which fault depends on whether it lists nothing or
does not list anything.

The same holds of a text and the value it is the text of. A text is read in
two steps, its value first and what is left behind it later, and with a value
that describes no catalog the second step is never reached. For a text that
has a value this makes no difference (`Catalog.ofText_of_parse`).
-/

namespace CatalogBrowser

/-! ## What a document lists -/

namespace Json

/-- **The entries a document lists**: those of a list, or those of the list an
object gives, once, for the key `resources`. -/
inductive Lists : Json → Forest → Prop where
  | bare {document : Json} {entries : Forest} (h : DescribesForest document entries) :
      Lists document entries
  | wrapped {members : List (String × Json)} {value : Json} {entries : Forest}
      (hvalue : valuesOf "resources" members = [value]) (h : DescribesForest value entries) :
      Lists (object members) entries

/-- A document is taken for a list of entries just if it is one in one of the two shapes
there are. -/
theorem entries?_eq_some_iff {document : Json} {entries : Forest} :
    Catalog.entries? document = some entries ↔ Lists document entries := by
  constructor
  · intro h
    unfold Catalog.entries? at h
    split at h
    · next members =>
      split at h
      · next value hmembers =>
        refine .wrapped ?_ (forestOfJson?_eq_some_iff.1 h)
        rw [valuesOf, hmembers]
        rfl
      · cases h
    · exact .bare (forestOfJson?_eq_some_iff.1 h)
  · rintro (h | ⟨hvalue, h⟩)
    · cases h with
      | list h => exact forestOfJson?_eq_some_iff.2 (.list h)
    · obtain ⟨⟨key, value'⟩, hmember, rfl⟩ := List.map_eq_singleton_iff.1 hvalue
      simp only [Catalog.entries?, hmember]
      exact forestOfJson?_eq_some_iff.2 h

/-- **A document lists one forest at most.** -/
theorem Lists.unique {document : Json} {entries entries' : Forest} (h : Lists document entries)
    (h' : Lists document entries') : entries = entries' :=
  Option.some.inj ((entries?_eq_some_iff.2 h).symm.trans (entries?_eq_some_iff.2 h'))

end Json

/-! ## What a document is read as -/

namespace Catalog

variable {path text : String} {document : Json} {c : Catalog}

/-- **A document that lists entries** is a catalog of them, their paths completed. -/
theorem ofJson_eq_ok_iff :
    ofJson path document = .ok c ↔
      ∃ entries, document.Lists entries ∧ entries ≠ [] ∧
        c = ⟨path, Forest.completePaths [] entries⟩ := by
  simp only [← Json.entries?_eq_some_iff]
  unfold ofJson
  cases entries? document with
  | none => simp
  | some entries => cases entries <;> simp [ofEntries, eq_comm]

/-- A document that lists nothing is an empty catalog, which is refused. -/
theorem ofJson_eq_empty_iff :
    ofJson path document = .error (.empty path) ↔ document.Lists [] := by
  rw [← Json.entries?_eq_some_iff]
  unfold ofJson
  cases entries? document with
  | none => simp
  | some entries => cases entries <;> simp [ofEntries]

/-- Any other document is refused as a whole. -/
theorem ofJson_eq_misshapen_iff :
    ofJson path document = .error (.snapshot .misshapen) ↔
      ∀ entries, ¬ document.Lists entries := by
  simp only [← Json.entries?_eq_some_iff]
  unfold ofJson
  cases entries? document with
  | none => simp
  | some entries => cases entries <;> simp [ofEntries]

/-! ## Texts -/

/-- A text has a value just if it begins with the value and ends behind it. -/
theorem parse_eq_ok_iff :
    Json.parse text = .ok document ↔
      ∃ rest, Catalog.document text = .ok (document, rest) ∧ checkEnd rest = .ok () := by
  unfold Json.parse Json.Reader.run Catalog.document
  cases StateT.run (Json.Reader.value Json.depthLimit) (Cursor.ofString text) with
  | error fault => simp [bind, Except.bind]
  | ok read =>
    obtain ⟨value, rest⟩ := read
    simp only [bind, Except.bind, Except.ok.injEq, Prod.mk.injEq, and_assoc, exists_and_left,
      exists_eq_left', checkEnd]
    obtain ⟨_ | _, _⟩ := (rest.span Json.Reader.isBlank).2
    all_goals simp [pure, Except.pure, throw, throwThe, MonadExceptOf.throw]

/-- **The text of a value is read as the value is.** -/
theorem ofText_of_parse (h : Json.parse text = .ok document) :
    ofText path text = ofJson path document := by
  obtain ⟨rest, hdoc, hend⟩ := parse_eq_ok_iff.1 h
  simp only [ofText, hdoc, bind, Except.bind, ofJson, hend]
  cases entries? document <;> rfl

/-- A text that is a catalog is the text of a value. -/
theorem exists_parse_of_ofText (h : ofText path text = .ok c) :
    ∃ document, Json.parse text = .ok document ∧ ofJson path document = .ok c := by
  have h' := h
  unfold ofText at h
  cases hdoc : Catalog.document text with
  | error fault => simp [hdoc, bind, Except.bind] at h
  | ok read =>
    obtain ⟨document, rest⟩ := read
    simp only [hdoc, bind, Except.bind] at h
    split at h
    · exact nomatch h
    · split at h
      · exact nomatch h
      · next hend =>
        have hparse := parse_eq_ok_iff.2 ⟨rest, hdoc, hend⟩
        exact ⟨document, hparse, ofText_of_parse hparse ▸ h'⟩

/-- **A text is the catalog of what its value lists**: of a forest that is not empty
it is the catalog, if its value lists nothing it is empty, and otherwise it is
misshapen. Every value that fits has a text, the one that is written for it. -/
theorem ofText_lists :
    (∀ document : Json, document.Fits Json.depthLimit →
      Json.parse document.write = .ok document) ∧
    ∀ (path text : String) (document : Json), Json.parse text = .ok document →
      (∀ c, ofText path text = .ok c ↔
        ∃ entries, document.Lists entries ∧ entries ≠ [] ∧
          c = ⟨path, Forest.completePaths [] entries⟩) ∧
      (ofText path text = .error (.empty path) ↔ document.Lists []) ∧
      (ofText path text = .error (.snapshot .misshapen) ↔
        ∀ entries, ¬ document.Lists entries) := by
  refine ⟨fun document h => Json.parse_write h, fun path text document h => ?_⟩
  rw [ofText_of_parse h]
  exact ⟨fun c => ofJson_eq_ok_iff, ofJson_eq_empty_iff, ofJson_eq_misshapen_iff⟩

/-- A document with a key that is not known, whose only entry is a list. -/
def versionedDocument : Json :=
  .object [("version", .number (.natural 2)),
    ("resources", .list [.list [.object [("FILE", .null)], .string "orders"]])]

theorem fits_versionedDocument : versionedDocument.Fits Json.depthLimit := by
  have hentry : ∀ i ∈ [Json.object [("FILE", .null)], .string "orders"], i.Fits 124 :=
    List.forall_mem_cons.2 ⟨.object (List.forall_mem_singleton.2 .null),
      List.forall_mem_singleton.2 (.string "orders")⟩
  have hlist := List.forall_mem_singleton.2 (Json.Fits.list hentry)
  exact .object (List.forall_mem_cons.2 ⟨.number (Json.Number.legible_natural (by decide)),
    List.forall_mem_singleton.2 (.list hlist)⟩)

/-- The text of the document is the catalog of that entry. -/
theorem ofText_lists_versioned :
    versionedDocument.Fits Json.depthLimit ∧
      Json.parse versionedDocument.write = .ok versionedDocument ∧
      ofText "orders.json" versionedDocument.write
        = .ok ⟨"orders.json", [⟨.file, "orders", ["orders"], []⟩]⟩ := by
  have hparse := ofText_lists.1 versionedDocument fits_versionedDocument
  have hlists : versionedDocument.Lists [⟨.file, "orders", [], []⟩] :=
    .wrapped (by simp [Json.valuesOf, Kind.tag]) (.list (.cons (.pair (.soleKey (.inl rfl))) .nil))
  refine ⟨fits_versionedDocument, hparse, ?_⟩
  exact ((ofText_lists.2 "orders.json" _ _ hparse).1 _).2 ⟨_, hlists, List.cons_ne_nil _ _, rfl⟩

end Catalog

end CatalogBrowser
