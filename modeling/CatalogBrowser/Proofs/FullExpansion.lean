import CatalogBrowser.Command.Outcome
import CatalogBrowser.Proofs.DerivedPaths
import CatalogBrowser.Proofs.LazyLoading
import CatalogBrowser.Proofs.OpenRows

/-!
# Opening everything by hand

A listing can open all entries at once, in the catalog as a whole. In the
browser the same tree can be reached by hand, opening the highlighted entry
and going on to the next row until there is none. If the catalog derives
its paths from names that no two siblings share, both give the same rows
(`Browser.faces_rows_enterDown`).

The two meet row by row. Say `n` rows of the full listing have been passed.
Then the entries that are open in the browser are those of these `n` rows
that can be opened (`Browser.OpenUpTo`). Two states that open the same
entries among the first `n` rows have the same first `n` rows, and since
the next row only depends on what is open before it, one more. So the
highlight is on the row of the listing that comes next, which is still
closed, because no other row has its id.
-/

namespace CatalogBrowser

/-- **The rows of a catalog with everything open.** -/
abbrev fullListing (c : Catalog) (config : Config) : List Row :=
  Listing.rows c config.viewOptions true

/-- The full listing consists of the rows of one state of the tree. -/
theorem fullListing_eq (c : Catalog) (config : Config) :
    fullListing c config
      = Forest.rows (Forest.expandAll config.viewOptions.datasetsAreLeaves c.roots .initial)
          config.viewOptions 0 c.roots := rfl

/-- **The line of a row in a listing**, for programs or for readers. It tells nothing of the
row but what can be seen of it. -/
def RowFace.line (asJson : Bool) (face : RowFace) : String :=
  if asJson then
    (Json.object [("depth", .number (.natural face.depth)),
      ("expandable", .boolean face.expandable), ("id", .string face.id),
      ("type", .string face.kind.tag)]).write
  else
    String.join (List.replicate face.depth "  ") ++ (if face.expandable then "+ " else "- ")
      ++ face.name ++ " [" ++ face.kind.title ++ "]"

/-- **A listing is printed one line for each row**, in the order of the rows. -/
theorem Listing.treeLines_eq (c : Catalog) (options : ViewOptions) (opensAll asJson : Bool) :
    treeLines c options opensAll asJson
      = ((rows c options opensAll).map Row.face).map (RowFace.line asJson) := by
  rw [List.map_map, treeLines]
  refine List.map_congr_left fun row _ => ?_
  cases asJson with
  | true => rfl
  | false =>
    have hsign : (if row.expandable then "+" else "-") ++ " "
        = if row.expandable then "+ " else "- " := by
      cases row.expandable <;> decide
    show Text.repeated row.depth "  " ++ (if row.expandable then "+" else "-") ++ " "
      ++ row.resource.name ++ " [" ++ row.resource.kind.title ++ "]" = _
    rw [@String.append_assoc (Text.repeated row.depth "  "), hsign]
    rfl

namespace Browser

/-- **Opening the highlighted entry and going on to the next row**, `n` times. -/
def enterDown : Nat → List Key
  | 0 => []
  | n + 1 => enterDown n ++ [⟨.enter, false⟩, ⟨.down, false⟩]

/-- **The entries of the first `n` rows of the full listing are open**, so far as
they can be, and no others are. -/
structure OpenUpTo (c : Catalog) (config : Config) (n : Nat) (b : Browser) : Prop where
  /-- The browser holds what was loaded. -/
  lazily : ∃ loaded, Lazy c loaded b
  /-- It shows all entries, as the settings say. -/
  options_eq : b.options = config.viewOptions
  /-- What is open was passed. -/
  mem_expanded : ∀ id, id ∈ b.tree.expanded ↔
    ∃ row ∈ (fullListing c config).take n, row.expandable = true ∧ row.id = id
  /-- Nothing carries a star. -/
  starred_eq : b.tree.starred = .empty

variable {c : Catalog} {config : Config} {n : Nat} {b : Browser}

/-! ## Selecting, when everything can be loaded -/

/-- **A closed entry is opened if it can be**, when children can always be loaded. -/
theorem Turned.mem_expanded {row : Row} {b' : Browser} (h : Turned b row b')
    (hclosed : row.expanded = false)
    (hload : ∀ r ∈ Forest.nodes b.roots, ∃ children,
      b.catalog.loadChildren r.path = .ok children) (id : String) :
    id ∈ b'.tree.expanded ↔ id ∈ b.tree.expanded ∨ (row.expandable = true ∧ row.id = id) := by
  have hinsert : ∀ hable : row.expandable = true,
      id ∈ b.tree.expanded.insert row.id ↔
        id ∈ b.tree.expanded ∨ (row.expandable = true ∧ row.id = id) := by
    intro hable
    rw [IdSet.mem_insert, or_comm, eq_comm, and_iff_right hable]
  cases h with
  | leaf hleaf => simp [hleaf]
  | closed hopen => exact absurd (hopen.symm.trans hclosed) (by decide)
  | opened hable => exact hinsert hable
  | loaded hable => exact hinsert hable
  | refused _ _ _ hr hfault =>
    obtain ⟨children, hok⟩ := hload _ (Forest.mem_of_lookup hr).1
    exact nomatch hok.symm.trans hfault

/-- Whatever was loaded has children that can be loaded. -/
theorem Lazy.exists_loadChildren {loaded : IdSet} (h : Lazy c loaded b)
    (hd : Forest.Derived [] c.roots) (hs : Forest.SiblingsDistinct c.roots) :
    ∀ r ∈ Forest.nodes b.roots, ∃ children, b.catalog.loadChildren r.path = .ok children := by
  intro r hr
  obtain ⟨t, ht, rfl⟩ := h.exists_of_mem_nodes hr
  rw [h.catalog_eq, Resource.path_trim]
  exact ⟨_, Catalog.loadChildren_of_derived hd hs ht⟩

namespace OpenUpTo

/-- **As far as entries are open, the rows are those of the full listing**, and
one row further. -/
theorem map_place_take (h : OpenUpTo c config n b) :
    ((fullListing c config).take (n + 1)).map Row.place
      = ((Forest.rows b.tree config.viewOptions 0 c.roots).take (n + 1)).map Row.place := by
  rw [fullListing_eq]
  refine (Forest.agreeUntil_rows _ b.tree config.viewOptions 0 c.roots).map_place_take ?_
  intro row hrow hable
  -- A row that was passed is open on either side.
  refine iff_of_true (Forest.mem_expanded_of_mem_rows (fun _ hid => hid)
    (List.mem_of_mem_take hrow) hable) ?_
  exact (h.mem_expanded row.id).2 ⟨row, hrow, hable, rfl⟩

/-- The rows of the browser say what the rows of the catalog say. -/
theorem faces_rows (h : OpenUpTo c config n b) (hd : Forest.Distinct c.roots) :
    b.rows.map Row.face
      = (Forest.rows b.tree config.viewOptions 0 c.roots).map Row.face := by
  obtain ⟨loaded, hlazy⟩ := h.lazily
  rw [hlazy.faces_rows hd, h.options_eq]
  rfl

/-- Up to the next row, there are as many rows on either side. -/
theorem min_length (h : OpenUpTo c config n b) (hd : Forest.Distinct c.roots) :
    min (n + 1) b.rows.length
      = min (n + 1) (fullListing c config).length := by
  have hplaces := congrArg List.length h.map_place_take
  have hfaces := congrArg List.length (h.faces_rows hd)
  simp only [List.length_map, List.length_take] at hplaces hfaces
  rw [hplaces, hfaces]

/-- The next row of the listing shows an entry that is closed. -/
theorem not_mem_expanded (h : OpenUpTo c config n b) (hd : Forest.Distinct c.roots)
    (hn : n < (fullListing c config).length) :
    (fullListing c config)[n].id ∉ b.tree.expanded := by
  have hnodup : ((fullListing c config).map (·.resource.path)).Nodup := by
    rw [fullListing_eq]
    exact (Forest.paths_rows_sublist _ _ _ _).nodup hd
  intro hmem
  obtain ⟨row, hrow, -, hid⟩ := (h.mem_expanded _).1 hmem
  exact ne_of_mem_take hnodup (List.getElem?_eq_getElem hn) hrow (Path.id_injective hid)

/-- **The highlight is on the next row of the listing**, which is closed. -/
theorem exists_highlighted? (h : OpenUpTo c config n b) (hd : Forest.Distinct c.roots)
    (hcursor : b.cursor = n) (hn : n < (fullListing c config).length) :
    ∃ row, b.highlighted? = some row ∧
      row.id = (fullListing c config)[n].id ∧
      row.expandable = (fullListing c config)[n].expandable ∧
      row.expanded = false := by
  have hat : ((fullListing c config).take (n + 1))[n]? = some (fullListing c config)[n] := by
    rw [List.getElem?_take_of_lt (Nat.lt_succ_self n), List.getElem?_eq_getElem hn]
  obtain ⟨shown, hshown, hsame⟩ := exists_getElem?_of_map_eq h.map_place_take hat
  rw [List.getElem?_take_of_lt (Nat.lt_succ_self n)] at hshown
  obtain ⟨row, hrow, hrowface⟩ := exists_getElem?_of_map_eq (h.faces_rows hd).symm hshown
  have hmem := List.mem_of_getElem? hshown
  have hlisted : (fullListing c config)[n] ∈ fullListing c config := List.getElem_mem hn
  -- The two rows show the same entry, so that they agree in what it is.
  have hresource : shown.resource = (fullListing c config)[n].resource :=
    congrArg Prod.snd hsame
  have hid : shown.id = (fullListing c config)[n].id := congrArg Resource.id hresource
  refine ⟨row, ?_, ?_, ?_, ?_⟩
  · rw [highlighted?, hcursor]
    exact hrow
  · exact (congrArg RowFace.id hrowface).trans hid
  · rw [Forest.expandable_of_mem_rows hlisted, ← hresource]
    exact (congrArg RowFace.expandable hrowface).trans (Forest.expandable_of_mem_rows hmem)
  · have hclosed : shown.expanded = false := by
      by_contra hopen
      rw [Bool.not_eq_false, Forest.expanded_iff_of_mem_rows hmem, hid] at hopen
      exact h.not_mem_expanded hd hn hopen.2
    exact (congrArg RowFace.expanded hrowface).trans hclosed

/-- Where the highlight is and which page is shown does not matter. -/
theorem congr (h : OpenUpTo c config n b) {b' : Browser} (hcatalog : b'.catalog = b.catalog)
    (hroots : b'.roots = b.roots) (htree : b'.tree = b.tree)
    (hoptions : b'.options = b.options) : OpenUpTo c config n b' where
  lazily := by
    obtain ⟨loaded, hlazy⟩ := h.lazily
    exact ⟨loaded, hlazy.congr hcatalog hroots (fun _ hid => htree ▸ hid)
      (congrArg TreeState.starred htree) (congrArg TreeState.loading htree)⟩
  options_eq := hoptions.trans h.options_eq
  mem_expanded := by
    rw [htree]
    exact h.mem_expanded
  starred_eq := by
    rw [htree]
    exact h.starred_eq

/-! ## One row further -/

/-- **The highlighted entry is opened**, and the highlight stays on it. -/
theorem enter (h : OpenUpTo c config n b) (hd : Forest.Derived [] c.roots)
    (hs : Forest.SiblingsDistinct c.roots) (hcursor : b.cursor = n)
    (hn : n < (fullListing c config).length) :
    OpenUpTo c config (n + 1) (b.press ⟨.enter, false⟩).value ∧
      (b.press ⟨.enter, false⟩).value.cursor = n := by
  have hdistinct : Forest.Distinct c.roots := hd.distinct hs
  obtain ⟨row, hrow, hid, hable, hclosed⟩ := h.exists_highlighted? hdistinct hcursor hn
  obtain ⟨loaded, hlazy⟩ := h.lazily
  obtain ⟨b', hturn, hvalue⟩ := exists_turned hlazy.loading_eq hrow
  obtain ⟨loaded', -, hlazy'⟩ := hlazy.turned hdistinct hrow hturn
  obtain ⟨hoptions, hstays, hstarred⟩ := hturn.frame
  have hopened : OpenUpTo c config (n + 1) b' := by
    refine ⟨⟨loaded', hlazy'⟩, hoptions.trans h.options_eq, fun id => ?_,
      hstarred.trans h.starred_eq⟩
    rw [hturn.mem_expanded hclosed (hlazy.exists_loadChildren hd hs), h.mem_expanded, hid, hable,
      List.take_succ_eq_append_getElem hn]
    simp only [List.mem_append, List.mem_singleton, or_and_right, exists_or, exists_eq_left]
  show OpenUpTo c config (n + 1) b.select.value ∧ b.select.value.cursor = n
  rw [hvalue]
  refine ⟨hopened.congr rfl rfl rfl rfl, ?_⟩
  -- There are enough rows for the highlight to stay where it is.
  show min b'.cursor (b'.rows.length - 1) = n
  have hlength := hopened.min_length hdistinct
  rw [hstays, hcursor]
  omega

/-- **Going on to the next row**, if there is one. -/
theorem down (h : OpenUpTo c config (n + 1) b) (hd : Forest.Distinct c.roots)
    (hcursor : b.cursor = n) (hn : n < (fullListing c config).length) :
    OpenUpTo c config (n + 1) (b.press ⟨.down, false⟩).value ∧
      (b.press ⟨.down, false⟩).value.cursor
        = min (n + 1) ((fullListing c config).length - 1) := by
  show OpenUpTo c config (n + 1) b.moveDown ∧ b.moveDown.cursor = _
  refine ⟨h.congr rfl rfl rfl rfl, ?_⟩
  show min (b.cursor + 1) (b.rows.length - 1) = _
  have hlength := h.min_length hd
  rw [hcursor]
  omega

end OpenUpTo

/-! ## The whole run -/

theorem openUpTo_start (c : Catalog) (config : Config) (network : Network) :
    OpenUpTo c config 0 (start config c network).value where
  lazily := ⟨_, lazy_start config c network⟩
  options_eq := rfl
  mem_expanded := fun id => by
    rw [List.take_zero]
    refine iff_of_false (IdSet.not_mem_empty id) ?_
    rintro ⟨row, hrow, -⟩
    exact List.not_mem_nil hrow
  starred_eq := rfl

/-- **After `n` turns the entries of the first `n` rows are open**, and the
highlight is on the row that comes next, or on the last one. -/
theorem openUpTo_enterDown (hd : Forest.Derived [] c.roots)
    (hs : Forest.SiblingsDistinct c.roots) (network : Network)
    (hn : n ≤ (fullListing c config).length) :
    OpenUpTo c config n (after config c network (enterDown n)) ∧
      (after config c network (enterDown n)).cursor
        = min n ((fullListing c config).length - 1) := by
  induction n with
  | zero => exact ⟨openUpTo_start c config network, (Nat.zero_min _).symm⟩
  | succ n ih =>
    obtain ⟨hopen, hcursor⟩ := ih (Nat.le_of_succ_le hn)
    have hat : (after config c network (enterDown n)).cursor = n := by omega
    obtain ⟨hopen, hat⟩ := hopen.enter hd hs hat hn
    rw [enterDown, after_append]
    exact hopen.down (hd.distinct hs) hat hn

/-- When all rows were passed, the rows are those of the full listing. -/
theorem OpenUpTo.faces_rows_eq (h : OpenUpTo c config (fullListing c config).length b)
    (hd : Forest.Distinct c.roots) :
    b.rows.map Row.face = (fullListing c config).map Row.face := by
  obtain ⟨loaded, hlazy⟩ := h.lazily
  rw [h.faces_rows hd, fullListing_eq]
  refine congrArg _ (Forest.rows_congr ?_ ?_ ?_).symm
  · intro row hrow hable
    -- Every row of the listing was passed, so that it is open on either side.
    refine iff_of_true (Forest.mem_expanded_of_mem_rows (fun _ hid => hid) hrow hable) ?_
    exact (h.mem_expanded row.id).2 ⟨row, by rwa [List.take_length], hable, rfl⟩
  · rw [Forest.starred_expandAll, h.starred_eq]
    rfl
  · rw [Forest.loading_expandAll, hlazy.loading_eq]
    rfl

/-- **Opening row after row by hand gives the full listing.** Over a catalog
whose text gives names only, no two siblings the same, as many turns as the
listing has rows make the browser show these rows, and leave the highlight
on the last of them. So what is printed for the listing, for programs or for
readers, is one line for each row that the browser shows. -/
theorem faces_rows_enterDown {path text : String} {c : Catalog} {entries : Forest}
    (hopen : Catalog.ofText path text = .ok c) (hlisted : Catalog.listed? text = some entries)
    (hpaths : ∀ r ∈ Forest.nodes entries, r.path = []) (hnames : Forest.SiblingsDistinct entries)
    (config : Config) (network : Network) :
    let b := after config c network (enterDown (fullListing c config).length)
    b.rows.map Row.face = (fullListing c config).map Row.face ∧
      b.cursor = (fullListing c config).length - 1 ∧
      ∀ asJson, Listing.treeLines c config.viewOptions true asJson
        = (b.rows.map Row.face).map (RowFace.line asJson) := by
  intro b
  obtain ⟨hd, hs⟩ := Forest.derived_completePaths hpaths hnames
  rw [← Catalog.roots_of_ofText hopen hlisted] at hd hs
  obtain ⟨hrun, hcursor⟩ := openUpTo_enterDown hd hs network (Nat.le_refl _)
  have hfaces : b.rows.map Row.face = (fullListing c config).map Row.face :=
    hrun.faces_rows_eq (hd.distinct hs)
  refine ⟨hfaces, hcursor.trans (by omega), fun asJson => ?_⟩
  rw [hfaces]
  exact Listing.treeLines_eq c config.viewOptions true asJson

/-- A text with one name on two levels. -/
def namesText : String :=
  "[\x7b\"name\":\"raw\",\"type\":\"FOLDER\",\"children\":[\x7b\"name\":\"trips\"\x7d]\x7d,"
    ++ "\x7b\"name\":\"trips\"\x7d]"

/-- The entries the text lists. -/
def namesListed : Forest :=
  [⟨.folder, "raw", [], [⟨.unknown, "trips", [], []⟩]⟩, ⟨.unknown, "trips", [], []⟩]

/-- The catalog of the text. -/
def namesCatalog : Catalog where
  path := "names.json"
  roots :=
    [⟨.folder, "raw", ["raw"], [⟨.unknown, "trips", ["raw", "trips"], []⟩]⟩,
      ⟨.unknown, "trips", ["trips"], []⟩]

/-- The browser shows all three entries after three turns, and these are the lines that
are printed. -/
theorem faces_rows_enterDown_names :
    Catalog.ofText "names.json" namesText = .ok namesCatalog ∧
      Catalog.listed? namesText = some namesListed ∧
      (∀ r ∈ Forest.nodes namesListed, r.path = []) ∧ Forest.SiblingsDistinct namesListed ∧
      (fullListing namesCatalog {}).length = 3 ∧
      let b := after {} namesCatalog .online (enterDown 3)
      b.rows.map Row.face = (fullListing namesCatalog {}).map Row.face ∧ b.cursor = 2 ∧
        (b.rows.map Row.face).map (RowFace.line false)
          = ["+ raw [Folder]", "  - trips [Unknown]", "- trips [Unknown]"] := by
  have hopen : Catalog.ofText "names.json" namesText = .ok namesCatalog := by
    decide +kernel
  have hlisted : Catalog.listed? namesText = some namesListed := by decide +kernel
  have hpaths : ∀ r ∈ Forest.nodes namesListed, r.path = [] := by decide
  have hnames : Forest.SiblingsDistinct namesListed := by decide
  have hlength : (fullListing namesCatalog {}).length = 3 := by decide +kernel
  have hrows := faces_rows_enterDown hopen hlisted hpaths hnames {} .online
  rw [hlength] at hrows
  obtain ⟨hfaces, hcursor, hlines⟩ := hrows
  have hprinted : Listing.treeLines namesCatalog (Config.viewOptions {}) true false
      = ["+ raw [Folder]", "  - trips [Unknown]", "- trips [Unknown]"] := by decide +kernel
  exact ⟨hopen, hlisted, hpaths, hnames, hlength, hfaces, hcursor,
    (hlines false).symm.trans hprinted⟩

end Browser

end CatalogBrowser
