import CatalogBrowser.Proofs.Selecting

/-!
# What the tree does not depend on

The browser keeps two kinds of things in one state. There is the tree, with
what is loaded of it, open, selected, starred and hidden, with the highlight
and with the note about what was done last. And there is what stands around
it: the page about the selected entry, whether the wiki is among the pages,
the banner, the texts, and whether the browser was asked to stop.

Nothing gets from there into the tree. Two browsers with the same tree
(`Browser.SameTree`) still have the same one after any key, whatever stands
around it (`Browser.SameTree.press`), although selecting puts the page right
and so reads and writes both kinds. A key that only touches what stands around
the tree keeps the tree (`Browser.sameTree_press`). So two runs lead to the
same tree if their keys are the same but for such keys, in whatever way these
are interspersed (`Browser.SameTree.pressAll`).
-/

namespace CatalogBrowser

/-- **Whether a key leaves the tree alone**: it turns the page, it says whether the
server can be reached, or it stops the browser. -/
def Key.sparesTree (key : Key) : Bool :=
  match key.code with
  | .right | .left | .char 'l' | .char 'h' | .char 'o' | .char 'q' => true
  | .char 'c' => key.control
  | _ => false

/-- What such a key stands for. -/
theorem Key.action?_of_sparesTree {key : Key} (h : key.sparesTree = true) :
    key.action? ∈ [some .nextPage, some .previousPage, some .toggleNetwork, some .quit] := by
  obtain ⟨code, control⟩ := key
  unfold Key.sparesTree at h
  unfold Key.action?
  split at h
  case h_8 => exact nomatch h
  all_goals simp_all

namespace Browser

/-- **Two browsers have the same tree**, over the same catalog. -/
structure SameTree (b b' : Browser) : Prop where
  catalog_eq : b.catalog = b'.catalog
  roots_eq : b.roots = b'.roots
  tree_eq : b.tree = b'.tree
  options_eq : b.options = b'.options
  cursor_eq : b.cursor = b'.cursor
  status_eq : b.status = b'.status

namespace SameTree

variable {b b' b'' : Browser}

theorem refl (b : Browser) : SameTree b b := ⟨rfl, rfl, rfl, rfl, rfl, rfl⟩

theorem symm (h : SameTree b b') : SameTree b' b :=
  ⟨h.catalog_eq.symm, h.roots_eq.symm, h.tree_eq.symm, h.options_eq.symm, h.cursor_eq.symm,
    h.status_eq.symm⟩

/-- The steps in between may be on either side, so a run is compared with one that has
fewer keys by comparing it key by key. -/
theorem trans (h : SameTree b b') (h' : SameTree b' b'') : SameTree b b'' :=
  ⟨h.catalog_eq.trans h'.catalog_eq, h.roots_eq.trans h'.roots_eq, h.tree_eq.trans h'.tree_eq,
    h.options_eq.trans h'.options_eq, h.cursor_eq.trans h'.cursor_eq,
    h.status_eq.trans h'.status_eq⟩

/-- **The same tree has the same rows.** -/
theorem rows_eq (h : SameTree b b') : b.rows = b'.rows := by
  rw [rows, rows, h.tree_eq, h.options_eq, h.roots_eq]

/-- The highlighted row is told by the rows and the cursor, so what a key does to it is the
same in both. -/
theorem highlighted?_eq (h : SameTree b b') : b.highlighted? = b'.highlighted? := by
  rw [highlighted?, highlighted?, h.rows_eq, h.cursor_eq]

/-! ## One change -/

/-- How far the highlight can go depends on the rows. -/
theorem clampCursor (h : SameTree b b') : SameTree b.clampCursor b'.clampCursor where
  __ := h
  cursor_eq := by
    show min b.cursor (b.rows.length - 1) = min b'.cursor (b'.rows.length - 1)
    rw [h.cursor_eq, h.rows_eq]

/-- Putting the page right keeps the tree, though it looks at what is selected in it. -/
theorem ensurePage (h : SameTree b b') : SameTree b.ensurePage b'.ensurePage := { h with }

/-- The waiting is over for the same entry. -/
theorem finishLoading (h : SameTree b b') (id : String) :
    SameTree (b.finishLoading id) (b'.finishLoading id) :=
  { h with tree_eq := congrArg (TreeState.finishLoading · id) h.tree_eq }

/-- The same children are grafted at the same path. -/
theorem takeUp (h : SameTree b b') (path : List String) (children : Forest) :
    SameTree (b.takeUp path children) (b'.takeUp path children) :=
  { h with roots_eq := congrArg (Forest.graft path children) h.roots_eq }

/-- The same entry is closed, and the same is said about it. -/
theorem giveUp (h : SameTree b b') (id : String) (fault : CatalogFault) :
    SameTree (b.giveUp id fault) (b'.giveUp id fault) :=
  { h with
    tree_eq := congrArg (TreeState.collapse · id) h.tree_eq
    status_eq := rfl }

/-- **Routing a selection looks at the tree and at its settings**, and at nothing else of
the browser. -/
theorem routeSelection (h : SameTree b b') (node : Option Resource) (isOpen : Bool) :
    SameTree (b.routeSelection node isOpen).value (b'.routeSelection node isOpen).value where
  __ := h
  tree_eq := by
    show (b.tree.routeSelection b.options node isOpen).value
      = (b'.tree.routeSelection b'.options node isOpen).value
    rw [h.tree_eq, h.options_eq]

/-! ## Loading -/

/-- **Loading the children of an entry keeps two trees the same**, whether the catalog
has the children or not. -/
theorem loadOne (h : SameTree b b') (id : String) :
    SameTree (b.loadOne id).value (b'.loadOne id).value := by
  unfold Browser.loadOne
  rw [← h.roots_eq, ← h.catalog_eq]
  cases Forest.lookup id b.roots with
  | none => exact h.finishLoading id
  | some r =>
    cases hload : b.catalog.loadChildren r.path with
    | ok children =>
      simp only [hload]
      exact (h.takeUp r.path children).finishLoading id
    | error fault =>
      simp only [hload]
      exact (h.giveUp id fault).finishLoading id

/-- What waits is the same in both, so it is loaded entry by entry in the same order. -/
theorem loadPending (h : SameTree b b') :
    SameTree b.loadPending.value b'.loadPending.value := by
  unfold Browser.loadPending
  rw [← h.tree_eq]
  generalize b.tree.pendingLoads = ids
  induction ids generalizing b b' with
  | nil => exact h
  | cons id ids ih => exact ih (h.loadOne id)

/-! ## The actions -/

/-- **Selecting keeps two trees the same.** The page is put right in each browser by
its own pages. -/
theorem select (h : SameTree b b') : SameTree b.select.value b'.select.value := by
  unfold Browser.select
  rw [← h.highlighted?_eq]
  cases b.highlighted? with
  | none => exact h
  | some row =>
    exact (h.routeSelection (some row.resource) row.expanded).loadPending.clampCursor.ensurePage

/-- The star goes to the highlighted entry, and the note says so. -/
theorem toggleStar (h : SameTree b b') : SameTree b.toggleStar b'.toggleStar := by
  unfold Browser.toggleStar
  rw [← h.highlighted?_eq, ← h.tree_eq]
  cases b.highlighted? with
  | none => exact h
  | some row =>
    show SameTree (Browser.clampCursor _) (Browser.clampCursor _)
    exact clampCursor { h with tree_eq := rfl, status_eq := rfl }

/-- **No action tells two browsers with the same tree apart** by their trees. -/
theorem perform (h : SameTree b b') (action : Action) :
    SameTree (b.perform action).value (b'.perform action).value := by
  cases action with
  | moveDown | moveUp =>
    refine { h with cursor_eq := ?_ }
    show min _ (b.rows.length - 1) = min _ (b'.rows.length - 1)
    rw [h.cursor_eq, h.rows_eq]
  | select => exact h.select
  | clear => exact (h.routeSelection none false).ensurePage
  | toggleStar => exact h.toggleStar
  | toggleTab =>
    have hoptions := congrArg (fun o : ViewOptions => { o with tab := o.tab.toggle }) h.options_eq
    exact { h with options_eq := hoptions, cursor_eq := rfl }
  | quit | nextPage | previousPage | toggleNetwork => exact { h with }

/-- A key stands for the same action everywhere, if it stands for any. -/
theorem press (h : SameTree b b') (key : Key) :
    SameTree (b.press key).value (b'.press key).value := by
  unfold Browser.press
  cases key.action? with
  | none => exact h
  | some action => exact h.perform action

end SameTree

/-- **A key that spares the tree leaves it as it is.** -/
theorem sameTree_press (b : Browser) {key : Key} (h : key.sparesTree = true) :
    SameTree (b.press key).value b := by
  have haction := Key.action?_of_sparesTree h
  simp only [List.mem_cons, List.not_mem_nil, or_false] at haction
  rcases haction with haction | haction | haction | haction
  all_goals
    rw [press_eq_perform haction]
    exact ⟨rfl, rfl, rfl, rfl, rfl, rfl⟩

/-! ## Runs -/

/-- **A run leads to the tree that the same run leads to without the keys that spare
the tree**, whatever stands around the tree at the start of either. -/
theorem SameTree.pressAll {b b' : Browser} (h : SameTree b b') (keys : List Key) :
    SameTree (b.pressAll keys).value (b'.pressAll (keys.filter (!·.sparesTree))).value := by
  induction keys generalizing b b' with
  | nil => exact h
  | cons key keys ih =>
    by_cases hkey : key.sparesTree = true
    · rw [List.filter_cons_of_neg (by simp [hkey])]
      exact ih ((sameTree_press b hkey).trans h)
    · rw [List.filter_cons_of_pos (by simp [hkey])]
      exact ih (h.press key)

/-- The settings of the tree are all the tree gets from the settings. -/
theorem sameTree_start {config config' : Config} (h : config.tree = config'.tree) (c : Catalog)
    (network network' : Network) :
    SameTree (start config c network).value (start config' c network').value where
  catalog_eq := rfl
  roots_eq := rfl
  tree_eq := rfl
  options_eq := by
    show config.viewOptions = config'.viewOptions
    rw [Config.viewOptions, Config.viewOptions, h]
  cursor_eq := rfl
  status_eq := rfl

/-- **The network, the pages, the wiki, the texts and stopping have no influence on the
tree.** Two runs over one catalog, with settings that agree on the tree and with
keys that are the same but for those that spare the tree, end with the same
entries loaded, open, selected, starred and waiting, with the same rows and the
same highlight, and with the same note. -/
theorem tree_independent_after (c : Catalog) {config config' : Config}
    (hconfig : config.tree = config'.tree) (network network' : Network) {keys keys' : List Key}
    (hkeys : keys.filter (!·.sparesTree) = keys'.filter (!·.sparesTree)) :
    let b := after config c network keys
    let b' := after config' c network' keys'
    b.roots = b'.roots ∧ b.tree = b'.tree ∧ b.cursor = b'.cursor ∧ b.options = b'.options ∧
      b.status = b'.status ∧ b.rows = b'.rows := by
  intro b b'
  have hrun : SameTree b (after config' c network' (keys.filter (!·.sparesTree))) :=
    (sameTree_start hconfig c network network').pressAll keys
  have hrun' : SameTree b' (after config' c network' (keys'.filter (!·.sparesTree))) :=
    (SameTree.refl _).pressAll keys'
  rw [hkeys] at hrun
  have h : SameTree b b' := hrun.trans hrun'.symm
  exact ⟨h.roots_eq, h.tree_eq, h.cursor_eq, h.options_eq, h.status_eq, h.rows_eq⟩

/-- **A catalog with a view in a space**, and beside them a folder that cannot be
opened, since it is not where its path leads. -/
def salesCatalog : Catalog where
  path := "sales.json"
  roots :=
    [⟨.space, "Sales", ["Sales"], [⟨.virtualDataset, "orders", ["Sales", "orders"], []⟩]⟩,
      ⟨.folder, "old", ["attic", "old"], []⟩]

/-- One of two browsers hides the wiki and is offline, turned pages, and was asked to
stop halfway. Both note that the folder could not be opened. -/
theorem tree_independent_after_sales :
    let config : Config := { screen := { showWiki := false, locale := "de-DE" } }
    let keys : List Key := [⟨.down, false⟩, ⟨.enter, false⟩]
    let keys' : List Key := [⟨.char 'h', false⟩, ⟨.down, false⟩, ⟨.char 'q', false⟩,
      ⟨.char 'c', true⟩, ⟨.enter, false⟩, ⟨.right, true⟩]
    let b := after {} salesCatalog .online keys
    let b' := after config salesCatalog .offline keys'
    ({} : Config).tree = config.tree ∧
      keys.filter (!·.sparesTree) = keys'.filter (!·.sparesTree) ∧
      b.roots = b'.roots ∧ b.tree = b'.tree ∧ b.cursor = b'.cursor ∧ b.rows = b'.rows ∧
      b.status = b'.status ∧
      b.status = some "Failed to load attic.old: Node not found: attic.old" ∧
      (b.hasQuit, b'.hasQuit) = (false, true) ∧ (b.network, b'.network) = (.online, .offline) := by
  intro config keys keys' b b'
  have hconfig : ({} : Config).tree = config.tree := rfl
  have hkeys : keys.filter (!·.sparesTree) = keys'.filter (!·.sparesTree) := by decide
  obtain ⟨hroots, htree, hcursor, -, hstatus, hrows⟩ :=
    tree_independent_after salesCatalog hconfig .online .offline hkeys
  refine ⟨hconfig, hkeys, hroots, htree, hcursor, hrows, hstatus, ?_, ?_, ?_⟩
  all_goals decide +kernel

end Browser

end CatalogBrowser
