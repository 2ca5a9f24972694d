import CatalogBrowser.Browser.Action
import CatalogBrowser.Proofs.Rows

/-!
# What selecting an entry does

Of all keys only the one that selects touches the tree itself, and it does
so in several turns: the entry is clicked, its children are asked for and
loaded, the highlight and the page are put right. This module says once what
comes out of that.

`Browser.Routed` lists what the click and the selection make of the tree, and
`Browser.Turned` the five ways the turn can end. An entry that cannot be
opened is only selected, one that is open is closed, one whose children are
there is opened. If they are not there, they are loaded and the entry is
opened, or loading fails and the entry stays closed with a note why.

The browser after a sequence of keys is `Browser.after`, and what every key
preserves holds of it (`Browser.after_induction`). Between keys nothing is
waiting (`Browser.settled_after`), so at most the one entry is ever loaded.
-/

namespace CatalogBrowser

/-! ## Sets -/

namespace IdSet

@[simp]
theorem toList_insert_empty (id : String) : (IdSet.empty.insert id).toList = [id] := rfl

/-- An id that was put in only now is taken out without a trace. -/
theorem erase_insert {s : IdSet} {id : String} (h : id ∉ s) : (s.insert id).erase id = s := by
  refine ext_mem fun x => ?_
  rw [mem_erase, mem_insert]
  constructor
  · rintro ⟨hx | hx, hne⟩
    · exact absurd hx hne
    · exact hx
  · exact fun hx => ⟨Or.inr hx, fun heq => h (heq ▸ hx)⟩

/-- And an id that was taken out is put back as if it had been there all along. Sets that
have the same members are the same, so the order does not show. -/
theorem insert_erase {s : IdSet} {id : String} (h : id ∈ s) : (s.erase id).insert id = s := by
  refine ext_mem fun x => ?_
  rw [mem_insert, mem_erase]
  by_cases hx : x = id
  · exact iff_of_true (Or.inl hx) (hx ▸ h)
  · rw [or_iff_right hx, and_iff_left hx]

/-- The set with an id taken out if it is a member, and put in if it is none. -/
def toggle (s : IdSet) (id : String) : IdSet := if id ∈ s then s.erase id else s.insert id

variable {s : IdSet} {id : String}

theorem toggle_of_mem (h : id ∈ s) : s.toggle id = s.erase id := if_pos h

theorem toggle_of_not_mem (h : id ∉ s) : s.toggle id = s.insert id := if_neg h

/-- **Turning an id over twice changes nothing.** The two ways are not the same, since one
of them puts the id back where the order wants it. -/
theorem toggle_toggle (s : IdSet) (id : String) : (s.toggle id).toggle id = s := by
  by_cases h : id ∈ s
  · rw [toggle_of_mem h, toggle_of_not_mem fun hid => (mem_erase.1 hid).2 rfl, insert_erase h]
  · rw [toggle_of_not_mem h, toggle_of_mem (mem_insert.2 (Or.inl rfl)), erase_insert h]

/-- Turning an id over does not touch the others. -/
theorem mem_toggle_of_ne {x : String} (h : x ≠ id) : x ∈ s.toggle id ↔ x ∈ s := by
  unfold toggle
  split
  · rw [mem_erase, and_iff_left h]
  · rw [mem_insert, or_iff_right h]

end IdSet

/-! ## Clicking and selecting -/

namespace TreeState

section Route

variable {s : TreeState} {options : ViewOptions} {r : Resource} {isOpen : Bool}

/-- An entry that cannot be opened is only selected. -/
theorem value_route_leaf (hable : r.expandable options.datasetsAreLeaves = false) :
    (s.routeSelection options (some r) isOpen).value = { s with selected := some r.id } := by
  unfold routeSelection SelectionHandler.route
  simp only [hable, if_false, Bool.false_eq_true]
  rfl

/-- An entry that can be opened is clicked, and then selected. -/
theorem value_route_click (hable : r.expandable options.datasetsAreLeaves = true) :
    (s.routeSelection options (some r) isOpen).value
      = { (s.click r isOpen).value with selected := some r.id } := by
  unfold routeSelection SelectionHandler.route
  simp only [hable, if_true]
  rfl

/-- A click on a closed entry opens it. -/
theorem value_click_loaded (h : r.children ≠ []) :
    (s.click r false).value = { s with expanded := s.expanded.insert r.id } := by
  have hsome : r.children.isEmpty = false := by simpa using h
  simp only [click, hsome, if_false, Bool.false_eq_true]
  rfl

/-- A click on a closed entry without children asks for them, too. -/
theorem value_click_unloaded (h : r.children = []) :
    (s.click r false).value
      = { s with
          expanded := s.expanded.insert r.id
          loading := s.loading.insert r.id } := by
  simp only [click, h, List.isEmpty_nil, if_true, if_false, Bool.false_eq_true]
  rfl

end Route

/-- A star changes nothing but the stars. -/
theorem expanded_toggleStar (s : TreeState) (id : String) :
    (s.toggleStar id).expanded = s.expanded := by
  unfold toggleStar
  split <;> rfl

/-- Nothing waits because of a star. -/
theorem loading_toggleStar (s : TreeState) (id : String) :
    (s.toggleStar id).loading = s.loading := by
  unfold toggleStar
  split <;> rfl

/-- Nor is anything selected by it, so what can be said about the selection stays true. -/
theorem selected_toggleStar (s : TreeState) (id : String) :
    (s.toggleStar id).selected = s.selected := by
  unfold toggleStar
  split <;> rfl

/-- Only one id gets a star at a time. Those that have one were there before, apart from
it. -/
theorem mem_starred_toggleStar {s : TreeState} {id x : String}
    (h : x ∈ (s.toggleStar id).starred) : x = id ∨ x ∈ s.starred := by
  unfold toggleStar at h
  split at h
  · exact Or.inr (IdSet.mem_erase.1 h).1
  · exact IdSet.mem_insert.1 h

end TreeState

namespace Browser

/-! ## Loading -/

/-- Where nothing waits there is nothing to load. -/
theorem loadPending_of_empty {b : Browser} (h : b.tree.loading = .empty) :
    b.loadPending.value = b := by
  rw [loadPending, TreeState.pendingLoads, h]
  rfl

/-- Where one entry waits, loading what waits is loading its children. -/
theorem loadPending_of_one {b : Browser} {id : String}
    (h : b.tree.loading = IdSet.empty.insert id) :
    b.loadPending.value = (b.loadOne id).value := by
  rw [loadPending, TreeState.pendingLoads, h, IdSet.toList_insert_empty]
  rfl

/-- **The children are there**: they are grafted where the entry says it is, and the
waiting is over. -/
theorem loadOne_of_ok {b : Browser} {id : String} {r : Resource} {children : Forest}
    (hr : Forest.lookup id b.roots = some r) (h : b.catalog.loadChildren r.path = .ok children) :
    (b.loadOne id).value = (b.takeUp r.path children).finishLoading id := by
  simp only [loadOne, hr, h]
  rfl

/-- **The children are not there**: the entry is closed again, the status says why, and the
waiting is over as well. -/
theorem loadOne_of_error {b : Browser} {id : String} {r : Resource} {fault : CatalogFault}
    (hr : Forest.lookup id b.roots = some r)
    (h : b.catalog.loadChildren r.path = .error fault) :
    (b.loadOne id).value = (b.giveUp id fault).finishLoading id := by
  simp only [loadOne, hr, h]
  rfl

/-! ## The whole turn -/

/-- **What selecting a row makes of the browser**, before the highlight and the
page are put right. -/
inductive Turned (b : Browser) (row : Row) : Browser → Prop where
  /-- The entry cannot be opened. -/
  | leaf (hleaf : row.expandable = false) :
    Turned b row { b with tree := { b.tree with selected := some row.id } }
  /-- The entry is open. -/
  | closed (hopen : row.expanded = true) :
    Turned b row
      { b with tree := { b.tree with
          expanded := b.tree.expanded.erase row.id, selected := some row.id } }
  /-- The entry is closed and its children are there. -/
  | opened (hable : row.expandable = true) (hclosed : row.expanded = false)
      (hchildren : row.resource.children ≠ []) :
    Turned b row
      { b with tree := { b.tree with
          expanded := b.tree.expanded.insert row.id, selected := some row.id } }
  /-- The entry is closed and its children are loaded. -/
  | loaded (hable : row.expandable = true) (hclosed : row.expanded = false)
      (hchildren : row.resource.children = []) {r : Resource}
      (hr : Forest.lookup row.id b.roots = some r) {children : Forest}
      (hload : b.catalog.loadChildren r.path = .ok children) :
    Turned b row
      { b with
        roots := Forest.graft r.path children b.roots
        tree := { b.tree with
          expanded := b.tree.expanded.insert row.id, selected := some row.id } }
  /-- The entry is closed and its children cannot be loaded. -/
  | refused (hable : row.expandable = true) (hclosed : row.expanded = false)
      (hchildren : row.resource.children = []) {r : Resource}
      (hr : Forest.lookup row.id b.roots = some r) {fault : CatalogFault}
      (hload : b.catalog.loadChildren r.path = .error fault) :
    Turned b row
      { b with
        tree := { b.tree with selected := some row.id }
        status := some s!"Failed to load {row.id}: {fault.message}" }

/-- The turn leaves the settings, the highlight and the stars alone. What depends on these
only need not know which of the five ways it was. -/
theorem Turned.frame {b b' : Browser} {row : Row} (h : Turned b row b') :
    b'.options = b.options ∧ b'.cursor = b.cursor ∧ b'.tree.starred = b.tree.starred := by
  cases h <;> exact ⟨rfl, rfl, rfl⟩

/-- The highlighted row is the row of an entry that is loaded. So there is something to
look up by its id. -/
theorem exists_of_highlighted? {b : Browser} {row : Row} (h : b.highlighted? = some row) :
    ∃ d, ∃ r ∈ Forest.nodes b.roots, row = b.tree.row b.options d r :=
  TreeState.exists_of_mem_visibleRows (List.mem_of_getElem? h)

/-- Without rows there is nothing to select. -/
theorem value_select_of_none {b : Browser} (h : b.highlighted? = none) : b.select.value = b := by
  rw [select, h]
  rfl

/-- The turn, in its parts: routing, loading what waits, and putting the highlight and the
page right. -/
theorem value_select_of_some {b : Browser} {row : Row} (h : b.highlighted? = some row)
    {tree : TreeState} {b' : Browser}
    (hroute : (b.tree.routeSelection b.options (some row.resource) row.expanded).value = tree)
    (hload : (Browser.loadPending { b with tree }).value = b') :
    b.select.value = b'.clampCursor.ensurePage := by
  rw [select, h, ← hload, ← hroute]
  rfl

section Unloaded

variable {b : Browser} {id : String}

/-- The tree once a closed entry without children was clicked and selected. -/
def waiting (b : Browser) (id : String) : Browser :=
  { b with tree := { b.tree with
      expanded := b.tree.expanded.insert id
      loading := b.tree.loading.insert id
      selected := some id } }

/-- The entry that was just clicked is the only one that waits. -/
theorem loadPending_waiting (hl : b.tree.loading = .empty) :
    (b.waiting id).loadPending.value = ((b.waiting id).loadOne id).value := by
  refine loadPending_of_one ?_
  rw [waiting, hl]

/-- Once its children came, or did not, nothing waits, as before the click. -/
theorem erase_insert_loading (hl : b.tree.loading = .empty) :
    (b.tree.loading.insert id).erase id = b.tree.loading := by
  rw [hl]
  exact IdSet.erase_insert (IdSet.not_mem_empty id)

/-- Children that are loaded are hung up, and nothing waits any more. The entry stays open. -/
theorem loadPending_waiting_of_ok (hl : b.tree.loading = .empty) {r : Resource}
    {children : Forest} (hr : Forest.lookup id b.roots = some r)
    (h : b.catalog.loadChildren r.path = .ok children) :
    (b.waiting id).loadPending.value
      = { b with
          roots := Forest.graft r.path children b.roots
          tree := { b.tree with
            expanded := b.tree.expanded.insert id, selected := some id } } := by
  rw [loadPending_waiting hl, loadOne_of_ok (b := b.waiting id) hr h]
  simp only [finishLoading, TreeState.finishLoading, takeUp, waiting, erase_insert_loading hl]

/-- If there are none, the entry is as closed as it was, and nothing waits. Only the
selection and the status tell that it was tried. -/
theorem loadPending_waiting_of_error (hl : b.tree.loading = .empty)
    (hnew : id ∉ b.tree.expanded) {r : Resource} {fault : CatalogFault}
    (hr : Forest.lookup id b.roots = some r)
    (h : b.catalog.loadChildren r.path = .error fault) :
    (b.waiting id).loadPending.value
      = { b with
          tree := { b.tree with selected := some id }
          status := some s!"Failed to load {id}: {fault.message}" } := by
  rw [loadPending_waiting hl, loadOne_of_error (b := b.waiting id) hr h]
  simp only [finishLoading, TreeState.finishLoading, giveUp, TreeState.collapse, waiting,
    erase_insert_loading hl, IdSet.erase_insert hnew]

end Unloaded

/-- **What routing the selection of a row makes of the tree.** -/
inductive Routed (b : Browser) (row : Row) : TreeState → Prop where
  /-- The entry cannot be opened. -/
  | leaf (hleaf : row.expandable = false) :
    Routed b row { b.tree with selected := some row.id }
  /-- The entry is open. -/
  | closed (hopen : row.expanded = true) :
    Routed b row
      { b.tree with expanded := b.tree.expanded.erase row.id, selected := some row.id }
  /-- The entry is closed and its children are there. -/
  | opened (hable : row.expandable = true) (hclosed : row.expanded = false)
      (hchildren : row.resource.children ≠ []) :
    Routed b row
      { b.tree with expanded := b.tree.expanded.insert row.id, selected := some row.id }
  /-- The entry is closed and its children are asked for. It is an entry that can
  be looked up, and it was not among the open ones. -/
  | unloaded (hable : row.expandable = true) (hclosed : row.expanded = false)
      (hchildren : row.resource.children = []) (hnew : row.id ∉ b.tree.expanded)
      {r : Resource} (hr : Forest.lookup row.id b.roots = some r) :
    Routed b row (b.waiting row.id).tree

/-- **Selecting the highlighted row routes it in one of four ways.** The row knows whether
its entry can be opened, and whether it is open, so no case is left to the state of the
tree. -/
theorem routed_of_highlighted? {b : Browser} {row : Row} (h : b.highlighted? = some row) :
    Routed b row (b.tree.routeSelection b.options (some row.resource) row.expanded).value := by
  obtain ⟨d, t, ht, hrow⟩ := exists_of_highlighted? h
  have hable : row.resource.expandable b.options.datasetsAreLeaves = row.expandable := by
    rw [hrow]
    rfl
  cases hexp : row.expandable with
  | false =>
    rw [TreeState.value_route_leaf (hable.trans hexp)]
    exact .leaf hexp
  | true =>
    rw [TreeState.value_route_click (hable.trans hexp)]
    cases hopen : row.expanded with
    | true => exact .closed hopen
    | false =>
      by_cases hc : row.resource.children = []
      · -- The entry is loaded, so it is found, and it was closed before.
        obtain ⟨r, hr⟩ := Forest.exists_lookup ht
        have hr' : Forest.lookup row.id b.roots = some r := by
          rw [hrow]
          exact hr
        have hnew : row.id ∉ b.tree.expanded := by
          intro hmem
          rw [hrow] at hopen hexp hmem
          rw [TreeState.expanded_row_iff.2 ⟨hexp, hmem⟩] at hopen
          exact nomatch hopen
        rw [TreeState.value_click_unloaded hc]
        exact .unloaded hexp hopen hc hnew hr'
      · rw [TreeState.value_click_loaded hc]
        exact .opened hexp hopen hc

/-- **What selecting does**, as long as nothing is waiting before it. All results about
selecting go by these five cases and do not open the functions any more. -/
theorem exists_turned {b : Browser} (hl : b.tree.loading = .empty) {row : Row}
    (h : b.highlighted? = some row) :
    ∃ b', Turned b row b' ∧ b.select.value = b'.clampCursor.ensurePage := by
  have hrouted := routed_of_highlighted? h
  generalize hroute :
    (b.tree.routeSelection b.options (some row.resource) row.expanded).value = tree at hrouted
  cases hrouted with
  | leaf hleaf =>
    exact ⟨_, .leaf hleaf, value_select_of_some h hroute (loadPending_of_empty hl)⟩
  | closed hopen =>
    exact ⟨_, .closed hopen, value_select_of_some h hroute (loadPending_of_empty hl)⟩
  | opened hable hclosed hc =>
    exact ⟨_, .opened hable hclosed hc,
      value_select_of_some h hroute (loadPending_of_empty hl)⟩
  | @unloaded hable hclosed hc hnew r hr =>
    cases hload : b.catalog.loadChildren r.path with
    | ok children =>
      exact ⟨_, .loaded hable hclosed hc hr hload,
        value_select_of_some h hroute (loadPending_waiting_of_ok hl hr hload)⟩
    | error fault =>
      exact ⟨_, .refused hable hclosed hc hr hload,
        value_select_of_some h hroute (loadPending_waiting_of_error hl hnew hr hload)⟩

/-! ## Runs -/

/-- **The browser after a sequence of keys**, from its start. -/
def after (config : Config) (catalog : Catalog) (network : Network) (keys : List Key) : Browser :=
  ((start config catalog network).value.pressAll keys).value

/-- Keys are pressed one after the other, from the first to the last. -/
theorem value_pressAll (b : Browser) (keys : List Key) :
    (b.pressAll keys).value = keys.foldl (fun b key => (b.press key).value) b := by
  induction keys generalizing b with
  | nil => rfl
  | cons key keys ih => exact ih (b.press key).value

/-- A run can be cut in two at any key. -/
theorem value_pressAll_append (b : Browser) (keys keys' : List Key) :
    (b.pressAll (keys ++ keys')).value = ((b.pressAll keys).value.pressAll keys').value := by
  rw [value_pressAll, value_pressAll, value_pressAll, List.foldl_append]

/-- A run of one key is that key. -/
theorem value_pressAll_singleton (b : Browser) (key : Key) :
    (b.pressAll [key]).value = (b.press key).value := rfl

/-- What comes after some keys is a run from the browser after them. -/
theorem after_append (config : Config) (catalog : Catalog) (network : Network)
    (keys keys' : List Key) :
    after config catalog network (keys ++ keys')
      = ((after config catalog network keys).pressAll keys').value :=
  value_pressAll_append _ keys keys'

/-- **What holds at the start and is preserved by every key holds after any
keys.** -/
theorem after_induction {P : Browser → Prop} {config : Config} {catalog : Catalog}
    {network : Network} (hstart : P (start config catalog network).value)
    (hpress : ∀ b key, P b → P (b.press key).value) (keys : List Key) :
    P (after config catalog network keys) := by
  induction keys using List.reverseRecOn with
  | nil => exact hstart
  | append_singleton keys key ih =>
    rw [after_append, value_pressAll_singleton]
    exact hpress _ key ih

/-- A key is what it does. Keys that do the same are not told apart from here on. -/
theorem press_eq_perform {b : Browser} {key : Key} {action : Action}
    (h : key.action? = some action) : b.press key = b.perform action := by
  rw [press, h]

/-- A key does what it stands for, if it stands for anything. So what every action keeps is
kept by every key. -/
theorem press_induction {P : Browser → Prop} {b : Browser} (h : P b)
    (hperform : ∀ action, P (b.perform action).value) (key : Key) : P (b.press key).value := by
  unfold press
  cases key.action? with
  | none => exact h
  | some action => exact hperform action

/-- **What holds of the browser between keys**, whatever the catalog is like. -/
structure Settled (c : Catalog) (b : Browser) : Prop where
  /-- The catalog is the one it started with. -/
  catalog_eq : b.catalog = c
  /-- Nothing is waiting. -/
  loading_eq : b.tree.loading = .empty

/-- A turn waits for nothing it did not wait for before. -/
theorem Settled.turned {c : Catalog} {b b' : Browser} (h : Settled c b) {row : Row}
    (hturn : Turned b row b') : Settled c b' := by
  cases hturn <;> exact ⟨h.catalog_eq, h.loading_eq⟩

/-- **Each key leaves nothing waiting**: selecting is over when what it asked for has come
or was refused, and nothing else asks for anything. -/
theorem Settled.press {c : Catalog} {b : Browser} (h : Settled c b) (key : Key) :
    Settled c (b.press key).value := by
  refine press_induction h (fun action => ?_) key
  cases action with
  | select =>
    show Settled c b.select.value
    cases hrow : b.highlighted? with
    | none => rwa [value_select_of_none hrow]
    | some row =>
      obtain ⟨b', hturn, hvalue⟩ := exists_turned h.loading_eq hrow
      obtain ⟨hcatalog, hloading⟩ := h.turned hturn
      rw [hvalue]
      exact ⟨hcatalog, hloading⟩
  | toggleStar =>
    show Settled c b.toggleStar
    unfold toggleStar
    split
    · exact h
    · exact ⟨h.catalog_eq, (TreeState.loading_toggleStar b.tree _).trans h.loading_eq⟩
  | quit | moveDown | moveUp | clear | toggleTab | nextPage | previousPage | toggleNetwork =>
    exact ⟨h.catalog_eq, h.loading_eq⟩

/-- **Between keys nothing is waiting.** It is what `exists_turned` asks for, so with it
every selection of a run is one of the five turns. -/
theorem settled_after (config : Config) (c : Catalog) (network : Network) (keys : List Key) :
    Settled c (after config c network keys) :=
  after_induction ⟨rfl, rfl⟩ (fun _ key h => h.press key) keys

end Browser

end CatalogBrowser
