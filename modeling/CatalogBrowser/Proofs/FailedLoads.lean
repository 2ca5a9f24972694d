import CatalogBrowser.Proofs.Highlight

/-!
# Loads that fail

A key press asks the catalog for children at most once, and whatever the
catalog answers is reported. Since the events of a press come with its
result, they tell what was asked for (`Browser.answers_press`): the children
of the highlighted entry, if the key selects it and it can be opened, is
closed and has no children yet.

If the answer is a fault, the entry has been opened and has been waiting in
between, and both are taken back. That the browser is afterwards what it was
(`Browser.failed_load_after`) rests on two facts that have nothing to do with
the catalog: the id was not among the open ones before, or the row would have
been shown open; and nothing else was waiting.
-/

namespace CatalogBrowser

/-! ## What is reported -/

namespace Log.Event

/-- **The report of what the catalog answered** when it was asked for the children
of the entry with an id. -/
def answer (id : String) : Except CatalogFault Forest → Event
  | .ok children =>
    ⟨.info, "lakeview::tui::app", "loaded children",
      [("id", .text id), ("count", .count children.length)]⟩
  | .error fault =>
    ⟨.warn, "lakeview::tui::app", "failed to load children",
      [("id", .text id), ("error", .text fault.message)]⟩

/-- Whether an event reports an answer of the catalog. -/
def isAnswer (e : Event) : Bool :=
  e.message = "loaded children" || e.message = "failed to load children"

end Log.Event

namespace Traced

variable {α β : Type}

/-- **The answers of the catalog** among the events of a computation. -/
def answers (x : Traced α) : List Log.Event := x.events.filter Log.Event.isAnswer

@[simp]
theorem answers_pure (a : α) : (pure a : Traced α).answers = [] := rfl

@[simp]
theorem answers_bind (x : Traced α) (f : α → Traced β) :
    (x >>= f).answers = x.answers ++ (f x.value).answers := by
  simp [answers]

end Traced

/-! ## What is asked -/

namespace TreeState

/-- Routing a selection asks the catalog nothing. -/
theorem answers_route (s : TreeState) (options : ViewOptions) (node : Option Resource)
    (isOpen : Bool) : (s.routeSelection options node isOpen).answers = [] := by
  cases node with
  | none => rfl
  | some r =>
    unfold routeSelection SelectionHandler.route
    cases hable : r.expandable options.datasetsAreLeaves with
    | false =>
      simp only [hable, if_false, Bool.false_eq_true]
      rfl
    | true =>
      simp only [hable, if_true]
      cases isOpen <;> rfl

end TreeState

/-- Whether selecting a row asks for the children of its entry. -/
def Row.wantsChildren (row : Row) : Bool :=
  row.expandable && !row.expanded && row.resource.children.isEmpty

namespace Browser

/-- **The entry whose children a key press asks for.** -/
def wanted? (b : Browser) (key : Key) : Option Resource :=
  if key.action? = some .select then
    (b.highlighted?.filter Row.wantsChildren).map (·.resource)
  else none

variable {b : Browser}

/-- Nothing is asked for, so nothing is answered. -/
theorem answers_loadPending_of_empty (h : b.tree.loading = .empty) :
    b.loadPending.answers = [] := by
  rw [loadPending, TreeState.pendingLoads, h]
  rfl

/-- **One question, one report.** -/
theorem answers_loadOne {id : String} {r : Resource} (hr : Forest.lookup id b.roots = some r) :
    (b.loadOne id).answers = [.answer id (b.catalog.loadChildren r.path)] := by
  cases hload : b.catalog.loadChildren r.path with
  | ok children =>
    simp only [loadOne, hr, hload]
    rfl
  | error fault =>
    simp only [loadOne, hr, hload]
    rfl

/-- One entry waits, so there is one answer, and it is the one that the catalog gives. -/
theorem answers_loadPending_waiting (hl : b.tree.loading = .empty) {id : String} {r : Resource}
    (hr : Forest.lookup id b.roots = some r) :
    (b.waiting id).loadPending.answers = [.answer id (b.catalog.loadChildren r.path)] := by
  have hpending : (b.waiting id).tree.pendingLoads = [id] := by
    rw [TreeState.pendingLoads, waiting, hl, IdSet.toList_insert_empty]
  rw [loadPending, hpending, List.foldlM_cons, Traced.answers_bind,
    answers_loadOne (b := b.waiting id) hr]
  rfl

/-- Selecting asks what the tree asks for once the selection was routed. -/
theorem answers_select_of_some {row : Row} (h : b.highlighted? = some row) {tree : TreeState}
    (hroute : (b.tree.routeSelection b.options (some row.resource) row.expanded).value = tree) :
    b.select.answers = (Browser.loadPending { b with tree }).answers := by
  rw [select, h, ← hroute]
  simp only [Traced.answers_bind, routeSelection, TreeState.answers_route, Traced.answers_pure,
    Traced.value_bind, Traced.value_pure, List.append_nil, List.nil_append]

/-- **Selecting asks the catalog once at most**: for the highlighted entry, if it wants its
children. -/
theorem answers_select (hl : b.tree.loading = .empty) :
    b.select.answers = ((b.highlighted?.filter Row.wantsChildren).map (·.resource)).toList.map
      fun r => .answer r.id (b.catalog.loadChildren r.path) := by
  cases hrow : b.highlighted? with
  | none =>
    rw [select, hrow]
    rfl
  | some row =>
    have hrouted := routed_of_highlighted? hrow
    generalize hroute :
      (b.tree.routeSelection b.options (some row.resource) row.expanded).value = tree at hrouted
    rw [answers_select_of_some hrow hroute]
    cases hrouted with
    | leaf hleaf => simp [answers_loadPending_of_empty, hl, Row.wantsChildren, hleaf]
    | closed hopen => simp [answers_loadPending_of_empty, hl, Row.wantsChildren, hopen]
    | opened hable hclosed hc => simp [answers_loadPending_of_empty, hl, Row.wantsChildren, hc]
    | @unloaded hable hclosed hc hnew r hr =>
      -- The entry that is looked up may be another one, but it has the same path.
      have hpath : r.path = row.resource.path := Path.id_injective (Forest.mem_of_lookup hr).2
      have hwants : row.wantsChildren = true := by simp [Row.wantsChildren, hable, hclosed, hc]
      have hanswers := answers_loadPending_waiting hl hr
      rw [hpath] at hanswers
      rw [Option.filter_some, if_pos hwants]
      exact hanswers

/-- **What a key press asks the catalog for**, and what it answers. -/
theorem answers_press {c : Catalog} (h : Settled c b) (key : Key) :
    (b.press key).answers
      = (b.wanted? key).toList.map fun r => .answer r.id (c.loadChildren r.path) := by
  unfold press wanted?
  cases haction : key.action? with
  | none => rfl
  | some action =>
    cases action with
    | select =>
      rw [if_pos rfl, ← h.catalog_eq]
      exact answers_select h.loading_eq
    | clear =>
      show b.clear.answers = []
      simp only [clear, routeSelection, Traced.answers_bind, TreeState.answers_route,
        Traced.answers_pure, List.append_nil]
    | toggleStar | quit | moveDown | moveUp | toggleTab | nextPage | previousPage
    | toggleNetwork => rfl

/-! ## What is left of a load that fails -/

/-- A key asks for the children of the highlighted entry. -/
theorem exists_of_wanted? {key : Key} {r : Resource} (h : b.wanted? key = some r) :
    key.action? = some .select ∧
      ∃ row, b.highlighted? = some row ∧ row.wantsChildren = true ∧ row.resource = r := by
  unfold wanted? at h
  split at h
  · next haction =>
    obtain ⟨row, hrow, hres⟩ := Option.map_eq_some_iff.1 h
    obtain ⟨hrow, hwants⟩ := Option.filter_eq_some_iff.1 hrow
    exact ⟨haction, row, hrow, hwants, hres⟩
  · exact nomatch h

/-- **A turn for which children could not be loaded** only leaves the selection
and a note why. -/
theorem Turned.eq_of_error {row : Row} {b' : Browser} (h : Turned b row b')
    (hwants : row.wantsChildren = true) {fault : CatalogFault}
    (hload : b.catalog.loadChildren row.resource.path = .error fault) :
    b' = { b with
      tree := { b.tree with selected := some row.id }
      status := some s!"Failed to load {row.id}: {fault.message}" } := by
  simp only [Row.wantsChildren, Bool.and_eq_true, Bool.not_eq_true', List.isEmpty_iff] at hwants
  obtain ⟨⟨hable, hclosed⟩, hchildren⟩ := hwants
  cases h with
  | leaf hleaf => exact nomatch hleaf.symm.trans hable
  | closed hopen => exact nomatch hopen.symm.trans hclosed
  | opened _ _ hc => exact absurd hchildren hc
  | loaded _ _ _ hr hok =>
    rw [Path.id_injective (Forest.mem_of_lookup hr).2] at hok
    exact nomatch hok.symm.trans hload
  | refused _ _ _ hr hfault =>
    rw [Path.id_injective (Forest.mem_of_lookup hr).2] at hfault
    rw [Except.error.inj (hfault.symm.trans hload)]

/-- The highlight is where the rows and its number say. -/
theorem highlighted?_congr {b' : Browser} (hrows : b'.rows = b.rows)
    (hcursor : b'.cursor = b.cursor) : b'.highlighted? = b.highlighted? := by
  rw [highlighted?, highlighted?, hrows, hcursor]

/-- **A failed load leaves the browser as it was.** -/
theorem value_press_of_error {c : Catalog} (h : Settled c b) {key : Key} {r : Resource}
    {fault : CatalogFault} (hwanted : b.wanted? key = some r)
    (hload : c.loadChildren r.path = .error fault) :
    let b' := (b.press key).value
    b' = { b with
      tree := { b.tree with selected := some r.id }
      page := b'.page
      status := some s!"Failed to load {r.id}: {fault.message}" } ∧
    b'.rows = b.rows ∧ b'.highlighted?.map Row.id = some r.id := by
  intro b'
  obtain ⟨haction, row, hrow, hwants, rfl⟩ := exists_of_wanted? hwanted
  obtain ⟨turned, hturn, hvalue⟩ := exists_turned h.loading_eq hrow
  rw [← h.catalog_eq] at hload
  have heq := hturn.eq_of_error hwants hload
  have hrows : turned.rows = b.rows := by
    rw [heq]
    exact rows_select b _ _
  have hcursor : turned.cursor = b.cursor := by rw [heq]
  -- The same row is highlighted, so there is nothing to put right.
  have hsame : turned.highlighted? = some row := (highlighted?_congr hrows hcursor).trans hrow
  have hb' : b' = turned.ensurePage := by
    show (b.press key).value = turned.ensurePage
    rw [press_eq_perform haction, ← (inBounds_of_highlighted? hsame).clampCursor_eq]
    exact hvalue
  rw [hb']
  refine ⟨?_, hrows, congrArg (Option.map Row.id) hsame⟩
  rw [heq]
  rfl

/-- **A failed load leaves no trace but the selection and a note.** After any keys,
over any catalog, nothing is waiting. A further key asks the catalog for the
children of one entry at most, and is done with it when it returns. If the
catalog answers with a fault, all there is to the browser is what it was
before the key, its rows and its highlight among it, except that the
highlighted entry is selected, that the page may have changed with it, and
that the status says what went wrong. -/
theorem failed_load_after (c : Catalog) (config : Config) (network : Network)
    (keys : List Key) :
    let b := after config c network keys
    b.tree.loading = .empty ∧
    ∀ key,
      ((b.press key).answers
          = (b.wanted? key).toList.map fun r => .answer r.id (c.loadChildren r.path)) ∧
      (b.press key).answers.length ≤ 1 ∧
      (b.press key).value.tree.loading = .empty ∧
      ∀ r fault, b.wanted? key = some r → c.loadChildren r.path = .error fault →
        let b' := (b.press key).value
        b' = { b with
          tree := { b.tree with selected := some r.id }
          page := b'.page
          status := some s!"Failed to load {r.id}: {fault.message}" } ∧
        b'.rows = b.rows ∧ b'.highlighted?.map Row.id = some r.id := by
  intro b
  have h : Settled c b := settled_after config c network keys
  refine ⟨h.loading_eq, fun key => ?_⟩
  have hanswers := answers_press h key
  refine ⟨hanswers, ?_, (h.press key).loading_eq, fun r fault => value_press_of_error h⟩
  rw [hanswers, List.length_map, Option.length_toList]
  split <;> decide

/-- A folder that was moved to an attic. -/
def atticFolder : Resource := ⟨.folder, "old", ["attic", "old"], []⟩

/-- **A catalog that lists a folder twice**, once with a file in it, and both times
at the top, where its path is not sought. -/
def atticCatalog : Catalog where
  path := "attic.json"
  roots :=
    [{ atticFolder with children := [⟨.file, "zones", ["attic", "old", "zones"], []⟩] },
      atticFolder]

/-- The second folder cannot be opened, and stays highlighted. -/
theorem failed_load_after_attic :
    let b := after {} atticCatalog .online [⟨.down, false⟩]
    let b' := (b.press ⟨.enter, false⟩).value
    b.wanted? ⟨.enter, false⟩ = some atticFolder ∧
      atticCatalog.loadChildren atticFolder.path = .error (.notFound "attic.old") ∧
      b'.rows = b.rows ∧ b'.cursor = 1 ∧ b'.tree.expanded = .empty ∧
      b'.tree.selected = some "attic.old" ∧
      b'.status = some "Failed to load attic.old: Node not found: attic.old" := by
  intro b b'
  have hwanted : b.wanted? ⟨.enter, false⟩ = some atticFolder := rfl
  have hload : atticCatalog.loadChildren atticFolder.path = .error (.notFound "attic.old") := rfl
  obtain ⟨heq, hrows, -⟩ := ((failed_load_after atticCatalog {} .online [⟨.down, false⟩]).2
    ⟨.enter, false⟩).2.2.2 _ _ hwanted hload
  refine ⟨hwanted, hload, hrows, ?_, ?_, ?_, ?_⟩
  · exact congrArg Browser.cursor heq
  · exact congrArg (·.tree.expanded) heq
  · exact congrArg (·.tree.selected) heq
  · exact congrArg Browser.status heq

end Browser

end CatalogBrowser
