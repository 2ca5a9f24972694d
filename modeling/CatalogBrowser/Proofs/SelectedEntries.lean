import CatalogBrowser.Proofs.Loading
import CatalogBrowser.Proofs.Selecting

/-!
# What is selected is there

The browser remembers the selected entry by its id and looks it up when it
needs it, and so it does with the entries whose children it waits for. The
catalog may give one path to several entries. Then the children that a key
asks for are hung below the first entry that the search along the paths
meets, which need not be the selected one, and whatever was below that entry
is gone.

Still a look-up never fails (`Browser.selection_found_after`). The key that
hangs children up selects an entry of the same path, and the entry they are
hung below stays where it is (`Forest.mem_paths_graft`). So there is always
one with the id that is selected, if not always the same one.
-/

namespace CatalogBrowser

namespace Forest

variable {target : List String} {grafted forest forest' : Forest}

/-- Children are hung below an entry at the target, and that entry stays. -/
theorem mem_paths_of_graft? (h : Forest.graft? target grafted forest = some forest') :
    target ∈ paths forest' := by
  induction forest using Forest.induction generalizing forest' with
  | nil => cases h
  | cons r rest ihc ihr =>
    rcases graft?_cons_eq_some h with ⟨hpath, rfl⟩ | ⟨children, hc, rfl⟩ | ⟨rest', hrest, rfl⟩
    · exact mem_paths_cons.2 (Or.inl hpath.symm)
    · exact mem_paths_cons.2 (Or.inr (Or.inl (ihc hc)))
    · exact mem_paths_cons.2 (Or.inr (Or.inr (ihr hrest)))

/-- **Grafting keeps the path it grafts at**, whether or not it finds an entry
there. -/
theorem mem_paths_graft (h : target ∈ paths forest) :
    target ∈ paths (Forest.graft target grafted forest) := by
  rw [Forest.graft]
  cases hgraft : Forest.graft? target grafted forest with
  | none => exact h
  | some forest' => exact mem_paths_of_graft? hgraft

end Forest

namespace Browser

variable {b : Browser}

/-! ## The selected entry -/

/-- **The id that is selected is that of a loaded entry.** -/
def Resolved (b : Browser) : Prop :=
  ∀ id ∈ b.tree.selected, ∃ path ∈ Forest.paths b.roots, Path.id path = id

/-- **What is selected is found**, and by its id, so pages and details are about an entry
that is there. -/
theorem Resolved.exists_selected? (h : b.Resolved) {id : String}
    (hid : b.tree.selected = some id) : ∃ r, b.selected? = some r ∧ r.id = id := by
  obtain ⟨path, hpath, rfl⟩ := h id hid
  obtain ⟨t, ht, rfl⟩ := Forest.mem_paths.1 hpath
  obtain ⟨r, hr⟩ := Forest.exists_lookup ht
  refine ⟨r, ?_, (Forest.mem_of_lookup hr).2⟩
  rw [selected?, hid]
  exact hr

/-- **However the turn ends, the entry that was selected can be found.** -/
theorem Turned.resolved {row : Row} (hrow : b.highlighted? = some row) {b' : Browser}
    (hturn : Turned b row b') : b'.Resolved := by
  obtain ⟨d, t, ht, heq⟩ := exists_of_highlighted? hrow
  have hpath : ∃ path ∈ Forest.paths b.roots, Path.id path = row.id :=
    ⟨t.path, Forest.path_mem_paths ht, by rw [heq]; rfl⟩
  intro id hid
  cases hturn with
  | leaf | closed | opened | refused =>
    obtain rfl := Option.some.inj hid
    exact hpath
  | @loaded _ _ _ r hr children _ =>
    obtain rfl := Option.some.inj hid
    -- Children are hung up at the path of the entry that was selected.
    obtain ⟨hmem, hrid⟩ := Forest.mem_of_lookup hr
    exact ⟨r.path, Forest.mem_paths_graft (Forest.path_mem_paths hmem), hrid⟩

namespace Resolved

/-- Selecting selects an entry that has a row, and a row is only there for what is loaded.
Loading its children leaves it in place. -/
theorem select {c : Catalog} (hs : Settled c b) (h : b.Resolved) : b.select.value.Resolved := by
  cases hrow : b.highlighted? with
  | none =>
    rw [value_select_of_none hrow]
    exact h
  | some row =>
    obtain ⟨b', hturn, hvalue⟩ := exists_turned hs.loading_eq hrow
    rw [hvalue]
    exact hturn.resolved hrow

/-- A star selects nothing. -/
theorem toggleStar (h : b.Resolved) : b.toggleStar.Resolved := by
  unfold Browser.toggleStar
  split
  · exact h
  · next row hrow =>
    intro id hid
    exact h id ((TreeState.selected_toggleStar b.tree row.id).symm.trans hid)

/-- **After every key the selected entry can be found.** -/
theorem press {c : Catalog} (hs : Settled c b) (h : b.Resolved) (key : Key) :
    (b.press key).value.Resolved := by
  refine press_induction h (fun action => ?_) key
  cases action with
  | select => exact h.select hs
  | clear => exact fun id hid => nomatch hid
  | toggleStar => exact h.toggleStar
  | quit | moveDown | moveUp | toggleTab | nextPage | previousPage | toggleNetwork => exact h

end Resolved

/-- At first nothing is selected, and no key selects what is not there. -/
theorem resolved_after (config : Config) (c : Catalog) (network : Network) (keys : List Key) :
    (after config c network keys).Resolved := by
  have h : Settled c (after config c network keys) ∧ (after config c network keys).Resolved :=
    after_induction (P := fun b => Settled c b ∧ b.Resolved)
      ⟨⟨rfl, rfl⟩, fun id hid => nomatch hid⟩
      (fun b key h => ⟨h.1.press key, h.2.press h.1 key⟩) keys
  exact h.2

/-! ## The entries that wait -/

/-- **Every entry that waits is found when its turn comes**, after the children of
those before it were loaded. -/
def FindsPending (b : Browser) : Prop :=
  ∀ front id back, b.tree.pendingLoads = front ++ id :: back →
    ∃ r, Forest.lookup id (front.foldlM loadOne b).value.roots = some r

/-- Where nothing waits there is nothing to look for. -/
theorem findsPending_of_empty (h : b.tree.loading = .empty) : b.FindsPending := by
  intro front id back hpending
  rw [TreeState.pendingLoads, h] at hpending
  exact absurd hpending.symm (List.append_ne_nil_of_right_ne_nil front (List.cons_ne_nil _ _))

/-- If one entry waits, it is found among what is loaded already. -/
theorem findsPending_of_one {id : String} (h : b.tree.loading = IdSet.empty.insert id)
    {r : Resource} (hr : Forest.lookup id b.roots = some r) : b.FindsPending := by
  intro front id' back hpending
  rw [TreeState.pendingLoads, h, IdSet.toList_insert_empty] at hpending
  cases front with
  | nil =>
    obtain rfl := List.head_eq_of_cons_eq hpending
    exact ⟨r, hr⟩
  | cons first front =>
    exact absurd (List.tail_eq_of_cons_eq hpending).symm
      (List.append_ne_nil_of_right_ne_nil front (List.cons_ne_nil _ _))

/-- **Routing the selection of a row leaves none waiting but entries that are
found.** -/
theorem findsPending_routeSelection (hl : b.tree.loading = .empty) {row : Row}
    (hrow : b.highlighted? = some row) :
    (b.routeSelection (some row.resource) row.expanded).value.FindsPending := by
  have hrouted := routed_of_highlighted? hrow
  show FindsPending { b with
    tree := (b.tree.routeSelection b.options (some row.resource) row.expanded).value }
  generalize (b.tree.routeSelection b.options (some row.resource) row.expanded).value = tree
    at hrouted ⊢
  cases hrouted with
  | leaf | closed | opened => exact findsPending_of_empty hl
  | unloaded _ _ _ _ hr =>
    refine findsPending_of_one ?_ hr
    rw [waiting, hl]

/-- **What is selected can always be looked up, and so can what is waited for.**
After any keys, over any catalog, the selected id is that of an entry, which
is found. And when a further key selects the highlighted row, each entry
whose children it goes on to load is found as well. -/
theorem selection_found_after (c : Catalog) (config : Config) (network : Network)
    (keys : List Key) :
    let b := after config c network keys
    (∀ id, b.tree.selected = some id → ∃ r, b.selected? = some r ∧ r.id = id) ∧
    ∀ key row, key.action? = some .select → b.highlighted? = some row →
      let routed := (b.routeSelection (some row.resource) row.expanded).value
      (b.press key).value = routed.loadPending.value.clampCursor.ensurePage ∧
        routed.FindsPending := by
  intro b
  have hresolved : b.Resolved := resolved_after config c network keys
  have hsettled : Settled c b := settled_after config c network keys
  refine ⟨fun id => hresolved.exists_selected?, fun key row haction hrow => ⟨?_, ?_⟩⟩
  · rw [press_eq_perform haction]
    exact value_select_of_some hrow rfl rfl
  · exact findsPending_routeSelection hsettled.loading_eq hrow

/-- **A catalog in which two folders have one path**, the first of them with a file
in it. -/
def twinFolders : Catalog where
  path := "twins.json"
  roots :=
    [⟨.folder, "old", ["raw"], [⟨.file, "trips", ["raw", "trips"], []⟩]⟩,
      ⟨.folder, "new", ["raw"], []⟩]

/-- The second folder is selected, and the first one found and given children. -/
theorem selection_found_after_twinFolders :
    let b := after {} twinFolders .online [⟨.down, false⟩]
    let b' := after {} twinFolders .online [⟨.down, false⟩, ⟨.enter, false⟩]
    let routed := (b.routeSelection (some ⟨.folder, "new", ["raw"], []⟩) false).value
    routed.tree.pendingLoads = ["raw"] ∧
      (∃ r, Forest.lookup "raw" routed.roots = some r) ∧
      b'.tree.selected = some "raw" ∧ (∃ r, b'.selected? = some r ∧ r.id = "raw") ∧
      b'.selected?.map (·.name) = some "old" ∧
      b'.roots.map (·.children.length) = [1, 0] := by
  intro b b' routed
  have hrow : b.highlighted? = some (b.tree.row b.options 0 ⟨.folder, "new", ["raw"], []⟩) := rfl
  have hpending := ((selection_found_after twinFolders {} .online [⟨.down, false⟩]).2
    ⟨.enter, false⟩ _ rfl hrow).2
  have hselected := (selection_found_after twinFolders {} .online
    [⟨.down, false⟩, ⟨.enter, false⟩]).1 "raw" rfl
  exact ⟨rfl, hpending [] "raw" [] rfl, rfl, hselected, rfl, rfl⟩

end Browser

end CatalogBrowser
