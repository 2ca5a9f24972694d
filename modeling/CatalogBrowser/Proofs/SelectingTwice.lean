import CatalogBrowser.Proofs.Highlight
import CatalogBrowser.Proofs.LazyLoading
import CatalogBrowser.Proofs.StarredRows

/-!
# Selecting twice

Selecting the highlighted entry opens it or closes it. Selecting a second
time takes that back: the rows, the highlight, and what is open are what they
were before the first (`Browser.selecting_twice_after`).

For this the second selection has to meet the entry of the first. What is
open has changed in between, and with it the rows, on the tab of starred
entries also some at the left margin. But it has changed for one entry only,
no two rows show the same entry (`TreeState.nodup_ids_visibleRows`), and so
the rows before the highlighted one stay where they are
(`Browser.Lazy.exists_highlighted?_turned`).

Then it has to do the opposite. Whether selecting an entry turns it over at
all depends on what kind of entry it is and on what the catalog can load
(`Row.turns`), and on nothing that a selection changes. An entry that is
open has been loaded, so that it can be opened again, even if it has no
children and they are loaded anew each time.
-/

namespace CatalogBrowser

/-! ## The rows before -/

/-- **No two rows show the same entry**, on either tab, if no two entries have the
same path. -/
theorem TreeState.nodup_ids_visibleRows {forest : Forest} (hd : Forest.Distinct forest)
    (s : TreeState) (options : ViewOptions) :
    ((s.visibleRows options forest).map Row.id).Nodup := by
  suffices hpaths : ((s.visibleRows options forest).map (·.resource.path)).Nodup by
    have hids := hpaths.map Path.id_injective
    rwa [List.map_map] at hids
  unfold visibleRows
  split
  · exact (Forest.paths_rows_sublist s options 0 forest).nodup hd
  · -- The lists show what is seen, and what is seen are entries in pre-order.
    have hnone : ∀ t ∈ ([] : Forest), options.hidden.hides t = false :=
      fun t ht => absurd ht List.not_mem_nil
    have hperm := @Forest.shown_leads_perm s options [] forest hnone
    rw [if_neg (Place.not_covers_nil s options), List.nil_append] at hperm
    rw [Forest.foldl_listStarred hd hnone Forest.showsCovered_nil, List.nil_append,
      List.map_flatMap]
    simp only [Forest.map_path_rows]
    rw [← List.map_flatMap, (hperm.map (·.path)).nodup_iff]
    have hsublist : ((Forest.pick (·.Seen s options) [] forest).map (·.path)).Sublist
        (Forest.paths forest) := Forest.pick_sublist.map (·.path)
    exact hsublist.nodup hd

/-! ## Turning an entry over -/

/-- **Whether selecting a row turns its entry over**: the entry can be opened, and
the catalog can load its children. -/
def Row.turns (c : Catalog) (row : Row) : Bool :=
  row.expandable && (c.loadChildren row.resource.path).isOk

/-- Rows of the same entry turn it over alike. -/
theorem Row.turns_congr {c : Catalog} {row row' : Row} (hid : row'.id = row.id)
    (hable : row'.expandable = row.expandable) : row'.turns c = row.turns c := by
  rw [turns, turns, hable, Path.id_injective hid]

theorem Row.turns_of_loads {c : Catalog} {row : Row} (hable : row.expandable = true)
    (hloads : ∃ children, c.loadChildren row.resource.path = .ok children) :
    row.turns c = true := by
  obtain ⟨children, hload⟩ := hloads
  rw [turns, hable, hload]
  rfl

namespace Browser

variable {c : Catalog} {loaded : IdSet} {b : Browser}

namespace Lazy

/-- **A turn turns the entry over, or leaves what is open alone.** -/
theorem expanded_turned (h : Lazy c loaded b) {row : Row} (hrow : b.highlighted? = some row)
    {b' : Browser} (hturn : Turned b row b') :
    b'.tree.expanded
      = if row.turns c then b.tree.expanded.toggle row.id else b.tree.expanded := by
  obtain ⟨d, r, hr, heq⟩ := exists_of_highlighted? hrow
  have hexpanded : row.expanded = true ↔ row.expandable = true ∧ row.id ∈ b.tree.expanded := by
    rw [heq]
    exact TreeState.expanded_row_iff
  have hclosed : row.expandable = true → row.expanded = false → row.id ∉ b.tree.expanded :=
    fun hable hnot hmem => nomatch hnot.symm.trans (hexpanded.2 ⟨hable, hmem⟩)
  cases hturn with
  | leaf hleaf => rw [Row.turns, hleaf, Bool.false_and, if_neg Bool.false_ne_true]
  | closed hopen =>
    -- What is open has been loaded.
    obtain ⟨hable, hmem⟩ := hexpanded.1 hopen
    have hloads := h.loads row.resource.path (h.mem_loaded row.id hmem)
    rw [if_pos (Row.turns_of_loads hable hloads), IdSet.toggle_of_mem hmem]
  | opened hable hnot hc =>
    -- So has what has children.
    have hmem : row.resource.id ∈ loaded := by
      rw [heq] at hc ⊢
      exact h.mem_loaded_of_children hr hc
    have hloads := h.loads row.resource.path hmem
    rw [if_pos (Row.turns_of_loads hable hloads), IdSet.toggle_of_not_mem (hclosed hable hnot)]
  | loaded hable hnot hc hfound hload =>
    rw [h.catalog_eq, Path.id_injective (Forest.mem_of_lookup hfound).2] at hload
    rw [if_pos (Row.turns_of_loads hable ⟨_, hload⟩), IdSet.toggle_of_not_mem (hclosed hable hnot)]
  | refused hable hnot hc hfound hfault =>
    rw [h.catalog_eq, Path.id_injective (Forest.mem_of_lookup hfound).2] at hfault
    rw [Row.turns, hfault, if_neg (by simp [Except.isOk, Except.toBool])]

/-- **After a turn the highlight is on the same entry.** -/
theorem exists_highlighted?_turned (h : Lazy c loaded b) (hd : Forest.Distinct c.roots)
    {row : Row} (hrow : b.highlighted? = some row) {b' : Browser} (hturn : Turned b row b')
    {loaded' : IdSet} (h' : Lazy c loaded' b') :
    ∃ row', b'.highlighted? = some row' ∧ row'.id = row.id ∧
      row'.expandable = row.expandable := by
  obtain ⟨hoptions, hcursor, hstarred⟩ := hturn.frame
  -- The rows are compared over the whole catalog, which a turn does not change.
  obtain ⟨shown, hshown, hface⟩ := exists_getElem?_of_map_eq (h.faces_rows hd) hrow
  have hid : shown.id = row.id := congrArg RowFace.id hface
  have hbefore : ∀ t ∈ (b.tree.visibleRows b.options c.roots).take b.cursor,
      t.OpenAlike b.tree b'.tree := by
    intro t ht _
    have hne : t.id ≠ row.id := hid ▸
      ne_of_mem_take (TreeState.nodup_ids_visibleRows hd b.tree b.options) hshown ht
    rw [h.expanded_turned hrow hturn]
    split
    · exact (IdSet.mem_toggle_of_ne hne).symm
    · exact Iff.rfl
  have hplaces := (TreeState.agreeUntil_visibleRows hstarred.symm b.options c.roots).map_place_take
    hbefore
  have hat := (List.getElem?_take_of_lt (Nat.lt_succ_self b.cursor)).trans hshown
  obtain ⟨shown', hshown', hplace⟩ := exists_getElem?_of_map_eq hplaces hat
  rw [List.getElem?_take_of_lt (Nat.lt_succ_self b.cursor), ← hoptions] at hshown'
  obtain ⟨row', hrow', hface'⟩ := exists_getElem?_of_map_eq (h'.faces_rows hd).symm hshown'
  have hresource : shown'.resource = shown.resource := congrArg Prod.snd hplace
  refine ⟨row', ?_, ?_, ?_⟩
  · rw [highlighted?, hcursor]
    exact hrow'
  · calc row'.id = shown'.id := congrArg RowFace.id hface'
      _ = shown.id := congrArg Resource.id hresource
      _ = row.id := hid
  · calc row'.expandable = shown'.expandable := congrArg RowFace.expandable hface'
      _ = shown'.resource.expandable b'.options.datasetsAreLeaves :=
        TreeState.expandable_of_mem_visibleRows (List.mem_of_getElem? hshown')
      _ = shown.resource.expandable b.options.datasetsAreLeaves := by rw [hresource, hoptions]
      _ = shown.expandable :=
        (TreeState.expandable_of_mem_visibleRows (List.mem_of_getElem? hshown)).symm
      _ = row.expandable := congrArg RowFace.expandable hface

end Lazy

/-- **What selecting a row does to what is seen**: its entry is turned over, or
nothing changes, and another row of the entry is in its place. -/
structure TurnedOver (c : Catalog) (b : Browser) (row : Row) (b' : Browser) (row' : Row) :
    Prop where
  /-- The highlight is on the new row. -/
  highlighted?_eq : b'.highlighted? = some row'
  /-- It is a row of the same entry. -/
  id_eq : row'.id = row.id
  /-- The entry can be opened if it could before. -/
  expandable_eq : row'.expandable = row.expandable
  /-- The settings are the same. -/
  options_eq : b'.options = b.options
  /-- The highlight is in the same place. -/
  cursor_eq : b'.cursor = b.cursor
  /-- The stars are the same. -/
  starred_eq : b'.tree.starred = b.tree.starred
  /-- The entry is turned over if it can be. -/
  expanded_eq : b'.tree.expanded
    = if row.turns c then b.tree.expanded.toggle row.id else b.tree.expanded

/-- **The second time restores what was open.** -/
theorem TurnedOver.expanded_eq_of_twice {b' b'' : Browser} {row row' row'' : Row}
    (h : TurnedOver c b row b' row') (h' : TurnedOver c b' row' b'' row'') :
    b''.tree.expanded = b.tree.expanded := by
  rw [h'.expanded_eq, h.expanded_eq, Row.turns_congr h.id_eq h.expandable_eq, h.id_eq]
  split
  · exact IdSet.toggle_toggle _ _
  · rfl

/-- **Selecting turns the highlighted entry over**, and the highlight stays on it. -/
theorem Lazy.exists_turnedOver (h : Lazy c loaded b) (hd : Forest.Distinct c.roots) {row : Row}
    (hrow : b.highlighted? = some row) {key : Key} (hkey : key.action? = some .select) :
    ∃ loaded' row', (∀ id ∈ loaded, id ∈ loaded') ∧ Lazy c loaded' (b.press key).value ∧
      TurnedOver c b row (b.press key).value row' := by
  obtain ⟨b', hturn, hvalue⟩ := exists_turned h.loading_eq hrow
  obtain ⟨loaded', hmono, h'⟩ := h.turned hd hrow hturn
  obtain ⟨row', hrow', hid, hable⟩ := h.exists_highlighted?_turned hd hrow hturn h'
  obtain ⟨hoptions, hcursor, hstarred⟩ := hturn.frame
  have hexpanded := h.expanded_turned hrow hturn
  -- There is a row under the highlight, so that it need not be moved.
  rw [(inBounds_of_highlighted? hrow').clampCursor_eq] at hvalue
  rw [press_eq_perform hkey, perform, hvalue]
  exact ⟨loaded', row', hmono, h'.congr rfl rfl (fun _ hl => hl) rfl rfl,
    ⟨hrow', hid, hable, hoptions, hcursor, hstarred, hexpanded⟩⟩

/-- **Selecting twice changes nothing that is seen.** Over a catalog whose entries
have different paths, take the browser after any keys, on either tab, with
one row at least. When the highlighted row is selected, the highlight stays
in its place and on the same entry. When it is selected once more, the rows,
the highlight, what is open and what carries a star are what they were. No
entry has fewer children loaded than before. -/
theorem selecting_twice_after {c : Catalog} (hd : Forest.Distinct c.roots) (config : Config)
    (network : Network) (keys : List Key) {key : Key} (hkey : key.action? = some .select) :
    let b := after config c network keys
    let b' := (b.press key).value
    let b'' := (b'.press key).value
    b.rows ≠ [] →
      (b'.cursor = b.cursor ∧ ∃ row row', b.highlighted? = some row ∧
        b'.highlighted? = some row' ∧ row'.id = row.id) ∧
      b''.rows.map Row.face = b.rows.map Row.face ∧ b''.cursor = b.cursor ∧
      b''.tree.expanded = b.tree.expanded ∧ b''.tree.starred = b.tree.starred ∧
      b.roots.Prunes b''.roots := by
  intro b b' b'' hrows
  have hbounds : b.InBounds := after_induction (P := InBounds) (Nat.zero_le _)
    (fun _ key h => press_induction h h.perform key) keys
  have hcursor : b.cursor < b.rows.length := by
    have hlength := List.length_pos_of_ne_nil hrows
    unfold InBounds at hbounds
    omega
  have hrow : b.highlighted? = some b.rows[b.cursor] := List.getElem?_eq_getElem hcursor
  obtain ⟨loaded, h⟩ : ∃ loaded, Lazy c loaded b := exists_lazy_after hd config network keys
  obtain ⟨loaded', row', hmono, h', hover⟩ := h.exists_turnedOver hd hrow hkey
  obtain ⟨loaded'', row'', hmono', h'', hback⟩ :=
    h'.exists_turnedOver hd hover.highlighted?_eq hkey
  have hexpanded : b''.tree.expanded = b.tree.expanded := hover.expanded_eq_of_twice hback
  have hstarred : b''.tree.starred = b.tree.starred := hback.starred_eq.trans hover.starred_eq
  refine ⟨⟨hover.cursor_eq, _, row', hrow, hover.highlighted?_eq, hover.id_eq⟩, ?_,
    hback.cursor_eq.trans hover.cursor_eq, hexpanded, hstarred, ?_⟩
  · have hoptions : b''.options = b.options := hback.options_eq.trans hover.options_eq
    rw [h''.faces_rows hd, h.faces_rows hd, hoptions, TreeState.visibleRows_congr hexpanded hstarred
      (h''.loading_eq.trans h.loading_eq.symm)]
  · rw [h.roots_eq, h''.roots_eq]
    exact Forest.trim_prunes_trim (fun id hid => hmono' id (hmono id hid)) c.roots

/-- On the tab of starred entries the folder goes below the lake when the lake is
opened, and comes back to the left margin when the lake is closed again. -/
theorem selecting_twice_after_movedFolder :
    Forest.Distinct movedFolder.roots ∧ Key.action? ⟨.enter, false⟩ = some .select ∧
    let b := after {} movedFolder .online
      [⟨.char 's', false⟩, ⟨.enter, false⟩, ⟨.down, false⟩, ⟨.char 's', false⟩, ⟨.up, false⟩,
        ⟨.enter, false⟩, ⟨.tab, false⟩]
    let b' := (b.press ⟨.enter, false⟩).value
    let b'' := (b'.press ⟨.enter, false⟩).value
    b.rows ≠ [] ∧
      b.rows.map (fun row => (row.depth, row.id)) = [(0, "lake"), (0, "lake.raw")] ∧
      b'.rows.map (fun row => (row.depth, row.id))
        = [(0, "lake"), (1, "lake.raw"), (1, "attic.old")] ∧
      b''.rows.map Row.face = b.rows.map Row.face ∧ b''.cursor = b.cursor ∧
      b''.tree.expanded = b.tree.expanded :=
  have hd : Forest.Distinct movedFolder.roots := by decide
  have hrows : (after {} movedFolder .online
      [⟨.char 's', false⟩, ⟨.enter, false⟩, ⟨.down, false⟩, ⟨.char 's', false⟩, ⟨.up, false⟩,
        ⟨.enter, false⟩, ⟨.tab, false⟩]).rows ≠ [] := by decide +kernel
  have htwice := @selecting_twice_after movedFolder hd {} .online _ ⟨.enter, false⟩ rfl hrows
  ⟨hd, rfl, hrows, by decide +kernel, by decide +kernel, htwice.2.1, htwice.2.2.1, htwice.2.2.2.1⟩

end Browser

end CatalogBrowser
