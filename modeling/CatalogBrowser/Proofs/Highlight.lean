import CatalogBrowser.Proofs.OpenRows
import CatalogBrowser.Proofs.Selecting

/-!
# The highlight

One row is highlighted at a time, and the browser remembers it by its
number. The rows are not remembered but computed, from what is loaded, what
is open, starred and hidden, and from the tab. So they may become fewer at
any time: one entry is closed and everything below it goes, also below other
entries with the same id.

Still the highlight is always on a row, if there is one
(`Browser.highlight_after`). Every action either leaves the rows as they are,
or puts the highlight right afterwards.
-/

namespace CatalogBrowser

namespace Browser

/-- **The highlight is on a row**, or on the first place if there are no rows. -/
def InBounds (b : Browser) : Prop := b.cursor ≤ b.rows.length - 1

/-- What a highlight in bounds means for the two kinds of lists of rows. -/
theorem inBounds_iff {b : Browser} :
    b.InBounds ↔ if b.rows.isEmpty then b.cursor = 0 else b.cursor < b.rows.length := by
  unfold InBounds
  cases b.rows with
  | nil => exact Nat.le_zero
  | cons row rows => exact Nat.lt_succ_iff.symm

/-- The highlight is put right. -/
theorem inBounds_clampCursor (b : Browser) : b.clampCursor.InBounds :=
  Nat.min_le_right b.cursor (b.rows.length - 1)

/-- There are the same rows whatever is selected. -/
theorem rows_select (b : Browser) (selected : Option String) (status : Option String) :
    Browser.rows { b with tree := { b.tree with selected }, status } = b.rows := by
  show TreeState.visibleRows { b.tree with selected } b.options b.roots = b.rows
  refine TreeState.visibleRows_congr ?_ ?_ ?_ b.options b.roots <;> rfl

/-- A highlighted row is there. -/
theorem inBounds_of_highlighted? {b : Browser} {row : Row} (h : b.highlighted? = some row) :
    b.InBounds :=
  Nat.le_sub_one_of_lt (List.getElem?_eq_some_iff.1 h).1

namespace InBounds

variable {b : Browser}

/-- A highlight in bounds stays where it is. -/
theorem clampCursor_eq (h : b.InBounds) : b.clampCursor = b := by
  unfold clampCursor
  rw [Nat.min_eq_left h]

/-- **Selecting pulls the highlight back** if rows were lost, and lets it be if rows were
added. -/
theorem select (h : b.InBounds) : b.select.value.InBounds := by
  cases hrow : b.highlighted? with
  | none =>
    rw [value_select_of_none hrow]
    exact h
  | some row =>
    rw [value_select_of_some hrow rfl rfl]
    exact inBounds_clampCursor _

/-- Nothing of the rows depends on what is selected. -/
theorem clear (h : b.InBounds) : b.clear.value.InBounds := by
  show b.cursor ≤ b.clear.value.rows.length - 1
  rw [show b.clear.value.rows = b.rows from rows_select b none b.status]
  exact h

/-- On the tab of the stars a row may go with its star, and then the highlight is pulled
back. -/
theorem toggleStar (h : b.InBounds) : b.toggleStar.InBounds := by
  unfold Browser.toggleStar
  split
  · exact h
  · exact inBounds_clampCursor _

/-- **Every action keeps the highlight on a row.** -/
theorem perform (h : b.InBounds) (action : Action) : (b.perform action).value.InBounds := by
  cases action with
  | moveDown | moveUp => exact Nat.min_le_right _ _
  | select => exact h.select
  | clear => exact h.clear
  | toggleStar => exact h.toggleStar
  | toggleTab => exact Nat.zero_le _
  | quit | nextPage | previousPage | toggleNetwork => exact h

end InBounds

/-- No key takes the highlight off the rows. -/
theorem inBounds_after (c : Catalog) (config : Config) (network : Network) (keys : List Key) :
    (after config c network keys).InBounds :=
  after_induction (P := InBounds) (Nat.zero_le _)
    (fun _ key h => press_induction h h.perform key) keys

/-- **The highlight is always on a row**, whatever the catalog, the settings and
the keys. If there are no rows, it is on the first place. -/
theorem highlight_after (c : Catalog) (config : Config) (network : Network) (keys : List Key) :
    let b := after config c network keys
    if b.rows.isEmpty then b.cursor = 0 else b.cursor < b.rows.length :=
  inBounds_iff.1 (inBounds_after c config network keys)

end Browser

end CatalogBrowser
