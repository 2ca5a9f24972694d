import CatalogBrowser.Proofs.OpenRows
import CatalogBrowser.Proofs.RowPositions

/-!
# The rows once everything is open

Opening everything goes down the forest and not down the rows. It passes over
what is hidden, it goes on below entries that were open before, and it stops
only at entries that cannot be opened. So an id is among the open ones
afterwards if it was before, or if it is the id of an entry that can be opened
and that only such entries lead to (`Forest.mem_expanded_expandAll_iff`).

That is all an entry needs to be seen, hidden ones apart. What is open before
does not matter then: an entry has a row just if it can have one at all
(`Forest.Revealed`), and opening everything once more changes nothing
(`TreeState.visibleRows_expandAll`).
-/

namespace CatalogBrowser

variable {s : TreeState} {options : ViewOptions} {datasetsAreLeaves : Bool} {r t : Resource}
  {rest forest : Forest} {pos : List Nat} {id : String}

/-- **An entry that opening everything opens**: it can be opened, and so can every
entry above it. -/
structure Forest.OpenedAt (datasetsAreLeaves : Bool) (forest : Forest) (pos : List Nat)
    (r : Resource) : Prop where
  /-- The entry is at the position. -/
  at?_eq : forest.at? pos = some r
  /-- Every entry on the way down to it can be opened, itself included. -/
  expandable : ∀ q, q <+: pos → ∀ t, forest.at? q = some t →
    t.expandable datasetsAreLeaves = true

/-- **There is an entry at a position that can be seen if enough is open.** -/
structure Forest.Revealed (options : ViewOptions) (forest : Forest) (pos : List Nat) : Prop where
  /-- There is an entry. -/
  exists_at? : ∃ r, forest.at? pos = some r
  /-- Neither it nor an entry above it is hidden. -/
  hides_eq_false : ∀ q, q <+: pos → ∀ r, forest.at? q = some r → options.hidden.hides r = false
  /-- Every entry above it can be opened. -/
  expandable : ∀ q, q <+: pos → ∀ r, forest.at? q = some r → q ≠ pos →
    r.expandable options.datasetsAreLeaves = true

namespace Forest

/-! ## What is opened -/

/-- What is opened below a root is opened with the root, and the root has to let it. -/
theorem openedAt_below (hpos : pos ≠ []) :
    OpenedAt datasetsAreLeaves (r :: rest) (0 :: pos) t ↔
      r.expandable datasetsAreLeaves = true ∧ OpenedAt datasetsAreLeaves r.children pos t := by
  constructor
  · rintro ⟨hat, hway⟩
    obtain ⟨hr, hbelow⟩ := forall_at?_prefix_below.1 hway
    exact ⟨hr, by rwa [at?_below hpos] at hat, hbelow⟩
  · rintro ⟨hr, hat, hbelow⟩
    exact ⟨by rwa [at?_below hpos], forall_at?_prefix_below.2 ⟨hr, hbelow⟩⟩

/-- A root that can be opened is opened, since there is nothing above it that has to let
it. -/
theorem openedAt_here (hr : r.expandable datasetsAreLeaves = true) :
    OpenedAt datasetsAreLeaves (r :: rest) [0] r where
  at?_eq := rfl
  expandable := forall_at?_prefix_below.2 ⟨hr, fun q hq t ht => by
    rw [List.prefix_nil.1 hq, at?_nil] at ht
    cases ht⟩

/-- What is beside a root has nothing to do with it. -/
theorem openedAt_beside {i : Nat} :
    OpenedAt datasetsAreLeaves (r :: rest) ((i + 1) :: pos) t ↔
      OpenedAt datasetsAreLeaves rest (i :: pos) t := by
  constructor
  · rintro ⟨hat, hway⟩
    exact ⟨by rwa [at?_beside] at hat, forall_at?_prefix_beside.1 hway⟩
  · rintro ⟨hat, hway⟩
    exact ⟨by rwa [at?_beside], forall_at?_prefix_beside.2 hway⟩

/-- An entry that is opened is the first one, or below the first one, or one of the
others. -/
theorem exists_openedAt_cons :
    (∃ pos t, OpenedAt datasetsAreLeaves (r :: rest) pos t ∧ t.id = id) ↔
      (r.expandable datasetsAreLeaves = true ∧
        (r.id = id ∨ ∃ pos t, OpenedAt datasetsAreLeaves r.children pos t ∧ t.id = id)) ∨
      ∃ pos t, OpenedAt datasetsAreLeaves rest pos t ∧ t.id = id := by
  constructor
  · rintro ⟨pos, t, h, rfl⟩
    rcases at?_cons_eq_some_iff.1 h.at?_eq with ⟨rfl, rfl⟩ | ⟨q, rfl, ht⟩ | ⟨i, q, rfl, -⟩
    · exact Or.inl ⟨h.expandable [0] (List.prefix_refl _) t rfl, Or.inl rfl⟩
    · obtain ⟨hr, hbelow⟩ := (openedAt_below (ne_nil_of_at? ht)).1 h
      exact Or.inl ⟨hr, Or.inr ⟨q, t, hbelow, rfl⟩⟩
    · exact Or.inr ⟨i :: q, t, openedAt_beside.1 h, rfl⟩
  · rintro (⟨hr, rfl | ⟨q, t, h, rfl⟩⟩ | ⟨q, t, h, rfl⟩)
    · exact ⟨[0], r, openedAt_here hr, rfl⟩
    · exact ⟨0 :: q, t, (openedAt_below (ne_nil_of_at? h.at?_eq)).2 ⟨hr, h⟩, rfl⟩
    · obtain ⟨i, q, rfl⟩ := List.exists_cons_of_ne_nil (ne_nil_of_at? h.at?_eq)
      exact ⟨(i + 1) :: q, t, openedAt_beside.2 h, rfl⟩

/-- **What is open once everything was opened**: what was open before, and what can
be opened with all that is above it. -/
theorem mem_expanded_expandAll_iff :
    id ∈ (Forest.expandAll datasetsAreLeaves forest s).expanded ↔
      id ∈ s.expanded ∨ ∃ pos r, OpenedAt datasetsAreLeaves forest pos r ∧ r.id = id := by
  induction forest using Forest.induction generalizing s with
  | nil =>
    refine (or_iff_left ?_).symm
    rintro ⟨pos, r, h, -⟩
    simpa using h.at?_eq
  | cons r rest ihc ihr =>
    rw [expandAll_cons, ihr, exists_openedAt_cons, ← or_assoc]
    refine or_congr_left ?_
    by_cases hr : r.expandable datasetsAreLeaves = true
    · rw [if_pos hr, ihc, TreeState.expand, IdSet.mem_insert, and_iff_right hr, ← or_assoc,
        or_comm (a := id = r.id), eq_comm]
    · simp [hr]

/-- **An entry can be seen once everything was opened** if it can be seen at all. -/
theorem visible_expandAll_iff (s : TreeState) (options : ViewOptions) :
    Forest.Visible (Forest.expandAll options.datasetsAreLeaves forest s) options forest pos ↔
      Revealed options forest pos := by
  constructor
  · rintro ⟨hat, hhides, hopens⟩
    exact ⟨hat, hhides, fun q hq r hr hne => (hopens q hq r hr hne).1⟩
  · rintro ⟨hat, hhides, hable⟩
    refine ⟨hat, hhides, fun q hq r hr hne => ⟨hable q hq r hr hne, ?_⟩⟩
    -- What leads to an entry above leads to the entry itself.
    refine mem_expanded_expandAll_iff.2 (Or.inr ⟨q, r, ⟨hr, fun p hp t ht => ?_⟩, rfl⟩)
    refine hable p (hp.trans hq) t ht fun heq => hne ?_
    exact hq.eq_of_length (Nat.le_antisymm hq.length_le (heq ▸ hp.length_le))

/-- **Opening everything twice** is opening everything once. -/
theorem expandAll_expandAll (datasetsAreLeaves : Bool) (forest : Forest) (s : TreeState) :
    Forest.expandAll datasetsAreLeaves forest (Forest.expandAll datasetsAreLeaves forest s)
      = Forest.expandAll datasetsAreLeaves forest s := by
  have hexpanded : (Forest.expandAll datasetsAreLeaves forest
      (Forest.expandAll datasetsAreLeaves forest s)).expanded
        = (Forest.expandAll datasetsAreLeaves forest s).expanded := by
    refine IdSet.ext_mem fun id => ?_
    rw [mem_expanded_expandAll_iff, mem_expanded_expandAll_iff, or_assoc, or_self]
  refine (expandAll_eq_with datasetsAreLeaves forest _).trans ?_
  rw [hexpanded]

end Forest

/-! ## What is seen -/

/-- **Opening everything reveals everything.** Whatever was open before, with
everything opened the tab of all entries has one row for every position at
which an entry can be seen if enough is open, in the order of positions, and
every row that can be opened is open. The state has changed in what is open
alone, nothing that was open is closed, and a second time changes nothing. -/
theorem TreeState.visibleRows_expandAll (s : TreeState) (datasetsAreLeaves : Bool)
    (hidden : Hidden) (roots : Forest) :
    let options : ViewOptions := ⟨datasetsAreLeaves, hidden, .all⟩
    let s' := Forest.expandAll datasetsAreLeaves roots s
    (∃ positions : List (List Nat),
      positions.Pairwise (· < ·) ∧
      (∀ pos, pos ∈ positions ↔ Forest.Revealed options roots pos) ∧
      List.Forall₂ (Row.Shows s' options 0 roots) positions (s'.visibleRows options roots)) ∧
    (∀ row ∈ s'.visibleRows options roots, row.expandable = true → row.expanded = true) ∧
    s' = { s with expanded := s'.expanded } ∧
    (∀ id ∈ s.expanded, id ∈ s'.expanded) ∧
    Forest.expandAll datasetsAreLeaves roots s' = s' := by
  intro options s'
  have hrows : s'.visibleRows options roots = Forest.rows s' options 0 roots := rfl
  refine ⟨⟨Forest.rowPositions s' options roots, Forest.pairwise_rowPositions, fun pos => ?_, ?_⟩,
    fun row hrow hable => ?_, Forest.expandAll_eq_with datasetsAreLeaves roots s,
    fun id hid => Forest.mem_expandAll_of_mem hid,
    Forest.expandAll_expandAll datasetsAreLeaves roots s⟩
  · exact Forest.mem_rowPositions_iff.trans (Forest.visible_expandAll_iff s options)
  · rw [hrows]
    exact Forest.forall₂_rows 0 roots
  · rw [hrows] at hrow
    refine (Forest.expanded_iff_of_mem_rows hrow).2 ⟨hable, ?_⟩
    exact Forest.mem_expanded_of_mem_rows
      (show ∀ id ∈ (Forest.expandAll options.datasetsAreLeaves roots s).expanded,
        id ∈ s'.expanded from fun _ hid => hid) hrow hable

/-- Homes are opened although they are hidden, and views are not, since they are
leaves here. The rows are those of what can be reached without either. -/
theorem TreeState.visibleRows_expandAll_twoSales :
    let s := TreeState.initial.expand "attic"
    let options : ViewOptions := ⟨true, { homes := true }, .all⟩
    let s' := Forest.expandAll true twoSales s
    let rows := s'.visibleRows options twoSales
    s'.expanded.toList = ["Sales", "alice", "attic"] ∧
      rows.map (fun row => (row.depth, row.id, row.expanded))
        = [(0, "Sales", true), (1, "Sales.orders", false), (0, "Sales", true),
          (1, "Sales.readme", false)] ∧
      (∃ positions : List (List Nat),
        positions.Pairwise (· < ·) ∧
        (∀ pos, pos ∈ positions ↔ Forest.Revealed options twoSales pos) ∧
        List.Forall₂ (Row.Shows s' options 0 twoSales) positions rows) ∧
      Forest.expandAll true twoSales s' = s' := by
  intro s options s' rows
  obtain ⟨hpositions, -, -, -, htwice⟩ :=
    TreeState.visibleRows_expandAll s true { homes := true } twoSales
  exact ⟨by decide +kernel, by decide +kernel, hpositions, htwice⟩

end CatalogBrowser
