import CatalogBrowser.Proofs.Rows

/-!
# Rows and what is open

Which rows there are depends on which entries are open, and only on that.
`Forest.agreeUntil_rows` says how far the dependence goes: the rows of two
states stand at the same places up to the first row that one of them shows
open and the other closed, that row included. What is open further down
cannot change what comes before. The same holds of the tab of starred
entries (`TreeState.agreeUntil_visibleRows`).

At the far end stands the state in which everything is open. In it every row
that can be opened is open (`Forest.mem_expanded_of_mem_rows`), although it
was opened without a look at the rows, and among entries that no row shows.
-/

namespace CatalogBrowser

/-! ## Opening everything at once -/

namespace Forest

/-- A root that can be opened is opened before what is below it. One that cannot is passed
over with everything below it. -/
theorem expandAll_cons (datasetsAreLeaves : Bool) (r : Resource) (rest : Forest)
    (s : TreeState) :
    Forest.expandAll datasetsAreLeaves (r :: rest) s
      = Forest.expandAll datasetsAreLeaves rest
          (if r.expandable datasetsAreLeaves then
            Forest.expandAll datasetsAreLeaves r.children (s.expand r.id)
          else s) := by
  cases r
  rfl

/-- Opening everything changes nothing but what is open. -/
theorem expandAll_eq_with (datasetsAreLeaves : Bool) (forest : Forest) (s : TreeState) :
    Forest.expandAll datasetsAreLeaves forest s
      = { s with expanded := (Forest.expandAll datasetsAreLeaves forest s).expanded } := by
  induction forest using Forest.induction generalizing s with
  | nil => rfl
  | cons r rest ihc ihr =>
    rw [expandAll_cons, ihr]
    split
    · rw [ihc]
      rfl
    · rfl

/-- Opening everything leaves the stars alone. -/
theorem starred_expandAll (datasetsAreLeaves : Bool) (forest : Forest) (s : TreeState) :
    (Forest.expandAll datasetsAreLeaves forest s).starred = s.starred := by
  rw [expandAll_eq_with]

/-- And nothing waits because of it, since what it opens is in the catalog as a whole. -/
theorem loading_expandAll (datasetsAreLeaves : Bool) (forest : Forest) (s : TreeState) :
    (Forest.expandAll datasetsAreLeaves forest s).loading = s.loading := by
  rw [expandAll_eq_with]

/-- Opening everything closes nothing. -/
theorem mem_expandAll_of_mem {datasetsAreLeaves : Bool} {forest : Forest} {s : TreeState}
    {id : String} (h : id ∈ s.expanded) :
    id ∈ (Forest.expandAll datasetsAreLeaves forest s).expanded := by
  induction forest using Forest.induction generalizing s with
  | nil => exact h
  | cons r rest ihc ihr =>
    rw [expandAll_cons]
    refine ihr ?_
    split
    · exact ihc (IdSet.mem_insert.2 (Or.inr h))
    · exact h

/-- **Every row that can be opened is open** once everything is. -/
theorem mem_expanded_of_mem_rows {s s' : TreeState} {options : ViewOptions} {depth : Nat}
    {forest : Forest}
    (h : ∀ id ∈ (Forest.expandAll options.datasetsAreLeaves forest s).expanded,
      id ∈ s'.expanded)
    {row : Row} (hrow : row ∈ Forest.rows s' options depth forest)
    (hable : row.expandable = true) : row.id ∈ s'.expanded := by
  induction forest using Forest.induction generalizing s depth with
  | nil => exact absurd hrow List.not_mem_nil
  | cons r rest ihc ihr =>
    rw [expandAll_cons] at h
    rw [rows_cons, List.mem_append, Resource.rows_eq] at hrow
    rcases hrow with hrow | hrow
    · split at hrow
      · exact absurd hrow List.not_mem_nil
      · rcases List.mem_cons.1 hrow with rfl | hrow
        · have hr : r.expandable options.datasetsAreLeaves = true := hable
          rw [if_pos hr] at h
          exact h _ (mem_expandAll_of_mem (mem_expandAll_of_mem
            (IdSet.mem_insert.2 (Or.inl rfl))))
        · split at hrow
          · next hopen =>
            have hr : r.expandable options.datasetsAreLeaves = true :=
              (TreeState.expanded_row_iff.1 hopen).1
            rw [if_pos hr] at h
            exact ihc (fun id hid => h id (mem_expandAll_of_mem hid)) hrow
          · exact absurd hrow List.not_mem_nil
    · exact ihr h hrow

end Forest

/-! ## Rows up to the first difference -/

/-- Where a row stands: how deep, and which entry it shows. -/
def Row.place (row : Row) : Nat × Resource := (row.depth, row.resource)

/-- Two states agree on whether a row that can be opened is open. -/
def Row.OpenAlike (s s' : TreeState) (row : Row) : Prop :=
  row.expandable = true → (row.id ∈ s.expanded ↔ row.id ∈ s'.expanded)

/-- **Rows that stand at the same places, up to and with the first row of which
`P` does not hold.** -/
def Row.AgreeUntil (P : Row → Prop) : List Row → List Row → Prop
  | [], [] => True
  | row :: rows, row' :: rows' => row.place = row'.place ∧ (P row → Row.AgreeUntil P rows rows')
  | _, _ => False

namespace Row.AgreeUntil

variable {P : Row → Prop}

/-- Lists that agree may be continued. What comes after a row of which `P` does not
hold does not matter. -/
theorem append {rows rows' more more' : List Row} (h : AgreeUntil P rows rows')
    (hmore : (∀ row ∈ rows, P row) → AgreeUntil P more more') :
    AgreeUntil P (rows ++ more) (rows' ++ more') := by
  induction rows generalizing rows' with
  | nil =>
    cases rows' with
    | nil => exact hmore fun _ hrow => absurd hrow List.not_mem_nil
    | cons => exact h.elim
  | cons row rows ih =>
    cases rows' with
    | nil => exact h.elim
    | cons row' rows' =>
      exact ⟨h.1, fun hp => ih (h.2 hp) fun hps => hmore (List.forall_mem_cons.2 ⟨hp, hps⟩)⟩

/-- If `P` holds of all rows, all stand at the same places. -/
theorem map_place {rows rows' : List Row} (h : AgreeUntil P rows rows')
    (hall : ∀ row ∈ rows, P row) : rows.map place = rows'.map place := by
  induction rows generalizing rows' with
  | nil =>
    cases rows' with
    | nil => rfl
    | cons => exact h.elim
  | cons row rows ih =>
    cases rows' with
    | nil => exact h.elim
    | cons row' rows' =>
      rw [List.forall_mem_cons] at hall
      rw [List.map_cons, List.map_cons, h.1, ih (h.2 hall.1) hall.2]

/-- If `P` holds of the first `n` rows, the first `n + 1` stand at the same
places. -/
theorem map_place_take {rows rows' : List Row} (h : AgreeUntil P rows rows') {n : Nat}
    (hn : ∀ row ∈ rows.take n, P row) :
    (rows.take (n + 1)).map place = (rows'.take (n + 1)).map place := by
  induction n generalizing rows rows' with
  | zero =>
    cases rows <;> cases rows'
    · rfl
    · exact h.elim
    · exact h.elim
    · simpa using h.1
  | succ n ih =>
    cases rows <;> cases rows'
    · rfl
    · exact h.elim
    · exact h.elim
    · rw [List.take_succ_cons, List.forall_mem_cons] at hn
      rw [List.take_succ_cons, List.take_succ_cons, List.map_cons, List.map_cons, h.1,
        ih (h.2 hn.1) hn.2]

end Row.AgreeUntil

namespace Forest

/-- **The rows of two states agree until the states disagree on whether a row is
open.** -/
theorem agreeUntil_rows (s s' : TreeState) (options : ViewOptions) (depth : Nat)
    (forest : Forest) :
    Row.AgreeUntil (Row.OpenAlike s s') (Forest.rows s options depth forest)
      (Forest.rows s' options depth forest) := by
  induction forest using Forest.induction generalizing depth with
  | nil => trivial
  | cons r rest ihc ihr =>
    rw [rows_cons, rows_cons, Resource.rows_eq, Resource.rows_eq]
    refine Row.AgreeUntil.append ?_ fun _ => ihr depth
    by_cases hides : options.hidden.hides r = true
    · rw [if_pos hides, if_pos hides]
      trivial
    · rw [if_neg hides, if_neg hides]
      refine ⟨rfl, fun hagree => ?_⟩
      rw [← TreeState.expanded_row_congr hagree]
      split
      · exact ihc (depth + 1)
      · trivial

/-- **The rows of two states are the same** if they agree on every row of one of
them. -/
theorem rows_congr {s s' : TreeState} {options : ViewOptions} {depth : Nat} {forest : Forest}
    (hopen : ∀ row ∈ Forest.rows s options depth forest, row.expandable = true →
      (row.id ∈ s.expanded ↔ row.id ∈ s'.expanded))
    (hstarred : s.starred = s'.starred) (hloading : s.loading = s'.loading) :
    Forest.rows s options depth forest = Forest.rows s' options depth forest := by
  induction forest using Forest.induction generalizing depth with
  | nil => rfl
  | cons r rest ihc ihr =>
    simp only [rows_cons, List.mem_append, or_imp, forall_and] at hopen
    obtain ⟨hhere, hrest⟩ := hopen
    rw [rows_cons, rows_cons, ihr hrest]
    refine congrArg (· ++ _) ?_
    rw [Resource.rows_eq] at hhere ⊢
    rw [Resource.rows_eq]
    by_cases hides : options.hidden.hides r = true
    · rw [if_pos hides, if_pos hides]
    · rw [if_neg hides, List.forall_mem_cons] at hhere
      rw [if_neg hides, if_neg hides]
      have hrow : s.row options depth r = s'.row options depth r := by
        simp only [TreeState.row, TreeState.isStarred, TreeState.isLoading, hstarred, hloading,
          Row.mk.injEq, true_and, and_true]
        exact TreeState.expanded_row_congr hhere.1
      rw [← hrow]
      refine congrArg (_ :: ·) ?_
      split at hhere
      · next hopen =>
        rw [if_pos hopen, if_pos hopen]
        exact ihc hhere.2
      · next hclosed => rw [if_neg hclosed, if_neg hclosed]

/-- Which entries are listed for their stars depends on the stars alone. -/
theorem starredNodes_congr {s s' : TreeState} (h : s.starred = s'.starred) (hidden : Hidden)
    (forest : Forest) :
    Forest.starredNodes s hidden forest = Forest.starredNodes s' hidden forest := by
  induction forest using Forest.induction with
  | nil => rfl
  | cons r rest ihc ihr =>
    rw [starredNodes_cons, starredNodes_cons, ihc, ihr, TreeState.isStarred,
      TreeState.isStarred, h]

/-- The rows show different entries if the forest is distinct. -/
theorem paths_rows_sublist (s : TreeState) (options : ViewOptions) (depth : Nat)
    (forest : Forest) :
    ((Forest.rows s options depth forest).map (·.resource.path)).Sublist (paths forest) := by
  induction forest using Forest.induction generalizing depth with
  | nil => exact List.Sublist.refl _
  | cons r rest ihc ihr =>
    rw [rows_cons, List.map_append, paths_cons, ← List.cons_append, Resource.rows_eq]
    refine List.Sublist.append ?_ (ihr depth)
    split
    · exact List.nil_sublist _
    · rw [List.map_cons]
      refine List.Sublist.cons_cons _ ?_
      split
      · exact ihc (depth + 1)
      · exact List.nil_sublist _

end Forest

/-- **The rows of the tree do not depend on what is selected**, but only on what
is open, starred and waiting. -/
theorem TreeState.visibleRows_congr {s s' : TreeState} (hexpanded : s.expanded = s'.expanded)
    (hstarred : s.starred = s'.starred) (hloading : s.loading = s'.loading)
    (options : ViewOptions) (forest : Forest) :
    s.visibleRows options forest = s'.visibleRows options forest := by
  have hrows : ∀ forest, Forest.rows s options 0 forest = Forest.rows s' options 0 forest :=
    fun forest => Forest.rows_congr (fun _ _ _ => by rw [hexpanded]) hstarred hloading
  have hlist : s.listStarred options = s'.listStarred options := by
    funext rows r
    rw [listStarred, listStarred, ← Forest.rows_singleton, ← Forest.rows_singleton, hrows]
  unfold visibleRows
  rw [hrows, hlist, Forest.starredNodes_congr hstarred]

/-! ## On either tab -/

namespace TreeState

/-- One more starred entry adds its rows, or none. -/
theorem listStarred_eq_append (s : TreeState) (options : ViewOptions) (rows : List Row)
    (r : Resource) :
    s.listStarred options rows r
      = rows ++ if rows.any (·.id = r.id) then [] else Forest.rows s options 0 [r] := by
  rw [listStarred, Forest.rows_singleton]
  split
  · rw [List.append_nil]
  · rfl

/-- Whether an id is among the rows can be read off their places. -/
theorem any_id_congr {rows rows' : List Row} (h : rows.map Row.place = rows'.map Row.place)
    (id : String) : rows.any (·.id = id) = rows'.any (·.id = id) := by
  have hany : ∀ rows : List Row,
      rows.any (·.id = id) = (rows.map Row.place).any (·.2.id = id) := by
    intro rows
    rw [List.any_map]
    rfl
  rw [hany, hany, h]

/-- The lists of starred entries agree if those that came before do. Which entries
are passed over depends on the rows that are there. -/
theorem agreeUntil_foldl_listStarred (s s' : TreeState) (options : ViewOptions)
    (starred : Forest) {rows rows' : List Row}
    (h : Row.AgreeUntil (Row.OpenAlike s s') rows rows') :
    Row.AgreeUntil (Row.OpenAlike s s') (starred.foldl (s.listStarred options) rows)
      (starred.foldl (s'.listStarred options) rows') := by
  induction starred generalizing rows rows' with
  | nil => exact h
  | cons r rest ih =>
    refine ih ?_
    rw [listStarred_eq_append, listStarred_eq_append]
    refine h.append fun hall => ?_
    rw [any_id_congr (h.map_place hall)]
    split
    · trivial
    · exact Forest.agreeUntil_rows s s' options 0 [r]

/-- **On either tab the rows agree until the states disagree on whether a row is
open.** -/
theorem agreeUntil_visibleRows {s s' : TreeState} (hstarred : s.starred = s'.starred)
    (options : ViewOptions) (forest : Forest) :
    Row.AgreeUntil (Row.OpenAlike s s') (s.visibleRows options forest)
      (s'.visibleRows options forest) := by
  unfold visibleRows
  split
  · exact Forest.agreeUntil_rows s s' options 0 forest
  · rw [Forest.starredNodes_congr hstarred]
    exact agreeUntil_foldl_listStarred s s' options _ trivial

end TreeState

end CatalogBrowser
