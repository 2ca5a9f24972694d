import CatalogBrowser.Proofs.OpenRows
import Mathlib.Data.List.Basic

/-!
# The tab of starred entries

On this tab every starred entry that is not left out starts a list of its
own, unless an earlier list shows it already. Whether one does is found out
by going through the ids of all rows there are so far.

This module says what comes out of that in terms of the tree
(`TreeState.visibleRows_starred`). A starred entry is passed over just if an
entry above it is starred and can be seen down to it, with every entry from
there to the parent open. For an entry is above those below it also in
pre-order, so by the time a starred entry is reached, whatever could show it
has been listed (`Forest.foldl_listStarred`). And nothing is shown twice,
since a list that goes past a starred entry shows that entry, too, and so
leaves the whole list below it to be shown once
(`Forest.shown_leads_perm`).

Entries are taken together with the entries above them (`Place`), so that
each statement speaks of one place in the tree.
-/

namespace CatalogBrowser

/-! ## Places -/

/-- **An entry at its place in a tree.** -/
structure Place where
  /-- The entry. -/
  resource : Resource
  /-- The entries above it, the nearest first. -/
  above : List Resource

mutual

/-- The places of an entry and of all below it, in pre-order. -/
def Resource.places (above : List Resource) : Resource → List Place
  | ⟨kind, name, path, children⟩ =>
    ⟨⟨kind, name, path, children⟩, above⟩ ::
      Forest.places (⟨kind, name, path, children⟩ :: above) children

/-- **The places of a forest in pre-order**, below the given entries. -/
def Forest.places (above : List Resource) : Forest → List Place
  | [] => []
  | r :: rs => r.places above ++ Forest.places above rs

end

namespace Forest

@[simp]
theorem places_nil (above : List Resource) : Forest.places above [] = [] := rfl

/-- The first place is that of the first root, and the root is above everything that is
below it. -/
theorem places_cons (above : List Resource) (r : Resource) (rest : Forest) :
    Forest.places above (r :: rest)
      = ⟨r, above⟩ :: (Forest.places (r :: above) r.children ++ Forest.places above rest) := by
  cases r
  rfl

/-- **There is one place for every entry.** -/
theorem map_resource_places (above : List Resource) (forest : Forest) :
    (Forest.places above forest).map (·.resource) = Forest.nodes forest := by
  induction forest using Forest.induction generalizing above with
  | nil => rfl
  | cons r rest ihc ihr =>
    rw [places_cons, nodes_cons, List.map_cons, List.map_append, ihc, ihr]

/-- The entries above a forest are above each place in it. -/
theorem suffix_of_mem_places {above : List Resource} {forest : Forest} {p : Place}
    (h : p ∈ Forest.places above forest) : above <:+ p.above := by
  induction forest using Forest.induction generalizing above with
  | nil => exact absurd h List.not_mem_nil
  | cons r rest ihc ihr =>
    rw [places_cons, List.mem_cons, List.mem_append] at h
    rcases h with rfl | h | h
    · exact List.suffix_refl above
    · exact (List.suffix_cons r above).trans (ihc h)
    · exact ihr h

end Forest

/-- The entry at a place, if the place is picked. -/
def Place.pick (P : Place → Prop) [DecidablePred P] (p : Place) : Forest :=
  if P p then [p.resource] else []

/-- **The entries at the places that are picked**, in pre-order. -/
def Forest.pick (P : Place → Prop) [DecidablePred P] (above : List Resource) (forest : Forest) :
    Forest :=
  ((Forest.places above forest).filter (P ·)).map (·.resource)

section Pick

variable {P : Place → Prop} [DecidablePred P] {above : List Resource} {forest : Forest}

/-- A place gives its own entry or nothing. -/
theorem Place.eq_of_mem_pick {p : Place} {t : Resource} (h : t ∈ p.pick P) : t = p.resource := by
  unfold Place.pick at h
  split at h
  · exact List.mem_singleton.1 h
  · exact absurd h List.not_mem_nil

namespace Forest

/-- Entries are picked in pre-order, with what is above each of them at hand. -/
theorem pick_cons (r : Resource) (rest : Forest) :
    Forest.pick P above (r :: rest)
      = Place.pick P ⟨r, above⟩ ++ Forest.pick P (r :: above) r.children
        ++ Forest.pick P above rest := by
  unfold Forest.pick Place.pick
  rw [places_cons, List.filter_cons, List.filter_append]
  split <;> rename_i h
  · rw [if_pos (of_decide_eq_true h), List.map_cons, List.map_append]
    rfl
  · rw [if_neg fun hp => h (decide_eq_true hp), List.map_append]
    rfl

/-- Nothing is picked where no place is. -/
theorem pick_eq_nil (h : ∀ p ∈ Forest.places above forest, ¬ P p) :
    Forest.pick P above forest = [] := by
  unfold Forest.pick
  rw [List.map_eq_nil_iff, List.filter_eq_nil_iff]
  exact fun p hp hP => h p hp (of_decide_eq_true hP)

/-- What is picked are entries of the forest, in their order. -/
theorem pick_sublist : (Forest.pick P above forest).Sublist (Forest.nodes forest) := by
  rw [← map_resource_places above]
  exact List.filter_sublist.map _

end Forest

end Pick

/-! ## What is listed, and what is covered -/

section Listing

variable (s : TreeState) (options : ViewOptions)

/-- An entry that can be opened and is open. -/
def TreeState.Opens (r : Resource) : Prop :=
  r.expandable options.datasetsAreLeaves = true ∧ r.id ∈ s.expanded

instance (r : Resource) : Decidable (s.Opens options r) := inferInstanceAs (Decidable (_ ∧ _))

/-- **A starred entry that is not left out**: neither it nor an entry above it is
hidden. -/
def Place.Listed (p : Place) : Prop :=
  p.resource.id ∈ s.starred ∧ ∀ r ∈ p.resource :: p.above, options.hidden.hides r = false

instance (p : Place) : Decidable (p.Listed s options) := inferInstanceAs (Decidable (_ ∧ _))

/-- **What stands below these entries is shown by one of them**: one is listed, and
it is open with all that are below it. -/
def Place.Covers (above : List Resource) : Prop :=
  ∃ front r back, above = front ++ r :: back ∧ Place.Listed s options ⟨r, back⟩ ∧
    ∀ t ∈ front ++ [r], s.Opens options t

theorem Place.not_covers_nil : ¬ Place.Covers s options [] := by
  rintro ⟨front, r, back, h, -⟩
  exact absurd h.symm (List.append_ne_nil_of_right_ne_nil front (List.cons_ne_nil _ _))

/-- The nearest entry above is open, and it is listed or shown itself. -/
theorem Place.covers_cons {r : Resource} {above : List Resource} :
    Place.Covers s options (r :: above) ↔
      s.Opens options r ∧ (Place.Listed s options ⟨r, above⟩ ∨ Place.Covers s options above) := by
  constructor
  · rintro ⟨front, t, back, heq, hlisted, hopen⟩
    cases front with
    | nil =>
      obtain ⟨rfl, rfl⟩ := List.cons.inj heq
      exact ⟨hopen r (by simp), Or.inl hlisted⟩
    | cons first front =>
      obtain ⟨rfl, rfl⟩ := List.cons.inj heq
      exact ⟨hopen r (by simp), Or.inr ⟨front, t, back, rfl, hlisted, fun u hu =>
        hopen u (List.mem_cons_of_mem _ hu)⟩⟩
  · rintro ⟨hr, hlisted | ⟨front, t, back, rfl, hlisted, hopen⟩⟩
    · exact ⟨[], r, above, rfl, hlisted, fun u hu => List.mem_singleton.1 hu ▸ hr⟩
    · exact ⟨r :: front, t, back, rfl, hlisted, List.forall_mem_cons.2 ⟨hr, hopen⟩⟩

instance Place.decidableCovers : (above : List Resource) → Decidable (Place.Covers s options above)
  | [] => .isFalse (Place.not_covers_nil s options)
  | _ :: above =>
    have := Place.decidableCovers above
    decidable_of_iff _ (Place.covers_cons s options).symm

/-- **A starred entry that starts a list of its own.** -/
def Place.Leads (p : Place) : Prop := p.Listed s options ∧ ¬ Place.Covers s options p.above

instance (p : Place) : Decidable (p.Leads s options) := inferInstanceAs (Decidable (_ ∧ _))

/-- **An entry that is seen**: it is starred or covered, and not left out. -/
def Place.Seen (p : Place) : Prop :=
  (∀ r ∈ p.resource :: p.above, options.hidden.hides r = false) ∧
    (p.resource.id ∈ s.starred ∨ Place.Covers s options p.above)

instance (p : Place) : Decidable (p.Seen s options) := inferInstanceAs (Decidable (_ ∧ _))

/-- The entries in the rows of a forest. -/
def Forest.shown (forest : Forest) : Forest := (Forest.rows s options 0 forest).map (·.resource)

end Listing

variable {s : TreeState} {options : ViewOptions} {above : List Resource} {r : Resource}
  {rest : Forest}

namespace Forest

/-- Nothing that must not be hidden is picked at or below an entry that is. -/
theorem pick_of_hides (P : Place → Prop) [DecidablePred P] (above : List Resource)
    (hP : ∀ p, P p → ∀ t ∈ p.resource :: p.above, options.hidden.hides t = false)
    (hides : options.hidden.hides r = true) :
    Place.pick P ⟨r, above⟩ = [] ∧ ∀ forest, Forest.pick P (r :: above) forest = [] := by
  constructor
  · refine if_neg fun h => ?_
    have hclear := hP _ h r List.mem_cons_self
    exact nomatch hides.symm.trans hclear
  · intro forest
    refine pick_eq_nil fun p hp h => ?_
    have hmem : r ∈ p.above := (suffix_of_mem_places hp).subset List.mem_cons_self
    have hclear := hP p h r (List.mem_cons_of_mem _ hmem)
    exact nomatch hides.symm.trans hclear

/-! ## What a list shows -/

/-- The rows of a forest show the same entries at any depth. -/
theorem map_resource_rows (depth : Nat) (forest : Forest) :
    (Forest.rows s options depth forest).map (·.resource) = Forest.shown s options forest := by
  unfold shown
  induction forest using Forest.induction generalizing depth with
  | nil => rfl
  | cons r rest ihc ihr =>
    rw [rows_cons, rows_cons, List.map_append, List.map_append, ihr depth, Resource.rows_eq,
      Resource.rows_eq]
    refine congrArg (· ++ _) ?_
    split
    · rfl
    · rw [List.map_cons, List.map_cons]
      refine congrArg (_ :: ·) ?_
      show List.map _ (if (s.row options depth r).expanded then _ else _)
        = List.map _ (if (s.row options depth r).expanded then _ else _)
      split
      · rw [ihc (depth + 1), ihc (0 + 1)]
      · rfl

/-- What is shown of a forest is shown root by root, a hidden root with nothing below it. -/
theorem shown_cons :
    Forest.shown s options (r :: rest)
      = (if options.hidden.hides r then []
          else r :: if s.Opens options r then Forest.shown s options r.children else [])
        ++ Forest.shown s options rest := by
  rw [← map_resource_rows 0, rows_cons, List.map_append, map_resource_rows, Resource.rows_eq]
  refine congrArg (· ++ _) ?_
  split
  · rfl
  · rw [List.map_cons]
    refine congrArg (_ :: ·) ?_
    by_cases hopen : s.Opens options r
    · rw [if_pos hopen, if_pos (TreeState.expanded_row_iff.2 hopen), map_resource_rows]
    · rw [if_neg hopen, if_neg fun h => hopen (TreeState.expanded_row_iff.1 h)]
      rfl

@[simp]
theorem shown_nil : Forest.shown s options [] = [] := rfl

/-- The paths in the rows of a forest are paths of the forest. -/
theorem mem_paths_of_mem_shown {forest : Forest} {path : List String}
    (h : path ∈ (Forest.shown s options forest).map (·.path)) : path ∈ paths forest := by
  rw [shown, List.map_map] at h
  exact (paths_rows_sublist s options 0 forest).subset h

/-- In the rows of a forest what stands below its first entry is shown if the entry
is not hidden and open. -/
theorem mem_shown_below (hd : Distinct (r :: rest)) {t : Resource}
    (ht : t ∈ Forest.nodes r.children) :
    t.path ∈ (Forest.shown s options (r :: rest)).map (·.path) ↔
      options.hidden.hides r = false ∧ s.Opens options r ∧
        t.path ∈ (Forest.shown s options r.children).map (·.path) := by
  obtain ⟨hrc, -, -, -, hcr⟩ := distinct_cons.1 hd
  have hpath := path_mem_paths ht
  have hrest : t.path ∉ (Forest.shown s options rest).map (·.path) :=
    fun h => hcr _ hpath (mem_paths_of_mem_shown h)
  have hne : t.path ≠ r.path := fun h => hrc (h ▸ hpath)
  rw [shown_cons, List.map_append, List.mem_append, or_iff_left hrest]
  by_cases hides : options.hidden.hides r = true
  · simp [hides]
  · by_cases hopen : s.Opens options r <;> simp [hides, hopen, hne]

/-- What stands beside its first entry is shown if it is shown among the others. -/
theorem mem_shown_beside (hd : Distinct (r :: rest)) {t : Resource}
    (ht : t ∈ Forest.nodes rest) :
    t.path ∈ (Forest.shown s options (r :: rest)).map (·.path) ↔
      t.path ∈ (Forest.shown s options rest).map (·.path) := by
  obtain ⟨-, hrr, -, -, hcr⟩ := distinct_cons.1 hd
  have hpath := path_mem_paths ht
  have hne : t.path ≠ r.path := fun h => hrr (h ▸ hpath)
  have hbelow : t.path ∉ (Forest.shown s options r.children).map (·.path) :=
    fun h => hcr _ (mem_paths_of_mem_shown h) hpath
  rw [shown_cons, List.map_append, List.mem_append, or_iff_right]
  by_cases hides : options.hidden.hides r = true
  · simp [hides]
  · by_cases hopen : s.Opens options r
    · simpa [hides, hopen, hne] using hbelow
    · simp [hides, hopen, hne]

/-! ## What is listed -/

/-- A list starts with its own entry, which is among the entries in its rows. -/
theorem map_path_rows (s : TreeState) (options : ViewOptions) (r : Resource) :
    (r.rows s options 0).map (·.resource.path) = (Forest.shown s options [r]).map (·.path) := by
  rw [shown, rows_singleton, List.map_map]
  rfl

/-- Lists that entries of a forest start show entries of the forest. -/
theorem mem_paths_of_mem_lists {heads forest : Forest} (h : ∀ t ∈ heads, t ∈ Forest.nodes forest)
    {path : List String}
    (hpath : path ∈ (heads.flatMap (·.rows s options 0)).map (·.resource.path)) :
    path ∈ paths forest := by
  obtain ⟨row, hrow, rfl⟩ := List.mem_map.1 hpath
  obtain ⟨t, ht, hrow⟩ := List.mem_flatMap.1 hrow
  have hshown : row.resource.path ∈ (Forest.shown s options [t]).map (·.path) := by
    rw [← map_path_rows]
    exact List.mem_map_of_mem hrow
  rcases mem_paths_cons.1 (mem_paths_of_mem_shown hshown) with heq | hbelow | hnil
  · exact heq ▸ path_mem_paths (h t ht)
  · exact mem_paths_of_mem_children (h t ht) hbelow
  · exact absurd hnil List.not_mem_nil

end Forest

/-- Where nothing is hidden, an entry is listed for its star. -/
theorem Place.listed_iff (hclear : ∀ t ∈ above, options.hidden.hides t = false)
    (hides : options.hidden.hides r = false) :
    Place.Listed s options ⟨r, above⟩ ↔ r.id ∈ s.starred :=
  and_iff_left (List.forall_mem_cons.2 ⟨hides, hclear⟩)

/-- A row shows an id if it shows the path. -/
theorem Row.any_id_iff {rows : List Row} :
    rows.any (·.id = r.id) = true ↔ r.path ∈ rows.map (·.resource.path) := by
  rw [List.any_eq_true, List.mem_map]
  refine exists_congr fun row => and_congr_right fun _ => ?_
  rw [decide_eq_true_iff]
  exact Path.id_inj

/-- **One more starred entry starts a list unless it is covered**, if the rows there
are show it just in that case. -/
theorem TreeState.listStarred_eq {rows : List Row}
    (hlisted : Place.Listed s options ⟨r, above⟩)
    (hrows : r.path ∈ rows.map (·.resource.path) ↔ Place.Covers s options above) :
    s.listStarred options rows r
      = rows ++ if Place.Leads s options ⟨r, above⟩ then r.rows s options 0 else [] := by
  by_cases hcovers : Place.Covers s options above
  · rw [listStarred, if_pos (Row.any_id_iff.2 (hrows.2 hcovers)), if_neg fun h => h.2 hcovers,
      List.append_nil]
  · rw [listStarred, if_neg fun h => hcovers (hrows.1 (Row.any_id_iff.1 h)),
      if_pos ⟨hlisted, hcovers⟩]

namespace Forest

variable {forest : Forest} {rows : List Row}

/-- **The rows there are show of a forest just what is covered.** -/
def ShowsCovered (s : TreeState) (options : ViewOptions) (above : List Resource)
    (forest : Forest) (rows : List Row) : Prop :=
  ∀ t ∈ Forest.nodes forest, t.path ∈ rows.map (·.resource.path) ↔
    Place.Covers s options above ∧ t.path ∈ (Forest.shown s options forest).map (·.path)

/-- Before the first list nothing is shown, and nothing is covered. -/
theorem showsCovered_nil : ShowsCovered s options [] forest [] := fun _ _ =>
  iff_of_false List.not_mem_nil fun h => Place.not_covers_nil s options h.1

namespace ShowsCovered

/-- The lists of the first entry and of what is below it do not matter for the
others. -/
theorem beside (h : ShowsCovered s options above (r :: rest) rows)
    (hd : Distinct (r :: rest)) {heads : Forest} (hheads : ∀ t ∈ heads, t ∈ Forest.nodes [r]) :
    ShowsCovered s options above rest (rows ++ heads.flatMap (·.rows s options 0)) := by
  intro t ht
  obtain ⟨-, hrr, -, -, hcr⟩ := distinct_cons.1 hd
  have hpath := path_mem_paths ht
  have hnot : t.path ∉ (heads.flatMap (·.rows s options 0)).map (·.resource.path) := by
    intro hlist
    rcases mem_paths_cons.1 (mem_paths_of_mem_lists hheads hlist) with heq | hbelow | hnil
    · exact hrr (heq ▸ hpath)
    · exact hcr _ hbelow hpath
    · exact absurd hnil List.not_mem_nil
  rw [List.map_append, List.mem_append, or_iff_left hnot, h t (by simp [ht]),
    mem_shown_beside hd ht]

/-- What is below the first entry is covered if the entry is open, and is covered
itself or starts a list. -/
theorem below (h : ShowsCovered s options above (r :: rest) rows)
    (hd : Distinct (r :: rest)) (hides : options.hidden.hides r = false) :
    ShowsCovered s options (r :: above) r.children
      (rows ++ (Place.pick (·.Leads s options) ⟨r, above⟩).flatMap (·.rows s options 0)) := by
  intro t ht
  obtain ⟨hrc, -, hdc, -, -⟩ := distinct_cons.1 hd
  have hd' : Distinct [r] := distinct_cons.2
    ⟨hrc, List.not_mem_nil, hdc, distinct_nil, fun _ _ => List.not_mem_nil⟩
  have hlead : t.path ∈ ((Place.pick (·.Leads s options) ⟨r, above⟩).flatMap
      (·.rows s options 0)).map (·.resource.path) ↔ Place.Leads s options ⟨r, above⟩ ∧
        s.Opens options r ∧ t.path ∈ (Forest.shown s options r.children).map (·.path) := by
    unfold Place.pick
    split
    · next hleads =>
      rw [List.flatMap_singleton, map_path_rows, mem_shown_below hd' ht, hides]
      simp [hleads]
    · next hleads => simp [hleads]
  rw [List.map_append, List.mem_append, hlead, h t (by simp [ht]), mem_shown_below hd ht, hides,
    Place.covers_cons]
  unfold Place.Leads
  tauto

/-- **The first entry starts a list, or it changes nothing.** -/
theorem foldl_listStarred_here (h : ShowsCovered s options above (r :: rest) rows)
    (hclear : ∀ t ∈ above, options.hidden.hides t = false)
    (hides : options.hidden.hides r = false) (starred : Forest) :
    (if s.isStarred r.id then r :: starred else starred).foldl (s.listStarred options) rows
      = starred.foldl (s.listStarred options)
        (rows ++ (Place.pick (·.Leads s options) ⟨r, above⟩).flatMap (·.rows s options 0)) := by
  have hlisted := Place.listed_iff (s := s) hclear hides
  have hcovers : r.path ∈ rows.map (·.resource.path) ↔ Place.Covers s options above := by
    rw [h r (by simp), and_iff_left]
    simp [shown_cons, hides]
  unfold Place.pick
  split
  · next hstar =>
    rw [List.foldl_cons, TreeState.listStarred_eq (hlisted.2 (IdSet.contains_iff.1 hstar)) hcovers]
    split
    · rw [List.flatMap_singleton]
    · rw [List.flatMap_nil]
  · next hstar =>
    rw [if_neg fun hleads => hstar (IdSet.contains_iff.2 (hlisted.1 hleads.1)),
      List.flatMap_nil, List.append_nil]

end ShowsCovered

/-- **The starred entries of a forest, one after another, add the lists of those that
lead.** -/
theorem foldl_listStarred (hd : Distinct forest)
    (hclear : ∀ t ∈ above, options.hidden.hides t = false)
    (h : ShowsCovered s options above forest rows) :
    (Forest.starredNodes s options.hidden forest).foldl (s.listStarred options) rows
      = rows ++ (Forest.pick (·.Leads s options) above forest).flatMap (·.rows s options 0) := by
  induction forest using Forest.induction generalizing above rows with
  | nil => exact (List.append_nil rows).symm
  | cons r rest ihc ihr =>
    obtain ⟨-, -, hdc, hdr, -⟩ := distinct_cons.1 hd
    rw [starredNodes_cons, pick_cons]
    cases hides : options.hidden.hides r with
    | true =>
      have hrest : ShowsCovered s options above rest rows := by
        have hnone : ∀ t ∈ ([] : Forest), t ∈ Forest.nodes [r] :=
          fun t ht => absurd ht List.not_mem_nil
        simpa using h.beside hd hnone
      obtain ⟨hhere, hbelow⟩ := pick_of_hides (·.Leads s options) above
        (fun p hp => hp.1.2) hides
      rw [if_pos rfl, hhere, hbelow]
      exact ihr hdr hclear hrest
    | false =>
      have hclear' : ∀ t ∈ r :: above, options.hidden.hides t = false :=
        List.forall_mem_cons.2 ⟨hides, hclear⟩
      have hheads : ∀ t ∈ Place.pick (·.Leads s options) ⟨r, above⟩
          ++ Forest.pick (·.Leads s options) (r :: above) r.children, t ∈ Forest.nodes [r] := by
        intro t ht
        rw [mem_nodes_cons]
        rcases List.mem_append.1 ht with ht | ht
        · exact Or.inl (Place.eq_of_mem_pick ht)
        · exact Or.inr (Or.inl (pick_sublist.subset ht))
      rw [if_neg Bool.false_ne_true, List.foldl_append, h.foldl_listStarred_here hclear hides,
        ihc hdc hclear' (h.below hd hides), List.append_assoc, ← List.flatMap_append,
        ihr hdr hclear (h.beside hd hheads), List.append_assoc, ← List.flatMap_append]

/-- **The lists show every entry that is seen, and each of them once.** What is
covered from above counts as shown already. -/
theorem shown_leads_perm (hclear : ∀ t ∈ above, options.hidden.hides t = false) :
    ((if Place.Covers s options above then Forest.shown s options forest else [])
        ++ (Forest.pick (·.Leads s options) above forest).flatMap
          fun r => Forest.shown s options [r]).Perm
      (Forest.pick (·.Seen s options) above forest) := by
  induction forest using Forest.induction generalizing above with
  | nil => simp [Forest.pick]
  | cons r rest ihc ihr =>
    rw [pick_cons, pick_cons, shown_cons]
    cases hides : options.hidden.hides r with
    | true =>
      obtain ⟨hhere, hbelow⟩ := pick_of_hides (·.Leads s options) above
        (fun p hp => hp.1.2) hides
      obtain ⟨hhere', hbelow'⟩ := pick_of_hides (·.Seen s options) above
        (fun p hp => hp.1) hides
      rw [if_pos rfl, hhere, hbelow, hhere', hbelow']
      exact ihr hclear
    | false =>
      have hclear' : ∀ t ∈ r :: above, options.hidden.hides t = false :=
        List.forall_mem_cons.2 ⟨hides, hclear⟩
      refine List.Perm.trans ?_ (((List.Perm.refl _).append (ihc hclear')).append (ihr hclear))
      have hlisted := Place.listed_iff (s := s) hclear hides
      have hopens : Place.Covers s options (r :: above) ↔
          s.Opens options r ∧ (r.id ∈ s.starred ∨ Place.Covers s options above) := by
        rw [Place.covers_cons, hlisted]
      have hhere : Place.Seen s options ⟨r, above⟩ ↔
          r.id ∈ s.starred ∨ Place.Covers s options above := and_iff_right hclear'
      by_cases hcovers : Place.Covers s options above
      · -- The entry is shown already, and only the order of the parts differs.
        have hlead : Place.pick (·.Leads s options) ⟨r, above⟩ = [] := if_neg fun h => h.2 hcovers
        have hseen : Place.pick (·.Seen s options) ⟨r, above⟩ = [r] :=
          if_pos (hhere.2 (Or.inr hcovers))
        rw [or_iff_right_of_imp fun _ => hcovers, and_iff_left hcovers] at hopens
        simp only [hlead, hseen, hopens, hcovers, if_true, if_false, Bool.false_eq_true,
          List.nil_append, List.cons_append, List.append_assoc, List.flatMap_append]
        exact ((List.perm_append_comm_assoc _ _ _).append_left _).cons r
      · rw [or_iff_left hcovers] at hopens hhere
        by_cases hstar : r.id ∈ s.starred
        · -- The entry starts a list, which shows it and what it covers.
          have hlead : Place.pick (·.Leads s options) ⟨r, above⟩ = [r] :=
            if_pos ⟨hlisted.2 hstar, hcovers⟩
          have hseen : Place.pick (·.Seen s options) ⟨r, above⟩ = [r] := if_pos (hhere.2 hstar)
          have hlist : Forest.shown s options [r]
              = r :: if s.Opens options r then Forest.shown s options r.children else [] := by
            rw [shown_cons, hides, if_neg Bool.false_ne_true, shown_nil, List.append_nil]
          rw [and_iff_left hstar] at hopens
          simp only [hlead, hseen, hopens, hcovers, hlist, if_false, List.nil_append,
            List.cons_append, List.append_assoc, List.flatMap_append, List.flatMap_cons]
          exact List.Perm.refl _
        · have hlead : Place.pick (·.Leads s options) ⟨r, above⟩ = [] :=
            if_neg fun h => hstar (hlisted.1 h.1)
          have hseen : Place.pick (·.Seen s options) ⟨r, above⟩ = [] :=
            if_neg fun h => hstar (hhere.1 h)
          simp only [hlead, hseen, hopens, hcovers, hstar, and_false, if_false, List.nil_append,
            List.flatMap_append]
          exact List.Perm.refl _

/-! ## The rows of the tab -/

/-- The rows of a forest do not depend on the tab. -/
theorem rows_tab (tab : Tab) (depth : Nat) (forest : Forest) :
    Forest.rows s { options with tab } depth forest = Forest.rows s options depth forest := by
  induction forest using Forest.induction generalizing depth with
  | nil => rfl
  | cons r rest ihc ihr =>
    rw [rows_cons, rows_cons, ihr, Resource.rows_eq, Resource.rows_eq, ihc]
    rfl

/-- Rows only go down from where they start. -/
theorem le_depth_of_mem_rows {depth : Nat} {row : Row}
    (h : row ∈ Forest.rows s options depth forest) : depth ≤ row.depth := by
  induction forest using Forest.induction generalizing depth with
  | nil => exact absurd h List.not_mem_nil
  | cons r rest ihc ihr =>
    rw [rows_cons, List.mem_append, Resource.rows_eq] at h
    rcases h with h | h
    · split at h
      · exact absurd h List.not_mem_nil
      · rcases List.mem_cons.1 h with rfl | h
        · exact Nat.le_refl _
        · split at h
          · exact Nat.le_of_succ_le (ihc h)
          · exact absurd h List.not_mem_nil
    · exact ihr h

/-- **Only the first row of a list stands at the left margin.** -/
theorem filter_depth_rows (hides : options.hidden.hides r = false) :
    (r.rows s options 0).filter (·.depth = 0) = [s.row options 0 r] := by
  rw [Resource.rows_eq, if_neg (by simp [hides]), List.filter_cons, if_pos (by rfl)]
  refine congrArg (_ :: ·) (List.filter_eq_nil_iff.2 fun row hrow hdepth => ?_)
  split at hrow
  · have hle := le_depth_of_mem_rows hrow
    have hzero := of_decide_eq_true hdepth
    omega
  · exact absurd hrow List.not_mem_nil

end Forest

/-- **On the tab of starred entries every one of them is shown once.** The rows at
the left margin are those of the starred entries that are not left out and
not covered, in pre-order. Each is followed by the rows of what is visible
below it, as on the other tab. So no id is shown twice, and of the starred
entries that are not left out each is shown in one row. -/
theorem TreeState.visibleRows_starred {roots : Forest} (htab : options.tab = .starred)
    (hd : ((Forest.nodes roots).map Resource.id).Nodup) :
    let rows := s.visibleRows options roots
    let leads := Forest.pick (·.Leads s options) [] roots
    rows.filter (·.depth = 0) = leads.map (s.row options 0) ∧
    rows = leads.flatMap (fun r => s.visibleRows { options with tab := .all } [r]) ∧
    (rows.map Row.id).Nodup ∧
    ∀ p ∈ Forest.places [] roots, p.Listed s options →
      ∃ row, rows.filter (·.resource = p.resource) = [row] := by
  intro rows leads
  have hrows : rows = leads.flatMap (·.rows s options 0) := by
    show s.visibleRows options roots = _
    unfold TreeState.visibleRows
    rw [htab]
    exact Forest.foldl_listStarred (Forest.distinct_iff_nodup_ids.2 hd)
      (fun t ht => absurd ht List.not_mem_nil) Forest.showsCovered_nil
  -- Every entry that is seen is in one row.
  have hperm : (rows.map (·.resource)).Perm (Forest.pick (·.Seen s options) [] roots) := by
    have hshown := @Forest.shown_leads_perm s options [] roots
      fun t ht => absurd ht List.not_mem_nil
    rw [if_neg (Place.not_covers_nil s options), List.nil_append] at hshown
    rw [hrows, List.map_flatMap]
    simpa only [Forest.shown, Forest.rows_singleton] using hshown
  have hids : ((rows.map (·.resource)).map Resource.id).Nodup := by
    rw [(hperm.map Resource.id).nodup_iff]
    exact (Forest.pick_sublist.map Resource.id).nodup hd
  refine ⟨?_, ?_, ?_, fun p hp hlisted => ?_⟩
  · rw [hrows, List.filter_flatMap, List.map_eq_flatMap]
    refine List.flatMap_congr fun r hr => Forest.filter_depth_rows ?_
    obtain ⟨p, hp, rfl⟩ := List.mem_map.1 hr
    exact (of_decide_eq_true (List.mem_filter.1 hp).2).1.2 _ List.mem_cons_self
  · rw [hrows]
    refine List.flatMap_congr fun r _ => ?_
    show r.rows s options 0 = Forest.rows s { options with tab := .all } 0 [r]
    rw [Forest.rows_tab, Forest.rows_singleton]
  · rw [List.map_map] at hids
    exact hids
  · have hseen : p.Seen s options := ⟨hlisted.2, Or.inl hlisted.1⟩
    have hmem : p.resource ∈ rows.map (·.resource) :=
      hperm.mem_iff.2 (List.mem_map_of_mem (List.mem_filter.2 ⟨hp, decide_eq_true hseen⟩))
    obtain ⟨row, hrow, heq⟩ := List.mem_map.1 hmem
    rw [← heq]
    exact ⟨row, filter_eq_singleton hids.of_map hrow⟩

/-- A view, in a folder, in a space. -/
def ordersPlace : Place :=
  let orders : Resource := ⟨.virtualDataset, "orders", ["Sales", "raw", "orders"], []⟩
  let raw : Resource := ⟨.folder, "raw", ["Sales", "raw"], [orders]⟩
  ⟨orders, [raw, ⟨.space, "Sales", ["Sales"], [raw]⟩]⟩

/-- Of three starred entries, one below the other, the second is covered, and the
third is not, since the second is closed. -/
theorem TreeState.visibleRows_starred_orders :
    let roots := ordersPlace.above.drop 1
    let s := ((TreeState.initial.expand "Sales").star "Sales").star "Sales.raw"
      |>.star "Sales.raw.orders"
    let options : ViewOptions := { tab := .starred }
    let rows := s.visibleRows options roots
    options.tab = .starred ∧ ((Forest.nodes roots).map Resource.id).Nodup ∧
      ordersPlace ∈ Forest.places [] roots ∧ ordersPlace.Listed s options ∧
      rows.map (fun row => (row.depth, row.id))
        = [(0, "Sales"), (1, "Sales.raw"), (0, "Sales.raw.orders")] ∧
      (rows.map Row.id).Nodup ∧
      ∃ row, rows.filter (·.resource = ordersPlace.resource) = [row] := by
  intro roots s options rows
  have hd : ((Forest.nodes roots).map Resource.id).Nodup := by decide +kernel
  have hplace : ordersPlace ∈ Forest.places [] roots := by
    simp [roots, ordersPlace, Forest.places_cons]
  have hlisted : ordersPlace.Listed s options := by decide +kernel
  obtain ⟨-, -, hids, honce⟩ := @TreeState.visibleRows_starred s options roots rfl hd
  exact ⟨rfl, hd, hplace, hlisted, by decide +kernel, hids, honce _ hplace hlisted⟩

end CatalogBrowser
