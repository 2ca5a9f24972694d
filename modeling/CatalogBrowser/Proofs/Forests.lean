import CatalogBrowser.Proofs.PathIds
import Mathlib.Data.List.Nodup

/-!
# Forests by induction

A forest is empty, or it is a resource with a forest of children and a
forest of siblings behind it. `Forest.induction` is induction along that
reading, with one hypothesis for the children and one for the siblings, and
each function on forests gets one equation for its second case. With these
no proof has to recurse through resources and forests in turns.

Two notions are used all over: the **paths** of a forest, in pre-order, and
a forest being **distinct**, which is to say that no two of its entries
have the same path. In a distinct forest a path names one entry at most.
-/

namespace CatalogBrowser

/-!
## Equality

It can be decided, so what a fixed text describes is a matter of computing.
-/

mutual

/-- Whether two resources are the same, with everything below them. -/
def Resource.decEq : (r s : Resource) → Decidable (r = s)
  | ⟨kind, name, path, children⟩, ⟨kind', name', path', children'⟩ =>
    have := Forest.decEq children children'
    decidable_of_iff (kind = kind' ∧ name = name' ∧ path = path' ∧ children = children')
      (by rw [Resource.mk.injEq])

/-- Whether two forests are the same. -/
def Forest.decEq : (forest forest' : Forest) → Decidable (forest = forest')
  | [], [] => .isTrue rfl
  | [], _ :: _ => .isFalse (List.cons_ne_nil _ _).symm
  | _ :: _, [] => .isFalse (List.cons_ne_nil _ _)
  | r :: rest, s :: rest' =>
    have := Resource.decEq r s
    have := Forest.decEq rest rest'
    decidable_of_iff (r = s ∧ rest = rest') (by rw [List.cons.injEq])

end

instance : DecidableEq Resource := Resource.decEq

/-- Where a function tells all entries of a list apart, its value at one of them
picks out that one. -/
theorem filter_eq_singleton {α β : Type} [DecidableEq β] {f : α → β} {xs : List α}
    (h : (xs.map f).Nodup) {x : α} (hx : x ∈ xs) : xs.filter (f · = f x) = [x] := by
  obtain ⟨front, back, rfl⟩ := List.append_of_mem hx
  rw [List.map_append, List.map_cons, List.nodup_append, List.nodup_cons] at h
  obtain ⟨-, ⟨hback, -⟩, hfront⟩ := h
  have hf : front.filter (f · = f x) = [] := by
    refine List.filter_eq_nil_iff.2 fun y hy heq => ?_
    exact hfront (f y) (List.mem_map_of_mem hy) (f x) List.mem_cons_self (of_decide_eq_true heq)
  have hb : back.filter (f · = f x) = [] := by
    refine List.filter_eq_nil_iff.2 fun y hy heq => hback ?_
    rw [← of_decide_eq_true heq]
    exact List.mem_map_of_mem hy
  rw [List.filter_append, hf, List.filter_cons, if_pos (decide_eq_true rfl), hb, List.nil_append]

/-- Nor does it have the value of an entry at any of those before. -/
theorem ne_of_mem_take {α β : Type} {f : α → β} {xs : List α} (h : (xs.map f).Nodup) {n : Nat}
    {x y : α} (hx : xs[n]? = some x) (hy : y ∈ xs.take n) : f y ≠ f x := by
  obtain ⟨hn, rfl⟩ := List.getElem?_eq_some_iff.1 hx
  rw [← List.take_append_drop n xs, List.map_append, List.nodup_append,
    List.drop_eq_getElem_cons hn] at h
  exact h.2.2 (f y) (List.mem_map_of_mem hy) _ (List.mem_map_of_mem List.mem_cons_self)

/-- Lists with the same values have entries with the same values. -/
theorem exists_getElem?_of_map_eq {α β : Type} {f : α → β} {xs ys : List α}
    (h : xs.map f = ys.map f) {n : Nat} {x : α} (hx : xs[n]? = some x) :
    ∃ y, ys[n]? = some y ∧ f y = f x := by
  have hn := congrArg (·[n]?) h
  simp only [List.getElem?_map, hx, Option.map_some] at hn
  exact Option.map_eq_some_iff.1 hn.symm

namespace Forest

/-- **Induction along the children and the siblings of the first entry.** The functions on
forests are recursive in this way, so their equations and the two hypotheses go together. -/
@[elab_as_elim]
theorem induction {P : Forest → Prop} (nil : P [])
    (cons : ∀ (r : Resource) (rest : Forest), P r.children → P rest → P (r :: rest)) :
    ∀ forest, P forest
  | [] => nil
  | ⟨_, _, _, children⟩ :: rest =>
    cons _ rest (induction nil cons children) (induction nil cons rest)
termination_by forest => sizeOf forest

/-! ## Pre-order -/

@[simp]
theorem nodes_nil : Forest.nodes [] = [] := rfl

/-- An entry comes before everything below it. -/
theorem nodes_resource (r : Resource) : r.nodes = r :: Forest.nodes r.children := by
  cases r
  rfl

@[simp]
theorem nodes_cons (r : Resource) (rest : Forest) :
    Forest.nodes (r :: rest) = r :: (Forest.nodes r.children ++ Forest.nodes rest) := by
  rw [Forest.nodes, nodes_resource]
  rfl

/-- Every entry counts once, and those below it are counted with it. -/
theorem count_cons (r : Resource) (rest : Forest) :
    Forest.count (r :: rest) = 1 + Forest.count r.children + Forest.count rest := by
  cases r
  rfl

/-- An entry of a forest is the first root, or below it, or in the rest. All inductions
along a forest have these three cases. -/
theorem mem_nodes_cons {s r : Resource} {rest : Forest} :
    s ∈ Forest.nodes (r :: rest) ↔
      s = r ∨ s ∈ Forest.nodes r.children ∨ s ∈ Forest.nodes rest := by
  rw [nodes_cons, List.mem_cons, List.mem_append]

/-- What is said of all entries is said of the first one, of those below it and
of the others. -/
theorem forall_mem_nodes_cons {P : Resource → Prop} {r : Resource} {rest : Forest} :
    (∀ s ∈ Forest.nodes (r :: rest), P s) ↔
      P r ∧ (∀ s ∈ Forest.nodes r.children, P s) ∧ ∀ s ∈ Forest.nodes rest, P s := by
  simp only [mem_nodes_cons, or_imp, forall_and, forall_eq]

/-- The roots of a forest are entries of it. -/
theorem mem_nodes_of_mem {r : Resource} {forest : Forest} (h : r ∈ forest) :
    r ∈ Forest.nodes forest := by
  induction forest with
  | nil => exact absurd h List.not_mem_nil
  | cons s rest ih =>
    rw [mem_nodes_cons]
    rcases List.mem_cons.1 h with rfl | h
    · exact Or.inl rfl
    · exact Or.inr (Or.inr (ih h))

/-- **What is below an entry of a forest is in the forest.** It needs an induction, because
the entry itself may lie deep. -/
theorem mem_nodes_of_mem_children {r s : Resource} {forest : Forest}
    (hr : r ∈ Forest.nodes forest) (hs : s ∈ Forest.nodes r.children) :
    s ∈ Forest.nodes forest := by
  induction forest using Forest.induction with
  | nil => exact absurd hr List.not_mem_nil
  | cons t rest ihc ihr =>
    rw [mem_nodes_cons] at hr ⊢
    rcases hr with rfl | hr | hr
    · exact Or.inr (Or.inl hs)
    · exact Or.inr (Or.inl (ihc hr))
    · exact Or.inr (Or.inr (ihr hr))

/-! ## Looking up -/

/-- An entry is looked for at the root first, and below it only if the root is another one. -/
theorem lookup_resource (id : String) (r : Resource) :
    r.lookup id = if r.id = id then some r else Forest.lookup id r.children := by
  cases r
  rfl

/-- The search goes below the first root before it goes to the rest, so it finds the first
match in pre-order. -/
theorem lookup_cons (id : String) (r : Resource) (rest : Forest) :
    Forest.lookup id (r :: rest)
      = if r.id = id then some r
        else (Forest.lookup id r.children).or (Forest.lookup id rest) := by
  rw [Forest.lookup, lookup_resource]
  by_cases h : r.id = id
  · rw [if_pos h, if_pos h]
  · rw [if_neg h, if_neg h]
    cases Forest.lookup id r.children <;> rfl

/-- **A look-up finds the first entry in pre-order.** It is written as a search that goes
down before it goes on, and this is the list it goes through. -/
theorem lookup_eq_find? (id : String) (forest : Forest) :
    Forest.lookup id forest = (Forest.nodes forest).find? (·.id = id) := by
  induction forest using Forest.induction with
  | nil => rfl
  | cons r rest ihc ihr =>
    rw [lookup_cons, nodes_cons, List.find?_cons, List.find?_append, ihc, ihr]
    by_cases h : r.id = id <;> simp [h]

/-- A look-up finds something if there is something to be found. -/
theorem exists_lookup {r : Resource} {forest : Forest} (h : r ∈ Forest.nodes forest) :
    ∃ s, Forest.lookup r.id forest = some s := by
  rw [lookup_eq_find?, ← Option.isSome_iff_exists, List.find?_isSome]
  exact ⟨r, h, decide_eq_true rfl⟩

/-- What is found is in the forest, and has the id that was asked for. -/
theorem mem_of_lookup {id : String} {s : Resource} {forest : Forest}
    (h : Forest.lookup id forest = some s) : s ∈ Forest.nodes forest ∧ s.id = id := by
  rw [lookup_eq_find?] at h
  exact ⟨List.mem_of_find?_eq_some h, by simpa using List.find?_some h⟩

/-! ## Paths -/

/-- **The paths of a forest**, in pre-order. -/
def paths (forest : Forest) : List (List String) := (Forest.nodes forest).map (·.path)

@[simp]
theorem paths_nil : paths [] = [] := rfl

@[simp]
theorem paths_cons (r : Resource) (rest : Forest) :
    paths (r :: rest) = r.path :: (paths r.children ++ paths rest) := by
  simp [paths]

/-- The same three cases for paths. -/
theorem mem_paths_cons {path : List String} {r : Resource} {rest : Forest} :
    path ∈ paths (r :: rest) ↔ path = r.path ∨ path ∈ paths r.children ∨ path ∈ paths rest := by
  rw [paths_cons, List.mem_cons, List.mem_append]

/-- A path of the forest is the path of one of its entries. -/
theorem mem_paths {path : List String} {forest : Forest} :
    path ∈ paths forest ↔ ∃ r ∈ Forest.nodes forest, r.path = path := List.mem_map

/-- Every entry gives its path. -/
theorem path_mem_paths {r : Resource} {forest : Forest} (h : r ∈ Forest.nodes forest) :
    r.path ∈ paths forest := List.mem_map_of_mem h

/-- The paths below an entry of a forest are paths of the forest. -/
theorem mem_paths_of_mem_children {r : Resource} {forest : Forest} {path : List String}
    (hr : r ∈ Forest.nodes forest) (h : path ∈ paths r.children) : path ∈ paths forest := by
  obtain ⟨s, hs, rfl⟩ := mem_paths.1 h
  exact path_mem_paths (mem_nodes_of_mem_children hr hs)

/-- **No two entries of a forest have the same path.** -/
def Distinct (forest : Forest) : Prop := (paths forest).Nodup

instance (forest : Forest) : Decidable (Distinct forest) :=
  inferInstanceAs (Decidable (paths forest).Nodup)

theorem distinct_nil : Distinct [] := List.nodup_nil

/-- **A distinct forest falls into three parts without a path in common**: its
first entry, what is below that, and the siblings. -/
theorem distinct_cons {r : Resource} {rest : Forest} :
    Distinct (r :: rest) ↔
      r.path ∉ paths r.children ∧ r.path ∉ paths rest ∧ Distinct r.children ∧ Distinct rest ∧
        ∀ path ∈ paths r.children, path ∉ paths rest := by
  simp only [Distinct, paths_cons, List.nodup_cons, List.mem_append, not_or, List.nodup_append]
  constructor
  · rintro ⟨⟨hc, hr⟩, hdc, hdr, hne⟩
    exact ⟨hc, hr, hdc, hdr, fun p hp hp' => hne p hp p hp' rfl⟩
  · rintro ⟨hc, hr, hdc, hdr, hne⟩
    exact ⟨⟨hc, hr⟩, hdc, hdr, fun p hp q hq hpq => hne p hp (hpq ▸ hq)⟩

/-- **Where paths are distinct, a path tells its entry.** -/
theorem Distinct.eq_of_path {forest : Forest} (h : Distinct forest) {r s : Resource}
    (hr : r ∈ Forest.nodes forest) (hs : s ∈ Forest.nodes forest) (hrs : r.path = s.path) :
    r = s := List.inj_on_of_nodup_map h hr hs hrs

/-- And so does an id, since no two paths have the same. -/
theorem Distinct.eq_of_id {forest : Forest} (h : Distinct forest) {r s : Resource}
    (hr : r ∈ Forest.nodes forest) (hs : s ∈ Forest.nodes forest) (hrs : r.id = s.id) :
    r = s := h.eq_of_path hr hs (Path.id_injective hrs)

/-- **In a distinct forest a look-up by the id of an entry finds that entry.** Ids are
looked up all over the browser, and nowhere does it keep the entry itself. -/
theorem Distinct.lookup_id {forest : Forest} (h : Distinct forest) {r : Resource}
    (hr : r ∈ Forest.nodes forest) : Forest.lookup r.id forest = some r := by
  obtain ⟨s, hs⟩ := exists_lookup hr
  obtain ⟨hmem, hid⟩ := mem_of_lookup hs
  rw [hs, h.eq_of_id hmem hr hid]

/-- No two entries have the same path just if no two have the same id. -/
theorem distinct_iff_nodup_ids {forest : Forest} :
    Distinct forest ↔ ((Forest.nodes forest).map Resource.id).Nodup := by
  have hids : (Forest.nodes forest).map Resource.id = (paths forest).map Path.id := by
    rw [paths, List.map_map]
    rfl
  rw [hids, List.nodup_map_iff Path.id_injective, Distinct]

/-- **An id of a distinct forest is the id of one entry.** So a row that is asked for by
its id is one row. -/
theorem Distinct.filter_id_eq {forest : Forest} (h : Distinct forest) {r : Resource}
    (hr : r ∈ Forest.nodes forest) : (Forest.nodes forest).filter (·.id = r.id) = [r] :=
  filter_eq_singleton (distinct_iff_nodup_ids.1 h) hr

end Forest

end CatalogBrowser
