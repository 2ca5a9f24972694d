/-!
# Sets of ids

The browser remembers which resources are open, starred or waiting by their
ids. An `IdSet` lists its members in increasing order without repetition, so
two sets with the same members are the same value (`IdSet.ext_mem`), and
walking a set visits the members in one fixed order.
-/

namespace CatalogBrowser

/-- **A finite set of ids**, kept in increasing order. -/
structure IdSet where
  /-- The members, in increasing order. -/
  toList : List String
  /-- Each member is smaller than those after it. -/
  sorted : toList.Pairwise (· < ·)

namespace IdSet

/-- The set without members. -/
def empty : IdSet := ⟨[], .nil⟩

instance : Inhabited IdSet := ⟨empty⟩

instance : Membership String IdSet where
  mem s id := id ∈ s.toList

instance (id : String) (s : IdSet) : Decidable (id ∈ s) :=
  inferInstanceAs (Decidable (id ∈ s.toList))

/-- Whether an id is a member. -/
def contains (s : IdSet) (id : String) : Bool := decide (id ∈ s)

theorem mem_def {id : String} {s : IdSet} : id ∈ s ↔ id ∈ s.toList := Iff.rfl

@[simp]
theorem contains_iff {id : String} {s : IdSet} : s.contains id = true ↔ id ∈ s := by
  simp [contains]

@[simp]
theorem not_mem_empty (id : String) : id ∉ empty := by
  simp [empty, mem_def]

/-- An increasing list with one more entry in its place. -/
def insertSorted (id : String) : List String → List String
  | [] => [id]
  | x :: xs => if id < x then id :: x :: xs else if id = x then x :: xs else x :: insertSorted id xs

theorem mem_insertSorted {y id : String} {xs : List String} :
    y ∈ insertSorted id xs ↔ y = id ∨ y ∈ xs := by
  induction xs with
  | nil => simp [insertSorted]
  | cons x xs ih =>
    unfold insertSorted
    split
    · simp
    · split
      · next h => subst h; simp
      · simp [ih, or_left_comm]

theorem pairwise_insertSorted {id : String} {xs : List String} (h : xs.Pairwise (· < ·)) :
    (insertSorted id xs).Pairwise (· < ·) := by
  induction xs with
  | nil => simp [insertSorted]
  | cons x xs ih =>
    obtain ⟨hx, hxs⟩ := List.pairwise_cons.1 h
    unfold insertSorted
    split
    · next hlt =>
      refine List.pairwise_cons.2 ⟨fun y hy => ?_, h⟩
      rcases List.mem_cons.1 hy with rfl | hy
      · exact hlt
      · exact String.lt_trans hlt (hx y hy)
    · split
      · exact h
      · next hnlt hne =>
        refine List.pairwise_cons.2 ⟨fun y hy => ?_, ih hxs⟩
        rcases mem_insertSorted.1 hy with rfl | hy
        · -- Neither smaller nor equal, so larger.
          refine Classical.byContradiction fun hyx => hne ?_
          exact String.le_antisymm (String.not_lt.1 hyx) (String.not_lt.1 hnlt)
        · exact hx y hy

/-- **The set with one member more.** -/
def insert (s : IdSet) (id : String) : IdSet :=
  ⟨insertSorted id s.toList, pairwise_insertSorted s.sorted⟩

/-- **The set without one member.** -/
def erase (s : IdSet) (id : String) : IdSet :=
  ⟨s.toList.filter (· ≠ id), s.sorted.filter _⟩

@[simp]
theorem mem_insert {y id : String} {s : IdSet} : y ∈ s.insert id ↔ y = id ∨ y ∈ s :=
  mem_insertSorted

@[simp]
theorem mem_erase {y id : String} {s : IdSet} : y ∈ s.erase id ↔ y ∈ s ∧ y ≠ id := by
  simp [mem_def, erase]

/-- **Sets with the same members are equal.** -/
theorem ext_mem {s t : IdSet} (h : ∀ id, id ∈ s ↔ id ∈ t) : s = t := by
  obtain ⟨xs, hxs⟩ := s
  obtain ⟨ys, hys⟩ := t
  have key : xs = ys := by
    induction xs generalizing ys with
    | nil =>
      cases ys with
      | nil => rfl
      | cons y ys => exact absurd ((h y).2 (List.mem_cons_self ..)) (by simp [mem_def])
    | cons x xs ih =>
      cases ys with
      | nil => exact absurd ((h x).1 (List.mem_cons_self ..)) (by simp [mem_def])
      | cons y ys =>
        obtain ⟨hx, hxs'⟩ := List.pairwise_cons.1 hxs
        obtain ⟨hy, hys'⟩ := List.pairwise_cons.1 hys
        -- The smallest members agree, since each occurs in the other list.
        have hxy : x = y := by
          have h1 : x ∈ y :: ys := (h x).1 (List.mem_cons_self ..)
          have h2 : y ∈ x :: xs := (h y).2 (List.mem_cons_self ..)
          rcases List.mem_cons.1 h1 with h1 | h1
          · exact h1
          · rcases List.mem_cons.1 h2 with h2 | h2
            · exact h2.symm
            · exact absurd (hx y h2) (String.lt_asymm (hy x h1))
        subst hxy
        have hrest : xs = ys := by
          refine ih hxs' ys hys' fun id => ?_
          have hid := h id
          simp only [mem_def, List.mem_cons] at hid ⊢
          constructor
          · intro hm
            rcases hid.1 (Or.inr hm) with rfl | hm'
            · exact absurd (hx _ hm) (String.lt_irrefl _)
            · exact hm'
          · intro hm
            rcases hid.2 (Or.inr hm) with rfl | hm'
            · exact absurd (hy _ hm) (String.lt_irrefl _)
            · exact hm'
        rw [hrest]
  subst key
  rfl

end IdSet

end CatalogBrowser
