import CatalogBrowser.Catalog.Basic
import CatalogBrowser.Proofs.Positions
import Mathlib.Algebra.Ring.Nat

/-!
# What a look-up finds

Whatever the browser wants to know about an entry it looks up by the id, among
the roots one after the other and below each of them, and ids may collide. The
search goes down and on in turns and stops at the first entry that fits, so
which of several entries it stops at is a matter of the order in which it comes
to them.

That order is pre-order, and what pre-order is does not depend on the search:
it is the order of positions, each of them once. In it the search finds the
first entry with the id, and it finds none just if there is none
(`Forest.lookup_first_in_order`).
-/

namespace CatalogBrowser

namespace Forest

/-- Searching the roots one after the other. -/
theorem findSome?_lookup (id : String) (forest : Forest) :
    forest.findSome? (Resource.lookup id) = Forest.lookup id forest := by
  induction forest with
  | nil => rfl
  | cons r rest ih =>
    rw [List.findSome?_cons, ih, Forest.lookup]
    cases r.lookup id <;> rfl

/-- Counting the entries root by root. -/
theorem sum_map_count (forest : Forest) :
    (forest.map Resource.count).sum = Forest.count forest := by
  induction forest with
  | nil => rfl
  | cons r rest ih =>
    rw [List.map_cons, List.sum_cons, ih]
    rfl

/-- **The count is that of the entries in pre-order.** -/
theorem count_eq_length_nodes (forest : Forest) :
    Forest.count forest = (Forest.nodes forest).length := by
  induction forest using Forest.induction with
  | nil => rfl
  | cons r rest ihc ihr =>
    rw [count_cons, nodes_cons, List.length_cons, List.length_append, ihc, ihr]
    omega

/-- **A search by id finds the first entry in pre-order.** The entries of a forest can
be listed in the order of their positions, every position once. A search of the
roots one after the other finds the first entry of the list with the id, and
nothing just if no entry of the list has it. The numbers of entries that the
roots comprise add up to the length of the list, which is how many entries a
catalog of the forest says it has. -/
theorem lookup_first_in_order (roots : Forest) (id : String) :
    (∃ positions : List (List Nat),
      positions.Pairwise (· < ·) ∧
      (∀ pos, pos ∈ positions ↔ ∃ r, roots.at? pos = some r) ∧
      List.Forall₂ (fun pos r => roots.at? pos = some r) positions (Forest.nodes roots)) ∧
    (∀ r, roots.findSome? (Resource.lookup id) = some r ↔
      r.id = id ∧ ∃ front back, Forest.nodes roots = front ++ r :: back ∧
        ∀ t ∈ front, t.id ≠ id) ∧
    (roots.findSome? (Resource.lookup id) = none ↔ ∀ r ∈ Forest.nodes roots, r.id ≠ id) ∧
    (roots.map Resource.count).sum = (Forest.nodes roots).length ∧
    ∀ path, Catalog.count ⟨path, roots⟩ = (Forest.nodes roots).length := by
  have hsearch : roots.findSome? (Resource.lookup id)
      = (Forest.nodes roots).find? (·.id = id) :=
    (findSome?_lookup id roots).trans (lookup_eq_find? id roots)
  have hcount : Forest.count roots = (Forest.nodes roots).length := count_eq_length_nodes roots
  refine ⟨⟨positions roots, pairwise_positions roots, fun pos => mem_positions_iff,
    forall₂_positions roots⟩, fun r => ?_, ?_, ?_, fun path => hcount⟩
  · rw [hsearch, List.find?_eq_some_iff_append]
    simp only [decide_eq_true_eq, Bool.not_eq_true', decide_eq_false_iff_not, ne_eq]
  · rw [hsearch, List.find?_eq_none]
    simp only [decide_eq_true_eq, ne_eq]
  · rw [sum_map_count, hcount]

end Forest

end CatalogBrowser
