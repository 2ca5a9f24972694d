import CatalogBrowser.Proofs.Forests
import CatalogBrowser.Resource.Basic
import Mathlib.Data.List.Forall2

/-!
# Positions in a forest

Ids may collide, and so may whole entries, so an entry is only pinned down by
its position, the child indexes that lead to it. This module reads positions
along the first entry of a forest, the way everything else about forests is
read: a position is that of the first entry, or it leads below it, or it
leads to one of the others (`Forest.at?_cons_eq_some_iff`).

Compared as lists of numbers, where a list comes before those that go on from
it, positions are in pre-order: `Forest.positions` lists them all, in
increasing order, and the entries at them are the entries in pre-order. So what
a look-up finds can also be said without any list of entries: it is the entry
with the id at the first position that holds one (`Forest.FirstAt`).
-/

namespace CatalogBrowser

mutual

/-- The positions, counted from an entry, of it and of what is below it. -/
def Resource.positions : Resource → List (List Nat)
  | ⟨_, _, _, children⟩ => [] :: Forest.positions children

/-- **The positions of a forest**, in pre-order. -/
def Forest.positions : Forest → List (List Nat)
  | [] => []
  | r :: rs => r.positions.map (0 :: ·) ++ (Forest.positions rs).map (List.modifyHead (· + 1))

end

namespace Forest

variable {r t : Resource} {rest forest : Forest} {pos : List Nat}

@[simp]
theorem at?_nil (forest : Forest) : Forest.at? forest [] = none := by
  cases forest <;> rfl

@[simp]
theorem at?_no_entries (pos : List Nat) : Forest.at? [] pos = none := by
  match pos with
  | [] => rfl
  | [_] => rfl
  | _ :: _ :: _ => rfl

/-- No entry is at the empty position, which would be that of the forest itself. -/
theorem ne_nil_of_at? (h : Forest.at? forest pos = some t) : pos ≠ [] := by
  rintro rfl
  rw [at?_nil] at h
  cases h

@[simp]
theorem at?_first (r : Resource) (rest : Forest) : Forest.at? (r :: rest) [0] = some r := rfl

/-- Going down from the first entry. -/
theorem at?_below (hpos : pos ≠ []) :
    Forest.at? (r :: rest) (0 :: pos) = Forest.at? r.children pos := by
  cases pos with
  | nil => exact absurd rfl hpos
  | cons j pos => rfl

/-- Going past the first entry. -/
@[simp]
theorem at?_beside (i : Nat) (pos : List Nat) :
    Forest.at? (r :: rest) ((i + 1) :: pos) = Forest.at? rest (i :: pos) := by
  cases pos with
  | nil => rfl
  | cons j pos => rfl

/-- **A position is that of the first entry, or leads below it, or to one of the
others.** -/
theorem at?_cons_eq_some_iff :
    Forest.at? (r :: rest) pos = some t ↔
      (pos = [0] ∧ t = r) ∨ (∃ q, pos = 0 :: q ∧ Forest.at? r.children q = some t) ∨
        ∃ i q, pos = (i + 1) :: q ∧ Forest.at? rest (i :: q) = some t := by
  constructor
  · intro h
    match pos with
    | [] => simp at h
    | [0] => exact Or.inl ⟨rfl, (Option.some.inj h).symm⟩
    | 0 :: j :: q => exact Or.inr (Or.inl ⟨j :: q, rfl, h⟩)
    | (i + 1) :: q => exact Or.inr (Or.inr ⟨i, q, rfl, by rwa [at?_beside] at h⟩)
  · rintro (⟨rfl, rfl⟩ | ⟨q, rfl, h⟩ | ⟨i, q, rfl, h⟩)
    · rfl
    · rwa [at?_below (ne_nil_of_at? h)]
    · rwa [at?_beside]

/-- **The entries of a forest are those at its positions.** -/
theorem mem_nodes_iff_exists_at? : t ∈ Forest.nodes forest ↔ ∃ pos, forest.at? pos = some t := by
  induction forest using Forest.induction with
  | nil => simp
  | cons r rest ihc ihr =>
    rw [mem_nodes_cons, ihc, ihr]
    simp only [at?_cons_eq_some_iff]
    constructor
    · rintro (rfl | ⟨q, h⟩ | ⟨q, h⟩)
      · exact ⟨[0], Or.inl ⟨rfl, rfl⟩⟩
      · exact ⟨0 :: q, Or.inr (Or.inl ⟨q, rfl, h⟩)⟩
      · obtain ⟨i, q, rfl⟩ := List.exists_cons_of_ne_nil (ne_nil_of_at? h)
        exact ⟨(i + 1) :: q, Or.inr (Or.inr ⟨i, q, rfl, h⟩)⟩
    · rintro ⟨pos, ⟨-, rfl⟩ | ⟨q, -, h⟩ | ⟨i, q, -, h⟩⟩
      · exact Or.inl rfl
      · exact Or.inr (Or.inl ⟨q, h⟩)
      · exact Or.inr (Or.inr ⟨i :: q, h⟩)

/-- What is at a position is in the forest. -/
theorem mem_nodes_of_at? (h : forest.at? pos = some t) : t ∈ Forest.nodes forest :=
  mem_nodes_iff_exists_at?.2 ⟨pos, h⟩

/-! ## All positions -/

@[simp]
theorem positions_nil : positions [] = [] := rfl

/-- The positions of a forest in pre-order: that of the first root, those below it, and
those of the rest with their first index moved up. -/
theorem positions_cons (r : Resource) (rest : Forest) :
    positions (r :: rest)
      = ([0] :: (positions r.children).map (0 :: ·))
        ++ (positions rest).map (List.modifyHead (· + 1)) := by
  cases r
  rfl

/-- **There is an entry at each position listed**, namely the one that is listed in
pre-order, too. -/
theorem forall₂_positions (forest : Forest) :
    List.Forall₂ (fun pos t => forest.at? pos = some t) (positions forest)
      (Forest.nodes forest) := by
  induction forest using Forest.induction with
  | nil => exact List.Forall₂.nil
  | cons r rest ihc ihr =>
    rw [positions_cons, nodes_cons]
    refine List.Forall₂.cons rfl (List.rel_append ?_ ?_)
    · refine List.forall₂_map_left_iff.2 (ihc.imp fun q t h => ?_)
      rwa [at?_below (ne_nil_of_at? h)]
    · refine List.forall₂_map_left_iff.2 (ihr.imp fun q t h => ?_)
      obtain ⟨i, q, rfl⟩ := List.exists_cons_of_ne_nil (ne_nil_of_at? h)
      rwa [List.modifyHead_cons, at?_beside]

/-- **Every position that holds an entry is listed.** -/
theorem mem_positions_iff : pos ∈ positions forest ↔ ∃ t, forest.at? pos = some t := by
  induction forest using Forest.induction generalizing pos with
  | nil => simp
  | cons r rest ihc ihr =>
    rw [positions_cons, List.mem_append, List.mem_cons, List.mem_map, List.mem_map]
    simp only [at?_cons_eq_some_iff, ihc, ihr]
    constructor
    · rintro ((rfl | ⟨q, ⟨t, h⟩, rfl⟩) | ⟨q, ⟨t, h⟩, rfl⟩)
      · exact ⟨r, Or.inl ⟨rfl, rfl⟩⟩
      · exact ⟨t, Or.inr (Or.inl ⟨q, rfl, h⟩)⟩
      · obtain ⟨i, q, rfl⟩ := List.exists_cons_of_ne_nil (ne_nil_of_at? h)
        exact ⟨t, Or.inr (Or.inr ⟨i, q, rfl, h⟩)⟩
    · rintro ⟨t, ⟨rfl, -⟩ | ⟨q, rfl, h⟩ | ⟨i, q, rfl, h⟩⟩
      · exact Or.inl (Or.inl rfl)
      · exact Or.inl (Or.inr ⟨q, ⟨t, h⟩, rfl⟩)
      · exact Or.inr ⟨i :: q, ⟨t, h⟩, rfl⟩

/-- Every position leads somewhere, so it has an index at least. -/
theorem ne_nil_of_mem_positions (h : pos ∈ positions forest) : pos ≠ [] := by
  obtain ⟨t, ht⟩ := mem_positions_iff.1 h
  exact ne_nil_of_at? ht

/-- Positions stay in order when entries come to stand before them. -/
theorem modifyHead_lt_modifyHead {p q : List Nat} (h : p < q) :
    p.modifyHead (· + 1) < q.modifyHead (· + 1) := by
  cases q with
  | nil => exact absurd h (List.not_lt_nil p)
  | cons j q =>
    cases p with
    | nil => exact List.nil_lt_cons _ _
    | cons i p =>
      rw [List.modifyHead_cons, List.modifyHead_cons]
      rw [List.cons_lt_cons_iff] at h ⊢
      rwa [Nat.add_lt_add_iff_right, Nat.add_right_cancel_iff]

/-- The positions of the first entry and of what is below it are in order, if those
below it are. -/
theorem pairwise_positions_below (h : (positions forest).Pairwise (· < ·)) :
    ([0] :: (positions forest).map (0 :: ·)).Pairwise (· < ·) := by
  refine List.pairwise_cons.2 ⟨fun p hp => ?_, List.pairwise_map.2 (h.imp fun hpq => ?_)⟩
  · obtain ⟨q, hq, rfl⟩ := List.mem_map.1 hp
    obtain ⟨i, q, rfl⟩ := List.exists_cons_of_ne_nil (ne_nil_of_mem_positions hq)
    exact List.cons_lt_cons_iff.2 (Or.inr ⟨rfl, List.nil_lt_cons i q⟩)
  · exact List.cons_lt_cons_iff.2 (Or.inr ⟨rfl, hpq⟩)

/-- **Positions are listed in order.** -/
theorem pairwise_positions (forest : Forest) : (positions forest).Pairwise (· < ·) := by
  induction forest using Forest.induction with
  | nil => exact List.Pairwise.nil
  | cons r rest ihc ihr =>
    rw [positions_cons, List.pairwise_append]
    refine ⟨pairwise_positions_below ihc, ihr.map _ fun _ _ => modifyHead_lt_modifyHead,
      fun p hp q hq => ?_⟩
    -- The indexes of the others are larger.
    obtain ⟨q, hmem, rfl⟩ := List.mem_map.1 hq
    obtain ⟨j, q, rfl⟩ := List.exists_cons_of_ne_nil (ne_nil_of_mem_positions hmem)
    obtain ⟨p, rfl⟩ : ∃ p', p = 0 :: p' := by
      rcases List.mem_cons.1 hp with rfl | hp
      · exact ⟨[], rfl⟩
      · obtain ⟨p, -, rfl⟩ := List.mem_map.1 hp
        exact ⟨p, rfl⟩
    exact List.cons_lt_cons_iff.2 (Or.inl (Nat.succ_pos j))

/-! ## The first position -/

/-- **The first position of an entry of which `P` holds.** -/
structure FirstAt (P : Resource → Prop) (forest : Forest) (pos : List Nat) (r : Resource) :
    Prop where
  /-- The entry is at the position. -/
  at?_eq : forest.at? pos = some r
  /-- It is one of those that are sought. -/
  holds : P r
  /-- No entry at an earlier position is. -/
  not_before : ∀ q < pos, ∀ t, forest.at? q = some t → ¬ P t

namespace FirstAt

variable {P : Resource → Prop}

/-- The first root is the first entry of all. -/
theorem here (h : P r) : FirstAt P (r :: rest) [0] r where
  at?_eq := rfl
  holds := h
  not_before q hq t ht := by
    -- Only the empty list comes before, and no entry is there.
    obtain ⟨i, q, rfl⟩ := List.exists_cons_of_ne_nil (ne_nil_of_at? ht)
    simp [List.cons_lt_cons_iff] at hq

/-- Below the first root comes what is not the root itself. -/
theorem below (hr : ¬ P r) (h : FirstAt P r.children pos t) :
    FirstAt P (r :: rest) (0 :: pos) t where
  at?_eq := by rw [at?_below (ne_nil_of_at? h.at?_eq), h.at?_eq]
  holds := h.holds
  not_before q hq u hu := by
    rcases at?_cons_eq_some_iff.1 hu with ⟨-, rfl⟩ | ⟨q, rfl, hbelow⟩ | ⟨i, q, rfl, -⟩
    · exact hr
    · exact h.not_before q (by simpa [List.cons_lt_cons_iff] using hq) u hbelow
    · simp [List.cons_lt_cons_iff] at hq

/-- Beside the first root comes what is neither the root nor below it. This is the only
case that needs to know that a search came back with nothing. -/
theorem beside (hr : ¬ P r) (hc : ∀ u ∈ Forest.nodes r.children, ¬ P u)
    (h : FirstAt P rest pos t) : FirstAt P (r :: rest) (pos.modifyHead (· + 1)) t := by
  obtain ⟨i, pos, rfl⟩ := List.exists_cons_of_ne_nil (ne_nil_of_at? h.at?_eq)
  refine ⟨(at?_beside i pos).trans h.at?_eq, h.holds, fun q hq u hu => ?_⟩
  rcases at?_cons_eq_some_iff.1 hu with ⟨-, rfl⟩ | ⟨q, -, hbelow⟩ | ⟨j, q, rfl, hbeside⟩
  · exact hr
  · exact hc u (mem_nodes_of_at? hbelow)
  · exact h.not_before (j :: q) (by simpa [List.cons_lt_cons_iff] using hq) u hbeside

end FirstAt

end Forest

end CatalogBrowser
