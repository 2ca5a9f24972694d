import CatalogBrowser.Proofs.Loading
import CatalogBrowser.Proofs.Positions

/-!
# Grafting changes one entry

Children that arrive for a path are hung below an entry that a search along
the paths finds, while the browser looks entries up by their ids among all
there are. This module says what the first of the two does, and when it
agrees with the second.

Whatever the paths of a forest are, grafting replaces the children of one
entry, which has the path asked for, and leaves everything alone that is not
below that entry (`Forest.GraftedAt`). Which entry it is depends on the
paths above it, since the search goes down only where these lead towards the
target. Where every path goes on from the one above, nothing can be missed
on that account: the target is then found just if its id can be looked up,
and it is the same entry, the first in pre-order with that id
(`Forest.graft_replaces_first`).
-/

namespace CatalogBrowser

namespace Forest

variable {target : List String} {grafted forest forest' : Forest} {pos : List Nat}
  {r t : Resource} {rest : Forest}

/-- **One entry at the target has its children replaced, and that is all.** -/
structure GraftedAt (target : List String) (pos : List Nat) (grafted forest forest' : Forest) :
    Prop where
  /-- The entry at the position has the path asked for, and other children than
  before. -/
  replaced : ∃ r, forest.at? pos = some r ∧ r.path = target ∧
    forest'.at? pos = some { r with children := grafted }
  /-- Every other entry that is not below it keeps its kind, name and path. -/
  shallow_eq : ∀ q, ¬ pos <+: q →
    (forest'.at? q).map Resource.shallow = (forest.at? q).map Resource.shallow
  /-- What is neither below nor above it stays, with everything below that. -/
  beside_eq : ∀ q, ¬ pos <+: q → ¬ q <+: pos → forest'.at? q = forest.at? q

namespace GraftedAt

/-- The children of the first entry are replaced. -/
theorem here (h : r.path = target) :
    GraftedAt target [0] grafted (r :: rest) ({ r with children := grafted } :: rest) where
  replaced := ⟨r, rfl, h, rfl⟩
  shallow_eq q hq := by
    match q with
    | [] => simp
    | 0 :: q => exact absurd (by simp) hq
    | (i + 1) :: q => rw [at?_beside, at?_beside]
  beside_eq q hq _ := by
    match q with
    | [] => simp
    | 0 :: q => exact absurd (by simp) hq
    | (i + 1) :: q => rw [at?_beside, at?_beside]

/-- Children below the first entry are replaced. -/
theorem below {children : Forest} (h : GraftedAt target pos grafted r.children children) :
    GraftedAt target (0 :: pos) grafted (r :: rest) ({ r with children } :: rest) where
  replaced := by
    obtain ⟨t, ht, hpath, ht'⟩ := h.replaced
    have hpos := ne_nil_of_at? ht
    exact ⟨t, by rwa [at?_below hpos], hpath, by rwa [at?_below hpos]⟩
  shallow_eq q hq := by
    match q with
    | [] => simp
    | [0] => rfl
    | 0 :: j :: q =>
      refine h.shallow_eq (j :: q) fun hpre => hq ?_
      exact List.cons_prefix_cons.2 ⟨rfl, hpre⟩
    | (i + 1) :: q => rw [at?_beside, at?_beside]
  beside_eq q hq hq' := by
    match q with
    | [] => simp
    | [0] => exact absurd (by simp) hq'
    | 0 :: j :: q =>
      refine h.beside_eq (j :: q) (fun hpre => hq ?_) fun hpre => hq' ?_
      · exact List.cons_prefix_cons.2 ⟨rfl, hpre⟩
      · exact List.cons_prefix_cons.2 ⟨rfl, hpre⟩
    | (i + 1) :: q => rw [at?_beside, at?_beside]

/-- Children beside the first entry are replaced. -/
theorem beside {rest' : Forest} (h : GraftedAt target pos grafted rest rest') :
    GraftedAt target (pos.modifyHead (· + 1)) grafted (r :: rest) (r :: rest') := by
  obtain ⟨t, ht, hpath, ht'⟩ := h.replaced
  obtain ⟨i, pos, rfl⟩ := List.exists_cons_of_ne_nil (ne_nil_of_at? ht)
  have hlift : ∀ {j k : Nat} {p q : List Nat},
      j :: p <+: k :: q → (j + 1) :: p <+: (k + 1) :: q := by
    simp
  refine ⟨⟨t, (at?_beside i pos).trans ht, hpath, (at?_beside i pos).trans ht'⟩, ?_, ?_⟩
  · intro q hq
    match q with
    | [] => simp
    | [0] => rfl
    | 0 :: j :: q => rfl
    | (j + 1) :: q =>
      rw [at?_beside, at?_beside]
      exact h.shallow_eq (j :: q) fun hpre => hq (hlift hpre)
  · intro q hq hq'
    match q with
    | [] => simp
    | [0] => rfl
    | 0 :: j :: q => rfl
    | (j + 1) :: q =>
      rw [at?_beside, at?_beside]
      exact h.beside_eq (j :: q) (fun hpre => hq (hlift hpre)) fun hpre => hq' (hlift hpre)

end GraftedAt

/-- **Grafting changes one entry**, if it finds one. -/
theorem exists_graftedAt (h : Forest.graft? target grafted forest = some forest') :
    ∃ pos, GraftedAt target pos grafted forest forest' := by
  induction forest using Forest.induction generalizing forest' with
  | nil => cases h
  | cons r rest ihc ihr =>
    rcases graft?_cons_eq_some h with ⟨hpath, rfl⟩ | ⟨children, hc, rfl⟩ | ⟨rest', hr, rfl⟩
    · exact ⟨[0], .here hpath⟩
    · obtain ⟨pos, hpos⟩ := ihc hc
      exact ⟨0 :: pos, hpos.below⟩
    · obtain ⟨pos, hpos⟩ := ihr hr
      exact ⟨pos.modifyHead (· + 1), hpos.beside⟩

/-! ## Where paths go on from those above -/

/-- **No path is empty, and each goes on from the one above**, or is the same. -/
def Nested (forest : Forest) : Prop :=
  ∀ r ∈ Forest.nodes forest, r.path ≠ [] ∧ ∀ t ∈ r.children, r.path <+: t.path

instance (forest : Forest) : Decidable (Nested forest) :=
  inferInstanceAs (Decidable (∀ r ∈ Forest.nodes forest, _ ∧ _))

theorem nested_cons :
    Nested (r :: rest) ↔
      (r.path ≠ [] ∧ ∀ t ∈ r.children, r.path <+: t.path) ∧ Nested r.children ∧ Nested rest :=
  forall_mem_nodes_cons

/-- What the paths on a level go on from, those below do, too. -/
theorem Nested.prefix_path (h : Nested forest) {above : List String}
    (habove : ∀ t ∈ forest, above <+: t.path) : ∀ t ∈ Forest.nodes forest, above <+: t.path := by
  induction forest using Forest.induction with
  | nil => exact fun t ht => absurd ht List.not_mem_nil
  | cons r rest ihc ihr =>
    obtain ⟨⟨-, hbelow⟩, hc, hrest⟩ := nested_cons.1 h
    obtain ⟨hr, hbeside⟩ := List.forall_mem_cons.1 habove
    exact forall_mem_nodes_cons.2
      ⟨hr, ihc hc fun t ht => hr.trans (hbelow t ht), ihr hrest hbeside⟩

/-- **Grafting finds what a look-up finds**, at the first position with the id. -/
theorem Nested.exists_graftedAt_first (h : Nested forest) (grafted : Forest)
    (hlookup : Forest.lookup (Path.id target) forest = some t) :
    ∃ pos, FirstAt (·.id = Path.id target) forest pos t ∧
      ∃ forest', Forest.graft? target grafted forest = some forest' ∧
        GraftedAt target pos grafted forest forest' := by
  induction forest using Forest.induction with
  | nil => cases hlookup
  | cons r rest ihc ihr =>
    obtain ⟨⟨hnil, hbelow⟩, hc, hrest⟩ := nested_cons.1 h
    rw [lookup_cons] at hlookup
    split at hlookup
    · next hid =>
      obtain rfl := Option.some.inj hlookup
      have hpath := Path.id_injective hid
      exact ⟨[0], .here hid, _, graft?_cons_of_eq hpath, .here hpath⟩
    · next hid =>
      have hne : r.path ≠ target := fun heq => hid (congrArg Path.id heq)
      cases hchildren : Forest.lookup (Path.id target) r.children with
      | some s =>
        rw [hchildren] at hlookup
        obtain rfl : s = t := Option.some.inj hlookup
        obtain ⟨pos, hfirst, children, hgraft, hat⟩ := ihc hc hchildren
        -- The entry is below the first one, so that one's path leads to it.
        obtain ⟨hs, hsid⟩ := mem_of_lookup hchildren
        have hpre : r.path <+: target :=
          Path.id_injective hsid ▸ hc.prefix_path hbelow s hs
        exact ⟨0 :: pos, hfirst.below hid, _, graft?_cons_of_prefix hne hnil hpre hgraft,
          hat.below⟩
      | none =>
        rw [hchildren] at hlookup
        obtain ⟨pos, hfirst, rest', hgraft, hat⟩ := ihr hrest hlookup
        have hnone : ∀ s ∈ Forest.nodes r.children, s.id ≠ Path.id target := by
          intro s hs hsid
          obtain ⟨u, hu⟩ := exists_lookup hs
          rw [hsid, hchildren] at hu
          cases hu
        have hnot : target ∉ paths r.children := by
          intro hmem
          obtain ⟨s, hs, hpath⟩ := mem_paths.1 hmem
          exact hnone s hs (congrArg Path.id hpath)
        refine ⟨_, hfirst.beside hid hnone, r :: rest', ?_, hat.beside⟩
        rw [graft?_cons_of_not_mem hne.symm hnot, hgraft]
        rfl

/-! ## The two searches -/

/-- **Grafting replaces the children of one entry, and where paths go on from those
above it is the one a look-up finds.** If it finds no entry, the forest
stays as it is. If it finds one, that entry has the path asked for and gets
the children, and nothing changes that is not below it. In a nested forest
it finds one just if a look-up of the id does, and what is changed is what
the look-up finds, at the first position with the id. -/
theorem graft_replaces_first (target : List String) (grafted forest : Forest) :
    (Forest.graft? target grafted forest = none →
      Forest.graft target grafted forest = forest) ∧
    (∀ forest', Forest.graft? target grafted forest = some forest' →
      Forest.graft target grafted forest = forest' ∧
        ∃ pos, GraftedAt target pos grafted forest forest') ∧
    (Nested forest →
      ((Forest.graft? target grafted forest).isSome ↔
        (Forest.lookup (Path.id target) forest).isSome) ∧
      ∀ r, Forest.lookup (Path.id target) forest = some r →
        ∃ pos, FirstAt (·.id = Path.id target) forest pos r ∧
          GraftedAt target pos grafted forest (Forest.graft target grafted forest)) := by
  refine ⟨fun h => ?_, fun forest' h => ⟨?_, exists_graftedAt h⟩, fun hn => ⟨?_, fun r hr => ?_⟩⟩
  · rw [Forest.graft, h, Option.getD_none]
  · rw [Forest.graft, h, Option.getD_some]
  · rw [Option.isSome_iff_exists, Option.isSome_iff_exists]
    constructor
    · rintro ⟨forest', h⟩
      obtain ⟨pos, hat⟩ := exists_graftedAt h
      obtain ⟨r, hr, rfl, -⟩ := hat.replaced
      exact exists_lookup (mem_nodes_of_at? hr)
    · rintro ⟨r, hr⟩
      obtain ⟨-, -, forest', h, -⟩ := hn.exists_graftedAt_first grafted hr
      exact ⟨forest', h⟩
  · obtain ⟨pos, hfirst, forest', h, hat⟩ := hn.exists_graftedAt_first grafted hr
    rw [Forest.graft, h, Option.getD_some]
    exact ⟨pos, hfirst, hat⟩

/-- **A lake that is listed twice**, with other folders below it. -/
def twoLakes : Forest :=
  [⟨.source, "lake", ["lake"], [⟨.folder, "raw", ["lake", "raw"], []⟩]⟩,
    ⟨.source, "lake", ["lake"],
      [⟨.folder, "old", ["lake", "old"], []⟩, ⟨.home, "attic", ["lake", "old"], []⟩]⟩]

/-- The path of the first lake leads to the folder, which is below the second; and
of two entries with its path, the first gets the children. -/
theorem graft_replaces_first_twoLakes :
    let target := ["lake", "old"]
    let zones : Forest := [⟨.file, "zones", ["lake", "old", "zones"], []⟩]
    let folder : Resource := ⟨.folder, "old", target, []⟩
    Nested twoLakes ∧ Forest.lookup "lake.old" twoLakes = some folder ∧
      (Forest.graft? target zones twoLakes).isSome ∧
      ∃ pos, FirstAt (·.id = "lake.old") twoLakes pos folder ∧
        GraftedAt target pos zones twoLakes (Forest.graft target zones twoLakes) := by
  intro target zones folder
  have hn : Nested twoLakes := by decide
  have hlookup : Forest.lookup (Path.id target) twoLakes = some folder := by decide
  obtain ⟨-, -, hnested⟩ := graft_replaces_first target zones twoLakes
  obtain ⟨hiff, hfirst⟩ := hnested hn
  refine ⟨hn, hlookup, hiff.2 ?_, hfirst folder hlookup⟩
  rw [hlookup]
  rfl

end Forest

end CatalogBrowser
