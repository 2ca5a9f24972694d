import CatalogBrowser.Proofs.Selecting
import CatalogBrowser.Tree.State
import Mathlib.Algebra.Ring.Parity

/-!
# Selections one after the other

Selections reach the state one by one, each with the note whether its entry is
open. As long as that note is right, routing a selection turns the id of its
entry over, if the entry can be opened, and otherwise leaves what is open
alone (`TreeState.value_routeNow_some`). So what is open after a run is a
matter of counting: an id is turned over by every selection of an entry that
has it and can be opened, whichever entry that is, and whatever is selected in
between.

What waits for its children is no matter of counting. An id is put there when
an entry without children is opened, and routing takes nothing away again
(`TreeState.routeAll_parity`).
-/

namespace CatalogBrowser

/-- Turning an id over changes whether it is a member, and nothing else. -/
theorem IdSet.mem_toggle_iff {s : IdSet} {id x : String} :
    x ∈ s.toggle id ↔ Xor (x ∈ s) (id = x) := by
  by_cases hx : id = x
  · subst hx
    by_cases h : id ∈ s
    · simp [toggle_of_mem h, h]
    · simp [toggle_of_not_mem h, h]
  · rw [mem_toggle_of_ne (Ne.symm hx), xor_iff_not_iff, iff_false_right hx, not_not]

namespace TreeState

/-- **Routes a selection with the note whether its entry is open now.** -/
def routeNow (options : ViewOptions) (s : TreeState) (node : Option Resource) :
    Traced TreeState :=
  s.routeSelection options node (node.any fun r => s.isExpanded r.id)

/-- **Routes selections**, each with the note whether its entry is open by then. -/
def routeAll (options : ViewOptions) (s : TreeState) (nodes : List (Option Resource)) :
    Traced TreeState :=
  nodes.foldlM (routeNow options) s

/-- Whether a selection turns an id over: its entry has the id and can be opened. -/
def turnsOver (options : ViewOptions) (id : String) (node : Option Resource) : Bool :=
  node.any fun r => r.expandable options.datasetsAreLeaves && r.id = id

/-- **An entry that is asked for its children when it is selected**: it can be opened,
it has none, and its id is not among the open ones. -/
def Asks (s : TreeState) (options : ViewOptions) (r : Resource) : Prop :=
  r.expandable options.datasetsAreLeaves = true ∧ r.children = [] ∧ r.id ∉ s.expanded

instance (s : TreeState) (options : ViewOptions) (r : Resource) : Decidable (s.Asks options r) :=
  inferInstanceAs (Decidable (_ ∧ _ ∧ _))

variable {s : TreeState} {options : ViewOptions} {id : String} {nodes : List (Option Resource)}
  {node : Option Resource}

/-! ## One selection -/

/-- **The selection of an entry turns its id over**, if it can be opened, and asks for
its children if need be. -/
theorem value_routeNow_some (r : Resource) :
    (routeNow options s (some r)).value
      = { s with
          expanded :=
            if r.expandable options.datasetsAreLeaves then s.expanded.toggle r.id else s.expanded
          loading := if s.Asks options r then s.loading.insert r.id else s.loading
          selected := some r.id } := by
  have hnote : (some r).any (fun r => s.isExpanded r.id) = s.isExpanded r.id := rfl
  rw [routeNow, hnote]
  cases hable : r.expandable options.datasetsAreLeaves with
  | false =>
    have hasks : ¬ s.Asks options r := fun h => nomatch hable.symm.trans h.1
    rw [value_route_leaf hable, if_neg hasks]
    rfl
  | true =>
    rw [value_route_click hable, if_pos rfl]
    by_cases hmem : r.id ∈ s.expanded
    · have hasks : ¬ s.Asks options r := fun h => h.2.2 hmem
      rw [show s.isExpanded r.id = true from IdSet.contains_iff.2 hmem, if_neg hasks,
        IdSet.toggle_of_mem hmem]
      rfl
    · have hclosed : s.isExpanded r.id = false :=
        Bool.eq_false_iff.2 fun h => hmem (IdSet.contains_iff.1 h)
      rw [hclosed, IdSet.toggle_of_not_mem hmem]
      by_cases hc : r.children = []
      · rw [value_click_unloaded hc, if_pos ⟨hable, hc, hmem⟩]
      · rw [value_click_loaded hc, if_neg fun h => hc h.2.1]

/-- Nothing is opened or closed by a selection but the ids it turns over. -/
theorem mem_expanded_routeNow :
    id ∈ (routeNow options s node).value.expanded ↔
      Xor (id ∈ s.expanded) (turnsOver options id node = true) := by
  cases node with
  | none =>
    show id ∈ s.expanded ↔ Xor (id ∈ s.expanded) (false = true)
    simp [xor_iff_not_iff]
  | some r =>
    show id ∈ (routeNow options s (some r)).value.expanded ↔ Xor (id ∈ s.expanded)
      ((r.expandable options.datasetsAreLeaves && r.id = id) = true)
    rw [value_routeNow_some]
    cases hable : r.expandable options.datasetsAreLeaves with
    | false => simp [xor_iff_not_iff]
    | true => simpa using IdSet.mem_toggle_iff

/-- Nothing comes to wait by a selection but an entry that is asked. -/
theorem mem_loading_routeNow :
    id ∈ (routeNow options s node).value.loading ↔
      id ∈ s.loading ∨ ∃ r, node = some r ∧ r.id = id ∧ s.Asks options r := by
  cases node with
  | none =>
    show id ∈ s.loading ↔ _
    simp
  | some r =>
    rw [value_routeNow_some]
    by_cases hasks : s.Asks options r
    · simp [hasks, or_comm, eq_comm]
    · simp [hasks]

/-- A selection puts no star on anything, and takes none off. -/
theorem starred_routeNow : (routeNow options s node).value.starred = s.starred := by
  cases node with
  | none => rfl
  | some r => rw [value_routeNow_some]

/-- What is selected is what was routed last, or nothing if that was nothing. -/
theorem selected_routeNow : (routeNow options s node).value.selected = node.map Resource.id := by
  cases node with
  | none => rfl
  | some r =>
    rw [value_routeNow_some]
    rfl

/-! ## A run -/

/-- A run is routed from the front, each selection on what the one before it has left. -/
theorem value_routeAll :
    (routeAll options s nodes).value
      = nodes.foldl (fun s node => (routeNow options s node).value) s := by
  induction nodes generalizing s with
  | nil => rfl
  | cons node nodes ih =>
    rw [List.foldl_cons, ← ih]
    rfl

/-- **The last selection is routed on what the others left.** -/
theorem value_routeAll_concat :
    (routeAll options s (nodes ++ [node])).value
      = (routeNow options (routeAll options s nodes).value node).value := by
  rw [value_routeAll, value_routeAll, List.foldl_concat]

/-- **An id is asked for by a run** if it is the id of an entry that is asked for its
children when its turn comes. -/
def AsksFor (options : ViewOptions) (s : TreeState) (nodes : List (Option Resource))
    (id : String) : Prop :=
  ∃ before r later, nodes = before ++ some r :: later ∧ r.id = id ∧
    (routeAll options s before).value.Asks options r

/-- **One more selection asks for its own entry**, if it asks for any, and what was asked
for before stays asked for. -/
theorem asksFor_concat :
    AsksFor options s (nodes ++ [node]) id ↔
      AsksFor options s nodes id ∨
        ∃ r, node = some r ∧ r.id = id ∧ (routeAll options s nodes).value.Asks options r := by
  constructor
  · rintro ⟨before, r, later, hnodes, hid, hasks⟩
    rcases later.eq_nil_or_concat with rfl | ⟨later, last, rfl⟩
    · obtain ⟨rfl, hlast⟩ := List.append_inj' hnodes rfl
      exact Or.inr ⟨r, List.singleton_inj.1 hlast, hid, hasks⟩
    · rw [List.concat_eq_append, ← List.cons_append, ← List.append_assoc] at hnodes
      obtain ⟨rfl, -⟩ := List.append_inj' hnodes rfl
      exact Or.inl ⟨before, r, later, rfl, hid, hasks⟩
  · rintro (⟨before, r, later, rfl, hid, hasks⟩ | ⟨r, rfl, hid, hasks⟩)
    · exact ⟨before, r, later ++ [node], by simp, hid, hasks⟩
    · exact ⟨nodes, r, [], rfl, hid, hasks⟩

/-- One more selection turns an id over, or it does not. In the one case the parity of the
count changes, in the other it stays. -/
theorem odd_countP_concat {α : Type} {p : α → Bool} {xs : List α} {x : α} :
    Odd ((xs ++ [x]).countP p) ↔ Xor (Odd (xs.countP p)) (p x = true) := by
  rw [List.countP_append, List.countP_singleton]
  cases p x with
  | false => simp [xor_iff_not_iff]
  | true => simp [xor_iff_not_iff, Nat.odd_add_one]

/-- **A run turns an id over as often as entries with it are selected** that can be
opened. So an id is open afterwards if either it was before, or that happened an
odd number of times. Stars stay as they are, what waits is what waited before
and what is asked for, and of the selections the last is the one that stays. -/
theorem routeAll_parity (s : TreeState) (options : ViewOptions) (nodes : List (Option Resource)) :
    let s' := (routeAll options s nodes).value
    (∀ id, id ∈ s'.expanded ↔
      Xor (id ∈ s.expanded) (Odd (nodes.countP (turnsOver options id)))) ∧
    s'.starred = s.starred ∧
    (∀ id, id ∈ s'.loading ↔ id ∈ s.loading ∨ AsksFor options s nodes id) ∧
    s'.selected = (nodes.getLast?.map (Option.map Resource.id)).getD s.selected := by
  induction nodes using List.reverseRecOn with
  | nil =>
    have hnever : ∀ id, ¬ AsksFor options s [] id := by
      rintro id ⟨before, r, later, hnodes, -⟩
      simp at hnodes
    refine ⟨fun id => ?_, rfl, fun id => (or_iff_left (hnever id)).symm, rfl⟩
    show id ∈ s.expanded ↔ Xor (id ∈ s.expanded) (Odd 0)
    simp [xor_iff_not_iff]
  | append_singleton nodes node ih =>
    obtain ⟨hexpanded, hstarred, hloading, -⟩ := ih
    rw [value_routeAll_concat]
    refine ⟨fun id => ?_, starred_routeNow.trans hstarred, fun id => ?_, ?_⟩
    · rw [mem_expanded_routeNow, hexpanded, odd_countP_concat]
      simp only [xor_def]
      tauto
    · rw [mem_loading_routeNow, hloading, asksFor_concat, or_assoc]
    · rw [selected_routeNow, List.getLast?_concat]
      rfl

end TreeState

end CatalogBrowser
