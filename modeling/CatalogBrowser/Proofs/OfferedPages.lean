import CatalogBrowser.Proofs.Selecting
import CatalogBrowser.Screen.Basic

/-!
# The page that is shown is offered

Which pages are offered depends on whether a dataset is selected, and that is
looked up in what is loaded. So the offer changes with every selection and
with every load, and the page that was shown may be gone. Each action that
touches the selection puts the page right afterwards, so between keys it is
always one of those offered (`Browser.Offered`).

Two things follow. The bar above the tree and the title of the details name
the same page, and neither has to fall back (`Screen.filter_pageSpans`).
And turning pages goes round: since no page is offered twice, the place of
the page is known, turning it by some steps and by some more is turning it by
their sum (`Browser.turnPage_turnPage`), and turning it as often as there are
pages is not turning it at all.
-/

namespace CatalogBrowser

/-- No page is offered twice. -/
theorem Page.nodup_offered (showWiki isNewQuery : Bool) :
    (Page.offered showWiki isNewQuery).Nodup := by
  cases showWiki <;> cases isNewQuery <;> decide

namespace Browser

variable {b : Browser}

/-- **The page that is shown is one of those offered.** -/
def Offered (b : Browser) : Prop := b.page ∈ b.pages

/-- The page is put right. -/
theorem offered_ensurePage (b : Browser) : b.ensurePage.Offered := by
  show (if b.page ∈ b.pages then b.page else .data) ∈ b.pages
  split
  · next h => exact h
  · exact Page.data_mem_offered _ _

/-- An offered page has a place among the others. -/
theorem Offered.exists_place (h : b.Offered) : ∃ i : Nat, b.pages[i]? = some b.page :=
  List.mem_iff_getElem?.1 h

/-- **The place of the page is the one it is found at**, because there is no
other. -/
theorem idxOf?_page {i : Nat} (h : b.pages[i]? = some b.page) :
    b.pages.idxOf? b.page = some i := by
  obtain ⟨hi, hpage⟩ := List.getElem?_eq_some_iff.1 h
  refine List.idxOf?_eq_some_iff.2 ⟨hi, hpage, fun j hj heq => ?_⟩
  have hnodup : b.pages.Nodup := Page.nodup_offered _ _
  exact Nat.ne_of_lt hj (hnodup.getElem_inj_iff.1 (heq.trans hpage.symm))

/-! ## Turning pages -/

/-- **A page that is turned stands some places further on**, counted round. -/
theorem getElem?_turnPage {i : Nat} (h : b.pages[i]? = some b.page) (steps : Nat) :
    b.pages[(i + steps) % b.pages.length]? = some (b.turnPage steps).page := by
  have hpos : 0 < b.pages.length :=
    List.length_pos_of_mem (Page.data_mem_offered b.showWiki (!b.selectsDataset))
  have hpage : (b.turnPage steps).page
      = (b.pages[(i + steps) % b.pages.length]?).getD .data := by
    unfold turnPage
    rw [idxOf?_page h]
    rfl
  rw [hpage, List.getElem?_eq_getElem (Nat.mod_lt _ hpos), Option.getD_some]

/-- Turning a page by some steps and then by some more. -/
theorem turnPage_turnPage (h : b.Offered) (steps more : Nat) :
    (b.turnPage steps).turnPage more = b.turnPage (steps + more) := by
  obtain ⟨i, hi⟩ := h.exists_place
  have htwice := getElem?_turnPage (b := b.turnPage steps) (getElem?_turnPage hi steps) more
  have honce := getElem?_turnPage hi (steps + more)
  rw [← Nat.add_assoc, ← Nat.mod_add_mod] at honce
  have hpage : ((b.turnPage steps).turnPage more).page = (b.turnPage (steps + more)).page :=
    Option.some.inj (htwice.symm.trans honce)
  -- Nothing but the page is turned.
  show { b with page := ((b.turnPage steps).turnPage more).page } = b.turnPage (steps + more)
  rw [hpage]
  rfl

/-- **Turning a page as often as there are pages on offer**, or some times as
often, leads back to it. -/
theorem turnPage_eq_self (h : b.Offered) {steps : Nat} (hsteps : b.pages.length ∣ steps) :
    b.turnPage steps = b := by
  obtain ⟨i, hi⟩ := h.exists_place
  obtain ⟨rounds, rfl⟩ := hsteps
  have hround := getElem?_turnPage hi (b.pages.length * rounds)
  rw [Nat.add_mul_mod_self_left, Nat.mod_eq_of_lt (List.getElem?_eq_some_iff.1 hi).1, hi]
    at hround
  show { b with page := (b.turnPage (b.pages.length * rounds)).page } = b
  rw [← Option.some.inj hround]

/-- One step and all steps but one, in either order, are a whole round. -/
theorem turnPage_turnPage_eq_self (h : b.Offered) {steps more : Nat}
    (hround : steps + more = b.pages.length) : (b.turnPage steps).turnPage more = b := by
  rw [turnPage_turnPage h, hround]
  exact turnPage_eq_self h (Nat.dvd_refl _)

/-! ## Keys -/

section Turning

variable {right left : Key}

/-- Turning forward and back. -/
theorem value_pressAll_right_left (h : b.Offered) (hright : right.action? = some .nextPage)
    (hleft : left.action? = some .previousPage) : (b.pressAll [right, left]).value = b := by
  show ((b.press right).value.press left).value = b
  rw [press_eq_perform hright, press_eq_perform hleft]
  exact turnPage_turnPage_eq_self h (Nat.add_sub_of_le (List.length_pos_of_mem h))

/-- Turning back and forward. -/
theorem value_pressAll_left_right (h : b.Offered) (hright : right.action? = some .nextPage)
    (hleft : left.action? = some .previousPage) : (b.pressAll [left, right]).value = b := by
  show ((b.press left).value.press right).value = b
  rw [press_eq_perform hleft, press_eq_perform hright]
  exact turnPage_turnPage_eq_self h (Nat.sub_add_cancel (List.length_pos_of_mem h))

/-- Turning forward key by key. -/
theorem value_pressAll_replicate (h : b.Offered) (hright : right.action? = some .nextPage)
    (n : Nat) : (b.pressAll (List.replicate n right)).value = b.turnPage n := by
  induction n with
  | zero => exact (turnPage_eq_self h (Nat.dvd_zero _)).symm
  | succ n ih =>
    rw [List.replicate_succ', value_pressAll_append, ih, value_pressAll_singleton,
      press_eq_perform hright]
    exact turnPage_turnPage h n 1

end Turning

namespace Offered

theorem select (h : b.Offered) : b.select.value.Offered := by
  cases hrow : b.highlighted? with
  | none =>
    rw [value_select_of_none hrow]
    exact h
  | some row =>
    rw [value_select_of_some hrow rfl rfl]
    exact offered_ensurePage _

/-- A star has no influence on the offer. -/
theorem toggleStar (h : b.Offered) : b.toggleStar.Offered := by
  unfold Browser.toggleStar
  split
  · exact h
  · next row hrow =>
    have hselected : (b.tree.toggleStar row.id).selected = b.tree.selected :=
      TreeState.selected_toggleStar b.tree row.id
    unfold Offered pages selectsDataset selected? at h ⊢
    rw [← hselected] at h
    exact h

/-- Turning offers what was offered before. -/
theorem turnPage (h : b.Offered) (steps : Nat) : (b.turnPage steps).Offered := by
  obtain ⟨i, hi⟩ := h.exists_place
  exact List.mem_of_getElem? (getElem?_turnPage hi steps)

/-- **Every action shows a page that is on offer.** -/
theorem perform (h : b.Offered) (action : Action) : (b.perform action).value.Offered := by
  cases action with
  | select => exact h.select
  | clear => exact offered_ensurePage _
  | toggleStar => exact h.toggleStar
  | nextPage | previousPage => exact h.turnPage _
  | quit | moveDown | moveUp | toggleTab | toggleNetwork => exact h

end Offered

theorem offered_after (config : Config) (c : Catalog) (network : Network) (keys : List Key) :
    (after config c network keys).Offered :=
  after_induction (P := Offered) (Page.data_mem_offered _ _)
    (fun _ key h => press_induction h h.perform key) keys

end Browser

/-! ## The bar and the title -/

namespace Screen

/-- What a filter leaves of joined lists, if it leaves nothing of the separator. -/
theorem filter_intercalate {α : Type} {p : α → Bool} {separator : List α}
    (h : separator.filter p = []) (lists : List (List α)) :
    (separator.intercalate lists).filter p = lists.flatMap (·.filter p) := by
  induction lists with
  | nil => rfl
  | cons xs rest ih =>
    cases rest with
    | nil => simp [List.intercalate_singleton]
    | cons ys rest =>
      rw [List.intercalate_cons_cons, List.filter_append, List.filter_append, h, ih,
        List.append_nil]
      rfl

/-- Of entries with their places one is at a given place. -/
theorem flatMap_zipIdx_of_getElem? {α β : Type} (f : α → β) {xs : List α} {i : Nat} {x : α}
    (h : xs[i]? = some x) (start : Nat) :
    (xs.zipIdx start).flatMap (fun entry => if entry.2 = start + i then [f entry.1] else [])
      = [f x] := by
  induction xs generalizing i start with
  | nil => exact nomatch h
  | cons y xs ih =>
    rw [List.zipIdx_cons, List.flatMap_cons]
    cases i with
    | zero =>
      obtain rfl : y = x := Option.some.inj h
      have hrest : (xs.zipIdx (start + 1)).flatMap
          (fun entry => if entry.2 = start + 0 then [f entry.1] else []) = [] := by
        refine List.flatMap_eq_nil_iff.2 fun entry hentry => if_neg fun heq => ?_
        have hle := List.le_snd_of_mem_zipIdx hentry
        omega
      rw [hrest, List.append_nil]
      exact if_pos (Nat.add_zero start).symm
    | succ i =>
      have hne : ¬ start = start + (i + 1) := by omega
      have hplace : start + (i + 1) = start + 1 + i := by omega
      rw [if_neg hne, hplace, ih h, List.nil_append]

/-- The style of the page that is shown, in the bar of pages. -/
def currentStyle : Style := { foreground := .yellow, isBold := true }

/-- The title of a page in the bar, as the page that is shown. -/
def currentTitle (b : Browser) (page : Page) : Span :=
  ⟨b.messages.text page.labelKey, currentStyle⟩

/-- The place of the page that is shown is looked up, not made up. -/
theorem idxOf?_page_eq {b : Browser} (h : b.Offered) :
    b.pages.idxOf? b.page = some (currentPage b) := by
  obtain ⟨i, hi⟩ := h.exists_place
  rw [currentPage, Browser.idxOf?_page hi, Option.getD_some]

/-- **One page in the bar is marked, and it is the one that is shown.** -/
theorem filter_pageSpans {b : Browser} (h : b.Offered) :
    (pageSpans b).filter (·.style = currentStyle) = [currentTitle b b.page] := by
  obtain ⟨i, hi⟩ := h.exists_place
  have hcurrent : currentPage b = i :=
    Option.some.inj ((idxOf?_page_eq h).symm.trans (Browser.idxOf?_page hi))
  -- A title is marked if its page stands where the page that is shown does.
  have htitle : ∀ entry : Page × Nat,
      ([⟨" ", .dim⟩, ⟨b.messages.text entry.1.labelKey,
          if entry.2 = i then currentStyle else .dim⟩, ⟨" ", .dim⟩] : List Span).filter
          (·.style = currentStyle)
        = if entry.2 = 0 + i then [currentTitle b entry.1] else [] := by
    intro entry
    rw [Nat.zero_add]
    split <;> rfl
  unfold pageSpans
  rw [filter_intercalate rfl, List.flatMap_map, hcurrent]
  exact (congrArg (b.pages.zipIdx.flatMap ·) (funext htitle)).trans
    (flatMap_zipIdx_of_getElem? (currentTitle b) hi 0)

/-- The title of the details is that of the page that is shown. -/
theorem pageTitle_eq {b : Browser} (h : b.Offered) :
    pageTitle b = b.messages.text b.page.labelKey := if_pos h

/-- The bar is the middle one of three rows, between the name of the program and a rule. -/
theorem getElem?_tabBar (b : Browser) (width : Nat) :
    (tabBar b width)[1]? = some (dimRow width (pageSpans b)) := rfl

/-- The title of the details stands in the upper border, with a blank on either side. -/
theorem head?_detailsPane (b : Browser) (width height : Nat) :
    (detailsPane b width height).head?
      = some (upperBorder width (" " ++ pageTitle b ++ " ") .dim) := rfl

end Screen

namespace Browser

/-- **The page that is shown is always one of those offered.** So it is found
among them, the one page marked in the bar bears the title of the details, and
turning pages can be undone: forward and back, back and forward, or forward as
often as there are pages, the browser is what it was. The bar and the title are what
is drawn: the one is the middle row of the rows on top of the screen, and the other
stands in the upper border of the details, whatever room there is for them. -/
theorem page_offered_after (c : Catalog) (config : Config) (network : Network)
    (keys : List Key) :
    let b := after config c network keys
    b.page ∈ b.pages ∧
    b.pages.idxOf? b.page = some (Screen.currentPage b) ∧
    Screen.pageTitle b = b.messages.text b.page.labelKey ∧
    (Screen.pageSpans b).filter (·.style = Screen.currentStyle)
      = [⟨Screen.pageTitle b, Screen.currentStyle⟩] ∧
    (∀ width, (Screen.tabBar b width)[1]? = some (Screen.dimRow width (Screen.pageSpans b))) ∧
    (∀ width height, (Screen.detailsPane b width height).head?
      = some (Screen.upperBorder width (" " ++ Screen.pageTitle b ++ " ") .dim)) ∧
    ∀ right left : Key, right.action? = some .nextPage → left.action? = some .previousPage →
      (b.pressAll [right, left]).value = b ∧ (b.pressAll [left, right]).value = b ∧
        (b.pressAll (List.replicate b.pages.length right)).value = b := by
  intro b
  have h : b.Offered := offered_after config c network keys
  have htitle : Screen.pageTitle b = b.messages.text b.page.labelKey := Screen.pageTitle_eq h
  refine ⟨h, Screen.idxOf?_page_eq h, htitle, ?_, Screen.getElem?_tabBar b,
    Screen.head?_detailsPane b, fun right left hright hleft => ⟨?_, ?_, ?_⟩⟩
  · rw [htitle]
    exact Screen.filter_pageSpans h
  · exact value_pressAll_right_left h hright hleft
  · exact value_pressAll_left_right h hright hleft
  · rw [value_pressAll_replicate h hright]
    exact turnPage_eq_self h (Nat.dvd_refl _)

/-- A catalog of one view. -/
def ordersView : Catalog := ⟨"orders.json", [⟨.virtualDataset, "orders", ["orders"], []⟩]⟩

/-- From the last of five pages, forward is the first one. -/
theorem page_offered_after_ordersView :
    let b := after {} ordersView .online [⟨.enter, false⟩, ⟨.left, false⟩]
    let right : Key := ⟨.right, false⟩
    let left : Key := ⟨.char 'h', false⟩
    b.page = .history ∧ b.pages.length = 5 ∧ (b.press right).value.page = .data ∧
      right.action? = some .nextPage ∧ left.action? = some .previousPage ∧
      (b.pressAll [right, left]).value = b ∧ (b.pressAll (List.replicate 5 right)).value = b :=
  have hturn := (page_offered_after ordersView {} .online
    [⟨.enter, false⟩, ⟨.left, false⟩]).2.2.2.2.2.2 ⟨.right, false⟩ ⟨.char 'h', false⟩ rfl rfl
  ⟨rfl, rfl, rfl, rfl, rfl, hturn.1, hturn.2.2⟩

end Browser

end CatalogBrowser
