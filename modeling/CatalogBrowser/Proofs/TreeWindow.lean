import CatalogBrowser.Proofs.Highlight
import CatalogBrowser.Screen.Pane
import Mathlib.Order.Bounds.Defs

/-!
# The window on the tree

There may be more rows than lines, and the pane of the tree then shows a window on
them that the highlighted row has to be in. Where the window starts depends on the
cursor and the number of lines only (`Screen.isLeast_windowStart`), so the whole
pane is said line by line, as what stands at the place of each line
(`Screen.treePane_eq`).

What a line says has no part in that. A name may be long, of wide letters or
broken into lines, and the row is a line of just the width inside the borders all
the same. Nothing that is written has a background, so the only one there is comes
from the highlight (`Screen.background_eq_darkGray_iff`).
-/

namespace CatalogBrowser

namespace Screen

/-! ## The window -/

/-- **The window starts at the first place it can**: where the highlighted row is among its
lines, and no further down than needed. Without a line there would be no such place. -/
theorem isLeast_windowStart {height : Nat} (h : 0 < height) (cursor : Nat) :
    IsLeast {start | start ≤ cursor ∧ cursor < start + height} (windowStart height cursor) := by
  unfold windowStart
  split
  · next hfits => exact ⟨⟨Nat.zero_le _, by omega⟩, fun start _ => Nat.zero_le start⟩
  · next hfits =>
    refine ⟨⟨by omega, by omega⟩, fun start hstart => ?_⟩
    obtain ⟨-, hshown⟩ := hstart
    omega

/-- As long as the highlight is not past the last line, the window stays at the top. So a
tree that fits into the pane is never moved. -/
theorem windowStart_of_lt {height cursor : Nat} (h : cursor < height) :
    windowStart height cursor = 0 := if_pos h

/-- The rows of the window, with their places, are the rows from its start on. They are
numbered first and cut out then, so each keeps its place among all rows, and the highlight
is told by it. -/
theorem window_eq (height cursor : Nat) (rows : List Row) :
    window height cursor rows
      = ((rows.drop (windowStart height cursor)).take height).mapIdx
          fun i row => (windowStart height cursor + i, row) := by
  refine List.ext_getElem? fun i => ?_
  simp only [window, List.getElem?_map, List.getElem?_take, List.getElem?_drop,
    List.getElem?_zipIdx, List.getElem?_mapIdx, Nat.zero_add]
  split
  · cases rows[windowStart height cursor + i]? <;> rfl
  · rfl

/-! ## Lengths -/

@[simp]
theorem length_spanRow (width : Nat) (spans : List Span) : (spanRow width spans).length = width :=
  length_fit width _ _

/-- Spans never take more room than there is. Each is cut off where it meets the edge, and
those behind it get what is left. -/
theorem length_lineCells_le (width : Nat) (spans : List Span) :
    (lineCells width spans).length ≤ width := by
  induction spans generalizing width with
  | nil => exact Nat.zero_le _
  | cons s rest ih =>
    unfold lineCells
    split
    · exact Nat.zero_le _
    · split
      · exact ih width
      · rw [List.length_append, length_fit]
        have hrest := ih (width - s.width)
        omega

/-! ## Backgrounds -/

/-- **No cell has a background of its own.** -/
def Unlit (cells : List Cell) : Prop := ∀ cell ∈ cells, cell.style.background = .reset

theorem unlit_nil : Unlit [] := fun _ hcell => absurd hcell List.not_mem_nil

/-- Cells that fill up are all alike, so one look at them is enough. -/
theorem unlit_replicate (n : Nat) {cell : Cell} (h : cell.style.background = .reset) :
    Unlit (List.replicate n cell) := by
  intro c hc
  rw [List.eq_of_mem_replicate hc, h]

/-- Cells are put side by side all the time, and none of them changes by it. -/
theorem Unlit.append {cells cells' : List Cell} (h : Unlit cells) (h' : Unlit cells') :
    Unlit (cells ++ cells') := List.forall_mem_append.2 ⟨h, h'⟩

/-- Filling up adds blank cells, and cutting off only takes some away. -/
theorem Unlit.fit {cells : List Cell} (h : Unlit cells) (width : Nat) : Unlit (fit width cells) :=
  fun _ hcell => h.append (unlit_replicate _ rfl) _ (List.mem_of_mem_take hcell)

/-- A wide letter takes a cell behind its own, which is blank. -/
theorem unlit_glyphCells {g : Glyph} (h : g.style.background = .reset) : Unlit (glyphCells g) :=
  List.forall_mem_cons.2 ⟨h, unlit_replicate _ rfl⟩

/-- What has no width of its own is written into the cell before it, with its own style. If
there is none, it gets a cell to itself. -/
theorem Unlit.appendToLast {cells : List Cell} (h : Unlit cells) (symbol : String) {style : Style}
    (hstyle : style.background = .reset) : Unlit (appendToLast symbol style cells) := by
  unfold Screen.appendToLast
  split
  · refine Unlit.append (fun cell hcell => h cell (List.mem_of_mem_dropLast hcell)) ?_
    exact List.forall_mem_singleton.2 hstyle
  · exact List.forall_mem_singleton.2 hstyle

/-- **The cells of a span have no other background than its glyphs.** There is one case for
each way in which a glyph is laid out, by its width and by the room that is left. -/
theorem Unlit.spanCells {width column : Nat} {cells : List Cell} {glyphs : List Glyph}
    (h : Unlit cells) (hglyphs : ∀ g ∈ glyphs, g.style.background = .reset) :
    Unlit (spanCells width column cells glyphs) := by
  fun_induction Screen.spanCells width column cells glyphs with
  | case1 => exact h
  | case2 => exact h
  | case3 column cells g gs _ _ ih =>
    obtain ⟨hg, hgs⟩ := List.forall_mem_cons.1 hglyphs
    exact ih (unlit_glyphCells hg) hgs
  | case4 cells g gs _ _ ih =>
    obtain ⟨hg, hgs⟩ := List.forall_mem_cons.1 hglyphs
    exact ih ((h.appendToLast _ hg).append (unlit_replicate _ rfl)) hgs
  | case5 column cells g gs _ _ _ _ ih =>
    obtain ⟨hg, hgs⟩ := List.forall_mem_cons.1 hglyphs
    exact ih (h.appendToLast _ hg) hgs
  | case6 column cells g gs _ _ _ _ ih =>
    obtain ⟨hg, hgs⟩ := List.forall_mem_cons.1 hglyphs
    exact ih (h.append (unlit_glyphCells hg)) hgs

/-- Spans are laid out one after the other, so a line is without a background if its spans
are. -/
theorem unlit_lineCells (width : Nat) {spans : List Span}
    (h : ∀ s ∈ spans, s.style.background = .reset) : Unlit (lineCells width spans) := by
  induction spans generalizing width with
  | nil => exact unlit_nil
  | cons s rest ih =>
    obtain ⟨hs, hrest⟩ := List.forall_mem_cons.1 h
    unfold lineCells
    split
    · exact unlit_nil
    · split
      · exact ih width hrest
      · refine Unlit.append (Unlit.fit (Unlit.spanCells unlit_nil fun g hg => ?_) _) (ih _ hrest)
        obtain ⟨grapheme, -, rfl⟩ := List.mem_map.1 hg
        exact hs

/-! ## Lines -/

/-- **What a row of the tree comes to on a line**, before any row is highlighted. -/
def rowCells (b : Browser) (width : Nat) (row : Row) : List Cell :=
  spanRow width (rowSpans b.messages (b.tree.selected = some row.id) row)

/-- The background of the row at a place among all rows. -/
def backdrop (b : Browser) (place : Nat) : Color := if place = b.cursor then .darkGray else .reset

/-- **The line of the place of a row.** Behind the last row lines are blank. -/
def lineAt (b : Browser) (width place : Nat) : List Cell :=
  match b.rows[place]? with
  | some row => (rowCells b width row).map (Cell.onto (backdrop b place))
  | none => List.replicate width Cell.blank

section Lines

variable {b : Browser} {width place : Nat}

/-- Nothing that is written on a line has a background. There are five kinds of spans on
it, and all of them only have a colour of their own. -/
theorem unlit_rowCells (b : Browser) (width : Nat) (row : Row) : Unlit (rowCells b width row) := by
  refine Unlit.fit (unlit_lineCells width fun s hs => ?_) width
  simp only [rowSpans, List.mem_append, List.mem_cons, List.not_mem_nil, or_false] at hs
  rcases hs with ((((rfl | rfl) | hs) | rfl) | hs)
  · rfl
  · rfl
  · split at hs
    · rw [List.mem_singleton.1 hs]
    · exact absurd hs List.not_mem_nil
  · rfl
  · split at hs
    · rw [List.mem_singleton.1 hs]
      rfl
    · exact absurd hs List.not_mem_nil

/-- The line of a row is what is written on it with the background of its place put behind.
On any other row than the highlighted one that background is the one there is anyway. -/
theorem rowLine_eq (row : Row) :
    rowLine width b.messages b.tree.selected b.cursor (place, row)
      = (rowCells b width row).map (Cell.onto (backdrop b place)) := by
  by_cases h : place = b.cursor
  · simp only [rowLine, backdrop, if_pos h]
    rfl
  · simp only [rowLine, backdrop, if_neg h]
    -- The background that cells have anyway is put behind them.
    have hid : ∀ cell ∈ rowCells b width row, Cell.onto .reset cell = cell := by
      intro cell hcell
      rw [Cell.onto, ← unlit_rowCells b width row cell hcell]
    exact ((List.map_congr_left hid).trans (List.map_id' _)).symm

@[simp]
theorem length_lineAt : (lineAt b width place).length = width := by
  unfold lineAt
  split
  · rw [List.length_map, rowCells, length_spanRow]
  · exact List.length_replicate

/-- **A line has the background of its place throughout.** Behind the last row there is no
place of a highlight, because there is a row at the cursor. -/
theorem background_of_mem_lineAt (h : b.cursor < b.rows.length) {cell : Cell}
    (hcell : cell ∈ lineAt b width place) : cell.style.background = backdrop b place := by
  unfold lineAt at hcell
  split at hcell
  · obtain ⟨c, -, rfl⟩ := List.mem_map.1 hcell
    rfl
  · next hnone =>
    rw [List.eq_of_mem_replicate hcell, backdrop, if_neg]
    · rfl
    · rintro rfl
      exact absurd h (Nat.not_lt_of_le (List.getElem?_eq_none_iff.1 hnone))

/-- The lines of the tree are those of the places from the start of the window on. Lines
that are not there are blank, as the pane fills them up. -/
theorem getElem?_treeLines {height i : Nat} (hi : i < height) :
    (treeLines b width height)[i]?.getD (List.replicate width Cell.blank)
      = lineAt b width (windowStart height b.cursor + i) := by
  unfold treeLines lineAt
  rw [window_eq, List.getElem?_map, List.getElem?_mapIdx, List.getElem?_take_of_lt hi,
    List.getElem?_drop]
  cases b.rows[windowStart height b.cursor + i]? with
  | none => rfl
  | some row => exact rowLine_eq row

end Lines

/-! ## The pane -/

/-- A line with the border of the pane on either side. -/
def bordered (line : List Cell) : List Cell := [⟨"│", .dim⟩] ++ line ++ [⟨"│", .dim⟩]

/-- Lines that are not too many are neither cut off nor moved by what is filled up
behind them. -/
theorem filledUp_eq {α : Type} {lines : List α} {n : Nat} (h : lines.length ≤ n) (blank : α) :
    (lines ++ List.replicate (n - lines.length) blank).take n
      = (List.range n).map fun i => lines[i]?.getD blank := by
  have hlength : (lines ++ List.replicate (n - lines.length) blank).length = n := by
    rw [List.length_append, List.length_replicate]
    omega
  rw [List.take_of_length_le hlength.le]
  refine List.ext_getElem (by rw [hlength, List.length_map, List.length_range]) fun i hi hi' => ?_
  rw [List.getElem_map, List.getElem_range]
  by_cases hline : i < lines.length
  · rw [List.getElem_append_left hline, List.getElem?_eq_getElem hline, Option.getD_some]
  · rw [List.getElem_append_right (Nat.le_of_not_lt hline), List.getElem_replicate,
      List.getElem?_eq_none (Nat.le_of_not_lt hline), Option.getD_none]

/-- **The pane of the tree**: line by line what stands at the places from the start of
the window on, with a border around it. -/
theorem treePane_eq {b : Browser} {width height : Nat} (h : b.rows ≠ []) :
    treePane b width height
      = [upperBorder width (" " ++ b.messages.text (tabKey b.options.tab) ++ " ") .dim]
        ++ (List.range (inside height)).map (fun i =>
            bordered (lineAt b (inside width) (windowStart (inside height) b.cursor + i)))
        ++ [lowerBorder width .dim] := by
  have hlength : (treeLines b (inside width) (inside height)).length ≤ inside height := by
    rw [treeLines, window_eq, List.length_map, List.length_mapIdx]
    exact List.length_take_le _ _
  have hempty : b.rows.isEmpty = false := by simpa using h
  rw [treePane, hempty]
  simp only [Bool.false_eq_true, if_false, pane]
  rw [filledUp_eq hlength, List.map_map]
  refine congrArg (_ ++ · ++ _) (List.map_congr_left fun i hi => ?_)
  exact congrArg bordered (getElem?_treeLines (List.mem_range.1 hi))

section Pane

variable {width : Nat}

/-- The title is cut off where it is too long, and filled up where it is too short. -/
theorem length_upperBorder (h : 2 ≤ width) (title : String) (style : Style) :
    (upperBorder width title style).length = width := by
  have hlabel := length_lineCells_le (inside width) [⟨title, style⟩]
  unfold inside at hlabel
  simp only [upperBorder, inside, List.length_append, List.length_cons, List.length_nil,
    List.length_replicate]
  omega

/-- The lower border says nothing, and so is as wide as the pane without more ado. -/
theorem length_lowerBorder (h : 2 ≤ width) (style : Style) :
    (lowerBorder width style).length = width := by
  simp only [lowerBorder, inside, List.length_append, List.length_cons, List.length_nil,
    List.length_replicate]
  omega

/-- A line and its two borders are as wide as the pane, which is what the inside was
computed from. -/
theorem length_bordered {line : List Cell} (hline : line.length = inside width)
    (h : 2 ≤ width) : (bordered line).length = width := by
  simp only [bordered, List.length_append, List.length_cons, List.length_nil, hline, inside]
  omega

/-- The title stands in the border in the style of the border, which has no background. -/
theorem unlit_upperBorder (width : Nat) (title : String) :
    Unlit (upperBorder width title .dim) := by
  have hborder (symbol : String) : Unlit [⟨symbol, .dim⟩] := List.forall_mem_singleton.2 rfl
  have hlabel : Unlit (lineCells (inside width) [⟨title, .dim⟩]) :=
    unlit_lineCells _ (List.forall_mem_singleton.2 rfl)
  exact (((hborder _).append hlabel).append (unlit_replicate _ rfl)).append (hborder _)

theorem unlit_lowerBorder (width : Nat) : Unlit (lowerBorder width .dim) := by
  have hborder (symbol : String) : Unlit [⟨symbol, .dim⟩] := List.forall_mem_singleton.2 rfl
  exact ((hborder _).append (unlit_replicate _ rfl)).append (hborder _)

/-- A cell of a line in its borders is one of the line, or one of the borders. Where it
stands says which. -/
theorem cases_of_getElem?_bordered {line : List Cell} {x : Nat} {cell : Cell}
    (h : (bordered line)[x]? = some cell) :
    (1 ≤ x ∧ x ≤ line.length) ∧ cell ∈ line ∨
      ¬ (1 ≤ x ∧ x ≤ line.length) ∧ cell = ⟨"│", .dim⟩ := by
  cases x with
  | zero => exact Or.inr ⟨by omega, (Option.some.inj h).symm⟩
  | succ x =>
    have hx : (line ++ [⟨"│", .dim⟩])[x]? = some cell := h
    by_cases hin : x < line.length
    · rw [List.getElem?_append_left hin] at hx
      exact Or.inl ⟨by omega, List.mem_of_getElem? hx⟩
    · rw [List.getElem?_append_right (Nat.le_of_not_lt hin)] at hx
      exact Or.inr ⟨by omega, List.mem_singleton.1 (List.mem_of_getElem? hx)⟩

/-- **The cell in a line and a column**, both counted from zero. -/
def cellAt? (lines : List (List Cell)) (y x : Nat) : Option Cell := lines[y]?.bind (·[x]?)

/-- **The background of the highlight is found on the line of the highlighted row**,
between the borders, and nowhere else on the pane. -/
theorem background_eq_darkGray_iff {b : Browser} (hcursor : b.cursor < b.rows.length)
    {height : Nat} (hheight : 0 < inside height) {y x : Nat} {cell : Cell}
    (h : cellAt? (treePane b width height) y x = some cell) :
    cell.style.background = .darkGray ↔
      windowStart (inside height) b.cursor + y = b.cursor + 1 ∧ 1 ≤ x ∧ x ≤ inside width := by
  obtain ⟨⟨hle, hlt⟩, -⟩ := isLeast_windowStart hheight b.cursor
  have hrows : b.rows ≠ [] := List.ne_nil_of_length_pos (Nat.zero_lt_of_lt hcursor)
  obtain ⟨line, hline, hcell⟩ := Option.bind_eq_some_iff.1 h
  -- Off the line of the highlighted row both sides are false.
  have hunlit {cells : List Cell} (hcells : Unlit cells) (hmem : cell ∈ cells)
      (hy : windowStart (inside height) b.cursor + y ≠ b.cursor + 1) :
      cell.style.background = .darkGray ↔
        windowStart (inside height) b.cursor + y = b.cursor + 1 ∧ 1 ≤ x ∧ x ≤ inside width := by
    rw [hcells cell hmem]
    exact iff_of_false (by decide) fun hlit => hy hlit.1
  rw [treePane_eq hrows, List.append_assoc, List.singleton_append] at hline
  cases y with
  | zero =>
    obtain rfl := Option.some.inj hline
    exact hunlit (unlit_upperBorder _ _) (List.mem_of_getElem? hcell) (by omega)
  | succ i =>
    rw [List.getElem?_cons_succ] at hline
    by_cases hi : i < inside height
    · rw [List.getElem?_append_left (by simpa using hi), List.getElem?_map,
        List.getElem?_range hi] at hline
      obtain rfl := Option.some.inj hline
      rcases cases_of_getElem?_bordered hcell with ⟨hx, hmem⟩ | ⟨hx, rfl⟩
      · rw [length_lineAt] at hx
        rw [background_of_mem_lineAt hcursor hmem, and_iff_left hx, backdrop]
        split
        · exact iff_of_true rfl (by omega)
        · exact iff_of_false (by decide) (by omega)
      · rw [length_lineAt] at hx
        exact iff_of_false (by decide) fun hlit => hx hlit.2
    · rw [List.getElem?_append_right (by simpa using hi)] at hline
      have hlast := List.mem_singleton.1 (List.mem_of_getElem? hline)
      rw [hlast] at hcell
      exact hunlit (unlit_lowerBorder _) (List.mem_of_getElem? hcell) (by omega)

/-- The pane is as large as it is meant to be, whatever is written on it. With this the
panes fit together on the screen. -/
theorem size_treePane {b : Browser} (hrows : b.rows ≠ []) (hwidth : 0 < inside width)
    {height : Nat} (hheight : 0 < inside height) :
    (treePane b width height).length = height ∧
      ∀ line ∈ treePane b width height, line.length = width := by
  have hwidth' : 2 ≤ width := by
    unfold inside at hwidth
    omega
  rw [treePane_eq hrows]
  constructor
  · simp only [List.length_append, List.length_cons, List.length_nil, List.length_map,
      List.length_range]
    unfold inside at hheight ⊢
    omega
  · simp only [List.forall_mem_append, List.forall_mem_singleton, List.forall_mem_map]
    exact ⟨⟨length_upperBorder hwidth' _ _, fun i _ => length_bordered length_lineAt hwidth'⟩,
      length_lowerBorder hwidth' _⟩

end Pane

end Screen

namespace Browser

open Screen

/-- **The highlighted row is always on screen.** After any keys, if there are rows and
the pane of the tree has an inside, the lines of the pane show the rows from a
place on, one row each and in order, and blank lines behind the last row. The
place is the first from where the highlighted row is among them, so it is that
of the first row as long as there are enough lines. Every line is as long as the
pane is wide, whatever the names are and however deep the entries stand. The
background of the highlight is all over the line of the highlighted row, and
nowhere else. -/
theorem treePane_shows_highlight_after (c : Catalog) (config : Config) (network : Network)
    (keys : List Key) (width height : Nat) :
    let b := after config c network keys
    b.rows ≠ [] → 1 ≤ inside width → 1 ≤ inside height →
      ∃ start,
        IsLeast {place | place ≤ b.cursor ∧ b.cursor < place + inside height} start ∧
        (b.cursor < inside height → start = 0) ∧
        b.cursor < b.rows.length ∧
        treePane b width height
          = [upperBorder width (" " ++ b.messages.text (tabKey b.options.tab) ++ " ") .dim]
            ++ (List.range (inside height)).map
              (fun i => bordered (lineAt b (inside width) (start + i)))
            ++ [lowerBorder width .dim] ∧
        (treePane b width height).length = height ∧
        (∀ line ∈ treePane b width height, line.length = width) ∧
        ∀ y x cell, cellAt? (treePane b width height) y x = some cell →
          (cell.style.background = .darkGray ↔
            start + y = b.cursor + 1 ∧ 1 ≤ x ∧ x ≤ inside width) := by
  intro b hrows hwidth hheight
  have hbounds : b.InBounds := inBounds_after c config network keys
  have hcursor : b.cursor < b.rows.length := by
    have hpos := List.length_pos_of_ne_nil hrows
    unfold InBounds at hbounds
    omega
  obtain ⟨hlength, hlines⟩ := size_treePane hrows hwidth hheight
  exact ⟨windowStart (inside height) b.cursor, isLeast_windowStart hheight b.cursor,
    windowStart_of_lt, hcursor, treePane_eq hrows, hlength, hlines,
    fun y x cell => background_eq_darkGray_iff hcursor hheight⟩

/-- **A catalog with long names**, of wide letters and with a line break. -/
def longNames : Catalog where
  path := "names.json"
  roots :=
    [⟨.space, "Sales", ["Sales"], [⟨.folder, "日本語の注文", ["Sales", "日本語の注文"], []⟩]⟩,
      ⟨.file, "read\nme", ["read\nme"], []⟩]

/-- A pane with one line inside shows the second of three rows. -/
theorem treePane_shows_highlight_after_longNames :
    let b := after {} longNames .online [⟨.enter, false⟩, ⟨.down, false⟩]
    b.rows ≠ [] ∧ 1 ≤ inside 12 ∧ 1 ≤ inside 3 ∧ b.rows.length = 3 ∧ b.cursor = 1 ∧
      (treePane b 12 3).map (fun line => String.join (line.map (·.symbol)))
        = ["╭ All ─────╮", "│  ▸ 日 本 語 │", "╰──────────╯"] ∧
      (treePane b 12 3).length = 3 ∧ (∀ line ∈ treePane b 12 3, line.length = 12) ∧
      ∀ y x cell, cellAt? (treePane b 12 3) y x = some cell →
        (cell.style.background = .darkGray ↔ y = 1 ∧ 1 ≤ x ∧ x ≤ 10) := by
  intro b
  have hlength : b.rows.length = 3 := rfl
  have hcursor : b.cursor = 1 := rfl
  have hrows : b.rows ≠ [] := List.ne_nil_of_length_pos (by omega)
  obtain ⟨start, ⟨⟨hle, hlt⟩, -⟩, -, -, -, hheight, hwidth, hlit⟩ :=
    treePane_shows_highlight_after longNames {} .online [⟨.enter, false⟩, ⟨.down, false⟩] 12 3
      hrows (by decide) (by decide)
  refine ⟨hrows, by decide, by decide, hlength, hcursor, by decide +kernel, hheight, hwidth,
    fun y x cell hcell => (hlit y x cell hcell).trans (and_congr_left fun _ => ?_)⟩
  have hinside : inside 3 = 1 := rfl
  omega

end Browser

end CatalogBrowser
