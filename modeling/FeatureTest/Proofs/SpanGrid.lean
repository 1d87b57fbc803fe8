import FeatureTest.Proofs.Wikitable

/-!
The grid of a table, in which each cell stands in all the rows and columns that it spans. A group of
rows whose first one spans some columns fills all of them, and leaves nothing to the rows below it.
-/
namespace FeatureTest.Wikitable

/-- A place in the grid. -/
structure Slot where
  cell : Cell
  /-- How many rows below still have the cell in this column. -/
  below : Nat
  deriving DecidableEq

def Slot.next? : Slot → Option Slot
  | ⟨_, 0⟩ => none
  | ⟨cell, below + 1⟩ => some ⟨cell, below⟩

def Cell.slots (cell : Cell) : List Slot := List.replicate cell.colspan ⟨cell, cell.rowspan - 1⟩

def Row.slots (row : Row) : List Slot := row.cells.flatMap Cell.slots

/-- A row of the grid. The cells from above keep their columns, and the row's own cells take the
other ones in turn; a column for which none is left stays empty. -/
def fill : List (Option Slot) → List Slot → List (Option Slot)
  | [], own => own.map some
  | some slot :: above, own => some slot :: fill above own
  | none :: above, slot :: own => some slot :: fill above own
  | none :: above, [] => none :: fill above []

/-- What a row of the grid leaves to the next one. -/
def hanging (line : List (Option Slot)) : List (Option Slot) := line.map (·.bind Slot.next?)

def gridBelow (above : List (Option Slot)) : List Row → List (List (Option Slot))
  | [] => []
  | row :: rows => fill above row.slots :: gridBelow (hanging (fill above row.slots)) rows

def grid : List Row → List (List (Option Slot)) := gridBelow []

/-- A row of the grid with something in each of its columns. -/
structure Full (width : Nat) (line : List (Option Slot)) : Prop where
  width : line.length = width
  filled : none ∉ line

/-- Columns into which nothing hangs. -/
def free (width : Nat) : List (Option Slot) := List.replicate width none

theorem fill_free {width : Nat} {own : List Slot} (h : width ≤ own.length) :
    fill (free width) own = own.map some := by
  induction width generalizing own with
  | zero => rfl
  | succ width ih =>
    obtain ⟨slot, rest, rfl⟩ := List.exists_cons_of_length_pos (Nat.lt_of_lt_of_le width.succ_pos h)
    exact congrArg (some slot :: ·) (ih (Nat.le_of_succ_le_succ h))

/-- What hangs below a row and those after it. -/
def hangingBelow (above : List (Option Slot)) (rows : List Row) : List (Option Slot) :=
  rows.foldl (fun above row => hanging (fill above row.slots)) above

theorem grid_below_append {above : List (Option Slot)} {rows later : List Row} :
    gridBelow above (rows ++ later) =
      gridBelow above rows ++ gridBelow (hangingBelow above rows) later := by
  induction rows generalizing above with
  | nil => rfl
  | cons row rows ih => exact congrArg (fill above row.slots :: ·) ih

/-- Rows that keep to themselves in a table of the given width: nothing hangs out of them. -/
structure Contained (width : Nat) (rows : List Row) : Prop where
  grid : gridBelow (free width) rows = grid rows
  full : ∀ line ∈ Wikitable.grid rows, Full width line
  hanging : hangingBelow (free width) rows = free width

theorem grid_contained {width : Nat} {groups : List (List Row)}
    (h : ∀ rows ∈ groups, Contained width rows) :
    gridBelow (free width) groups.flatten = groups.flatMap grid := by
  induction groups with
  | nil => rfl
  | cons rows groups ih =>
    obtain ⟨hrows, hgroups⟩ := List.forall_mem_cons.mp h
    rw [List.flatten_cons, grid_below_append, hrows.grid, hrows.hanging, ih hgroups,
      List.flatMap_cons]

theorem full_of_slots {width : Nat} {own : List Slot} (h : own.length = width) :
    Full width (own.map some) where
  width := by rw [List.length_map, h]
  filled := by simp

/-- A single row no cell of which spans other rows. -/
theorem contained_singleton {width : Nat} {row : Row} (hwidth : row.slots.length = width)
    (hbelow : ∀ slot ∈ row.slots, slot.below = 0) : Contained width [row] := by
  have hfill : fill (free width) row.slots = row.slots.map some :=
    fill_free (Nat.le_of_eq hwidth.symm)
  refine ⟨congrArg ([·]) hfill, List.forall_mem_singleton.mpr (full_of_slots hwidth), ?_⟩
  change Wikitable.hanging (fill (free width) row.slots) = free width
  rw [hfill, Wikitable.hanging, List.map_map, free, List.eq_replicate_iff, List.length_map]
  refine ⟨hwidth, fun o ho => ?_⟩
  obtain ⟨⟨cell, below⟩, hslot, rfl⟩ := List.mem_map.mp ho
  obtain rfl : below = 0 := hbelow _ hslot
  rfl

/-- A table of a heading and of groups of rows that keep to themselves: its grid is theirs, one
after the other. -/
theorem grid_of_contained {width : Nat} {head : Row} {groups : List (List Row)}
    (hhead : Contained width [head]) (h : ∀ rows ∈ groups, Contained width rows) :
    grid (head :: groups.flatten) = grid [head] ++ groups.flatMap grid := by
  have hfill : fill (free width) head.slots = fill [] head.slots := List.singleton_inj.mp hhead.grid
  have hbelow : hangingBelow [] [head] = free width := by
    rw [← hhead.hanging]
    exact congrArg hanging hfill.symm
  have happend := @grid_below_append [] [head] groups.flatten
  rwa [hbelow, grid_contained h] at happend

theorem full_of_contained {width : Nat} {head : Row} {groups : List (List Row)}
    (hhead : Contained width [head]) (h : ∀ rows ∈ groups, Contained width rows) :
    ∀ line ∈ grid (head :: groups.flatten), Full width line := by
  rw [grid_of_contained hhead h]
  refine List.forall_mem_append.mpr ⟨hhead.full, fun line hline => ?_⟩
  obtain ⟨rows, hrows, hline⟩ := List.mem_flatMap.mp hline
  exact (h rows hrows).full line hline

/-- What the columns of a row of the grid show. -/
def contents (line : List (Option Slot)) : List (Option String) :=
  line.map (·.map (·.cell.content))

/-- Elements, each with whether it is the first one. -/
def withFirst {α : Type} : List α → List (Bool × α)
  | [] => []
  | x :: xs => (true, x) :: xs.map (false, ·)

theorem mem_of_with_first {α : Type} {xs : List α} {p : Bool × α} (h : p ∈ withFirst xs) :
    p.2 ∈ xs := by
  cases xs with
  | nil => cases h
  | cons x xs =>
    rcases List.mem_cons.mp h with rfl | h
    · exact List.mem_cons_self
    · obtain ⟨y, hy, rfl⟩ := List.mem_map.mp h
      exact List.mem_cons_of_mem _ hy

theorem with_first_map {α β : Type} (f : α → β) (xs : List α) :
    withFirst (xs.map f) = (withFirst xs).map fun p => (p.1, f p.2) := by
  cases xs with
  | nil => rfl
  | cons x xs => simp [withFirst, Function.comp_def]

/-- What a row of a group of rows shows in a column, and whether the cell of the first row does so
for the whole group. -/
structure Column where
  content : String
  shared : Bool

namespace Column

section Cells

variable (height : Nat)

/-- The cell of a column in a group of this many rows. -/
def cell (c : Column) : Cell where
  attributes := if c.shared && height > 1 then some (spanAttribute "rowspan" height) else none
  content := c.content

def rowspan (c : Column) : Nat := if c.shared then height else 1

/-- The cells of a row. Only the first row has those of the columns that are shared. -/
def cells (isFirst : Bool) (columns : List Column) : List Cell :=
  (columns.filter fun c => isFirst || !c.shared).map (cell height)

/-- Where a row with `below` others of the group under it has the column. -/
def slot (below : Nat) (c : Column) : Slot := ⟨c.cell height, if c.shared then below else 0⟩

/-- What the rows of a group have in common in a column. -/
def common (c : Column) : Option String := if c.shared then some c.content else none

/-- What hangs from the columns of a row with `below` others under it. -/
def hung (below : Nat) (columns : List Column) : List (Option Slot) :=
  columns.map fun c => (c.slot height below).next?

/-- The rows of the grid that rows with these columns make. -/
def lines : List (List Column) → List (List (Option Slot))
  | [] => []
  | columns :: later => (columns.map (slot height later.length)).map some :: lines later

end Cells

variable {height : Nat}

@[simp] theorem cells_append (isFirst : Bool) (a b : List Column) :
    cells height isFirst (a ++ b) = cells height isFirst a ++ cells height isFirst b := by
  simp [cells]

@[simp] theorem cells_own (isFirst : Bool) (content : String) (columns : List Column) :
    cells height isFirst (⟨content, false⟩ :: columns) =
      { content } :: cells height isFirst columns := by
  simp [cells, cell]

@[simp] theorem cells_spanning (isFirst : Bool) (content : String) (columns : List Column) :
    cells height isFirst (⟨content, true⟩ :: columns) =
      (if isFirst then [cell height ⟨content, true⟩] else []) ++ cells height isFirst columns := by
  cases isFirst <;> rfl

@[simp] theorem cells_nil (isFirst : Bool) : cells height isFirst [] = [] := rfl

theorem cells_first (columns : List Column) :
    cells height true columns = columns.map (cell height) :=
  congrArg (List.map _) (List.filter_eq_self.mpr fun _ _ => rfl)

theorem cell_text (c : Column) : (c.cell height).text =
    (if c.shared && height > 1 then spanAttribute "rowspan" height ++ "|" else "") ++
      c.content := by
  unfold cell
  split
  · rfl
  · exact String.empty_append.symm

theorem cell_rowspan (h : 0 < height) (c : Column) :
    (c.cell height).rowspan = c.rowspan height := by
  obtain ⟨content, shared⟩ := c
  cases shared with
  | false => rfl
  | true =>
    by_cases hseveral : height > 1
    · simp only [cell, rowspan, hseveral, decide_true, Bool.and_self, if_true]
      exact Cell.span_of_attribute (by decide) height
    · obtain rfl : height = 1 := by omega
      rfl

theorem cell_colspan (c : Column) : (c.cell height).colspan = 1 := by
  unfold cell
  split
  · exact number_after_absent (not_mem_attribute (c := 'c') (by decide) (by decide) rfl height)
  · rfl

theorem cell_slots (h : 0 < height) (c : Column) :
    (c.cell height).slots = [c.slot height (height - 1)] := by
  rw [Cell.slots, cell_rowspan h, cell_colspan, List.replicate_one, slot, rowspan]
  split <;> rfl

theorem first_slots (h : 0 < height) (columns : List Column) :
    (cells height true columns).flatMap Cell.slots = columns.map (slot height (height - 1)) := by
  rw [cells_first, List.flatMap_map, List.map_eq_flatMap]
  simp only [cell_slots h]

theorem hanging_slots (below : Nat) (columns : List Column) :
    hanging ((columns.map (slot height below)).map some) = hung height below columns := by
  rw [hanging, List.map_map, List.map_map]
  rfl

theorem hung_zero (columns : List Column) : hung height 0 columns = free columns.length := by
  refine List.eq_replicate_iff.mpr ⟨List.length_map _, fun o ho => ?_⟩
  obtain ⟨c, -, rfl⟩ := List.mem_map.mp ho
  rw [slot, ite_self]
  rfl

/-- Only what is in common hangs. -/
theorem hung_of_common {a b : List Column} (h : a.map common = b.map common) (below : Nat) :
    hung height below a = hung height below b := by
  have hcommon : ∀ c : Column, (c.slot height below).next? =
      c.common.bind fun content => (slot height below ⟨content, true⟩).next? := by
    rintro ⟨content, shared⟩
    cases shared <;> rfl
  have hmap : ∀ columns : List Column, hung height below columns = (columns.map common).map
      (·.bind fun content => (slot height below ⟨content, true⟩).next?) := by
    intro columns
    rw [List.map_map]
    exact List.map_congr_left fun c _ => hcommon c
  rw [hmap, hmap, h]

/-- The cells of a later row take the columns that are not shared. -/
theorem later_slots_fill (below : Nat) (columns : List Column) :
    fill (hung height (below + 1) columns) ((cells height false columns).flatMap Cell.slots) =
      (columns.map (slot height below)).map some := by
  induction columns with
  | nil => rfl
  | cons c columns ih =>
    obtain ⟨content, shared⟩ := c
    cases shared with
    | false => exact congrArg (some _ :: ·) ih
    | true => exact congrArg (some _ :: ·) ih

theorem contents_slots (below : Nat) (columns : List Column) :
    contents ((columns.map (slot height below)).map some) =
      (columns.map Column.content).map some := by
  simp only [contents, List.map_map]
  rfl

theorem contents_lines (columns : List (List Column)) :
    (lines height columns).map contents = columns.map fun cs => (cs.map content).map some := by
  induction columns with
  | nil => rfl
  | cons cs later ih => rw [lines, List.map_cons, contents_slots, ih, List.map_cons]

theorem full_lines {width : Nat} {columns : List (List Column)}
    (h : ∀ cs ∈ columns, cs.length = width) : ∀ line ∈ lines height columns, Full width line := by
  induction columns with
  | nil => exact fun _ hl => absurd hl List.not_mem_nil
  | cons cs later ih =>
    obtain ⟨hcs, hlater⟩ := List.forall_mem_cons.mp h
    exact List.forall_mem_cons.mpr ⟨full_of_slots ((List.length_map _).trans hcs), ih hlater⟩

theorem first_rowspans (h : 0 < height) (columns : List Column) :
    (cells height true columns).map Cell.rowspan = columns.map (rowspan height) := by
  rw [cells_first, List.map_map]
  exact List.map_congr_left fun c _ => cell_rowspan h c

theorem later_rowspans (h : 1 < height) (columns : List Column) :
    (cells height false columns).map Cell.rowspan =
      (columns.map (rowspan height)).filter (· == 1) := by
  have hown : ∀ c : Column, (c.rowspan height == 1) = !c.shared := by
    rintro ⟨content, shared⟩
    cases shared with
    | false => rfl
    | true => exact beq_false_of_ne (Nat.ne_of_gt h)
  rw [cells, List.map_map, List.filter_map]
  simp only [Function.comp_def, hown, Bool.false_or]
  exact List.map_congr_left fun c _ => cell_rowspan (Nat.zero_lt_of_lt h) c

/-- Each row below the first one fills the columns that are not shared, until the last one leaves
nothing hanging. -/
theorem later_rows_fill {first : List Column} {rows : List Row} {columns : List (List Column)}
    (hcells : List.Forall₂ (fun row cs => row.cells = cells height false cs) rows columns)
    (hcommon : ∀ cs ∈ columns, cs.map common = first.map common) :
    gridBelow (hung height rows.length first) rows = lines height columns ∧
      hangingBelow (hung height rows.length first) rows = free first.length := by
  induction hcells with
  | nil => exact ⟨rfl, hung_zero first⟩
  | @cons row cs rows columns hrow hrows ih =>
    obtain ⟨hcs, hcolumns⟩ := List.forall_mem_cons.mp hcommon
    obtain ⟨hgrid, hhanging⟩ := ih hcolumns
    have hfill : fill (hung height (rows.length + 1) first) row.slots =
        (cs.map (slot height rows.length)).map some := by
      rw [← hung_of_common hcs, Row.slots, hrow, later_slots_fill]
    have hbelow : hanging (fill (hung height (rows.length + 1) first) row.slots) =
        hung height rows.length first := by
      rw [hfill, hanging_slots, hung_of_common hcs]
    constructor
    · rw [gridBelow, List.length_cons, hbelow, hgrid, hfill, hrows.length_eq]
      rfl
    · rw [hangingBelow, List.foldl_cons, List.length_cons, hbelow]
      exact hhanging

end Column

/-- Rows with these columns, of which the first one has the cells that are shared. -/
structure Group (rows : List Row) (columns : List (List Column)) : Prop where
  cells : List.Forall₂ (fun row (p : Bool × List Column) =>
    row.cells = Column.cells rows.length p.1 p.2) rows (withFirst columns)
  common : ∀ a ∈ columns, ∀ b ∈ columns, a.map Column.common = b.map Column.common

namespace Group

variable {rows later : List Row} {row : Row} {columns : List (List Column)} {first : List Column}

/-- The first row takes all columns when nothing hangs above it, and the other rows follow. -/
theorem fills (h : Group (row :: later) (first :: columns)) {above : List (Option Slot)}
    (habove : ∀ own : List Slot, own.length = first.length → fill above own = own.map some) :
    gridBelow above (row :: later) = Column.lines (row :: later).length (first :: columns) ∧
      hangingBelow above (row :: later) = free first.length := by
  obtain ⟨hfirst, hlater⟩ := List.forall₂_cons.mp h.cells
  replace hlater := List.forall₂_map_right_iff.mp hlater
  have hslots : row.slots = first.map (Column.slot (row :: later).length later.length) :=
    (congrArg (·.flatMap Cell.slots) hfirst).trans (Column.first_slots later.length.succ_pos first)
  have hfill : fill above row.slots =
      (first.map (Column.slot (row :: later).length later.length)).map some := by
    rw [hslots, habove _ (List.length_map _)]
  obtain ⟨hgrid, hhanging⟩ := Column.later_rows_fill hlater fun cs hcs =>
    h.common cs (List.mem_cons_of_mem _ hcs) first List.mem_cons_self
  constructor
  · rw [gridBelow, hfill, Column.hanging_slots, hgrid, hlater.length_eq]
    rfl
  · rw [hangingBelow, List.foldl_cons, hfill, Column.hanging_slots]
    exact hhanging

theorem eq_cons (h : Group (row :: later) columns) : ∃ first others, columns = first :: others := by
  cases columns with
  | nil => cases h.cells
  | cons first others => exact ⟨first, others, rfl⟩

theorem grid_eq (h : Group rows columns) : grid rows = Column.lines rows.length columns := by
  cases rows with
  | nil =>
    cases columns with
    | nil => rfl
    | cons first later => cases h.cells
  | cons row later =>
    obtain ⟨first, others, rfl⟩ := h.eq_cons
    exact (h.fills fun _ _ => rfl).1

/-- Nothing hangs out of a group. -/
theorem contained {width : Nat} (h : Group rows columns)
    (hwidth : ∀ cs ∈ columns, cs.length = width) : Contained width rows := by
  have hfull : ∀ line ∈ grid rows, Full width line := by
    rw [h.grid_eq]
    exact Column.full_lines hwidth
  cases rows with
  | nil => exact ⟨rfl, hfull, rfl⟩
  | cons row later =>
    obtain ⟨first, others, rfl⟩ := h.eq_cons
    obtain rfl : first.length = width := hwidth first List.mem_cons_self
    have hfree : ∀ own : List Slot, own.length = first.length →
        fill (free first.length) own = own.map some :=
      fun own hown => fill_free (Nat.le_of_eq hown.symm)
    obtain ⟨hgrid, hhanging⟩ := h.fills hfree
    exact ⟨hgrid.trans h.grid_eq.symm, hfull, hhanging⟩

theorem contents (h : Group rows columns) :
    (grid rows).map contents = columns.map fun cs => (cs.map Column.content).map some := by
  rw [h.grid_eq, Column.contents_lines]

end Group

end FeatureTest.Wikitable
