import KeyChart.Arrangement
import KeyChart.Proofs.Decimal.WholeNumbers

/-!
# Cells of a grid

A grid with a given number of columns has a cell for each row of a result, all of one size.
The cells fill it row by row: where a cell stands follows from the quotient and the remainder
of its number by the number of columns. Two nested loops with running offsets, the inner one
left early in the last row, make the same cells without a division by zero. They fail for too
many cells only: when one more than the number of rows is no longer a count, or when a list has
no room for the cells.
-/

namespace KeyChart.Arrangement

/-- A position after so many equal steps, added one at a time. -/
def stepped (first step : Float) : Nat → Float
  | 0 => first
  | count + 1 => stepped first step count + step

theorem stepped_add (first step : Float) (count : Nat) :
    stepped (first + step) step count = stepped first step (count + 1) := by
  induction count with
  | zero => rfl
  | succ count ih => rw [stepped, ih, ← stepped]

/-- The size of the cells of a grid: what the padding leaves of the box, shared out. -/
def gridSize (box : Box) (count columns : Nat) (padding : Float) : Float × Float :=
  let share (extent : Float) (n : Nat) : Float :=
    atLeastZero ((extent - padding * Float.ofNat (n + 1)) / Float.ofNat n)
  (share box.width columns, share box.height (gridRows count columns))

/-- The cell with a number: in the column of its remainder, in the row of its quotient. -/
def gridCell (size : Float × Float) (padding : Float) (columns i : Nat) : Box where
  x := stepped padding (size.1 + padding) (i % columns)
  y := stepped padding (size.2 + padding) (i / columns)
  width := size.1
  height := size.2

/-- The cells of a grid up to a number. -/
def cellsTo (size : Float × Float) (padding : Float) (columns count : Nat) : List Box :=
  (List.range count).map (gridCell size padding columns)

variable {size : Float × Float} {padding : Float} {columns count limit room row : Nat} {box : Box}

theorem cellsTo_succ : cellsTo size padding columns (count + 1) =
    cellsTo size padding columns count ++ [gridCell size padding columns count] := by
  rw [cellsTo, List.range_succ, List.map_append]
  rfl

/-! ## The rows of a grid -/

theorem gridColumns_of_pos (h : 0 < columns) : gridColumns count columns = columns :=
  if_neg (Nat.ne_of_gt h)

theorem lt_gridRows_iff (h : 0 < columns) :
    row < gridRows count columns ↔ row * columns < count := by
  have hrest : count + columns - 1 - (columns - 1) = count := by omega
  rw [gridRows, Nat.lt_div_iff_mul_lt h, hrest]

/-- The rows have room for all cells. -/
theorem le_gridRows_mul (h : 0 < columns) : count ≤ gridRows count columns * columns :=
  Nat.le_of_not_lt fun hlt => Nat.lt_irrefl _ ((lt_gridRows_iff h).mpr hlt)

theorem rowCells_eq (size : Float × Float) (y step x : Float) (count : Nat) :
    rowCells size y step x count =
      (List.range count).map fun i => ⟨stepped x step i, y, size.1, size.2⟩ := by
  induction count generalizing x with
  | zero => rfl
  | succ count ih =>
    rw [rowCells, ih, List.range_succ_eq_map, List.map_cons, List.map_map]
    simp only [Function.comp_def, stepped_add]
    rfl

/-- Rows of cells one below the other are the cells by their numbers. -/
theorem gridCells_eq (h : 0 < columns) (rows : Nat) (y : Float) (count : Nat)
    (hroom : count ≤ rows * columns) :
    gridCells size padding columns rows y count =
      (List.range count).map fun i => ⟨stepped padding (size.1 + padding) (i % columns),
        stepped y (size.2 + padding) (i / columns), size.1, size.2⟩ := by
  induction rows generalizing y count with
  | zero =>
    have hzero : count = 0 := by omega
    rw [hzero]
    rfl
  | succ rows ih =>
    rw [Nat.succ_mul] at hroom
    have hsplit : count = min columns count + (count - columns) := by omega
    rw [gridCells, ih _ _ (by omega), rowCells_eq]
    conv_rhs => rw [hsplit, List.range_add, List.map_append, List.map_map]
    congr 1
    · refine List.map_congr_left fun i hi => ?_
      have hi := List.mem_range.mp hi
      have hcolumn : i < columns := by omega
      rw [Nat.mod_eq_of_lt hcolumn, Nat.div_eq_of_lt hcolumn]
      rfl
    · refine List.map_congr_left fun i hi => ?_
      have hi := List.mem_range.mp hi
      have hfull : min columns count = columns := by omega
      rw [Function.comp_apply, hfull, Nat.add_mod_left, Nat.add_div_left i h, stepped_add]

/-- The cells of a grid are those up to their count. -/
theorem placeGrid_eq (h : 0 < columns) : placeGrid box count columns padding =
    cellsTo (gridSize box count columns padding) padding columns count := by
  unfold placeGrid
  split
  case isTrue hzero =>
    rw [hzero]
    rfl
  case isFalse =>
    rw [gridColumns_of_pos h]
    exact gridCells_eq h _ padding count (le_gridRows_mul h)

/-! ## Nested loops

Whole numbers have a largest one, the limit, and lists have a greatest length, the room. A sum or
a product above the limit is a failure, and so are a division by zero and a list above the room. -/

/-- A sum, if it is not too large. -/
def sum? (limit a b : Nat) : Option Nat := if a + b ≤ limit then some (a + b) else none

/-- A product, if it is not too large. -/
def product? (limit a b : Nat) : Option Nat := if a * b ≤ limit then some (a * b) else none

/-- A quotient rounded up. -/
def quotientUp? (a b : Nat) : Option Nat :=
  if b = 0 then none else some (if 0 < a % b then a / b + 1 else a / b)

/-- A quotient of floats. -/
def quotient? (x y : Float) : Option Float := if y == 0 then none else some (x / y)

/-- An empty list that so many cells are going to be added to. -/
def empty? (room count : Nat) : Option (List Box) := if count ≤ room then some [] else none

/-- What the padding around and between `n` cells leaves of an extent for each of them. -/
def share? (limit : Nat) (extent padding : Float) (n : Nat) : Option Float := do
  let gaps ← sum? limit n 1
  let share ← quotient? (extent - padding * Float.ofNat gaps) (Float.ofNat n)
  return atLeastZero share

/-- Adds the cells of one row to those before, until there is one for each of `count`. -/
def addRow? (limit : Nat) (size : Float × Float) (padding : Float) (columns count row : Nat)
    (y : Float) (cells : List Box) : Option (List Box) := do
  let mut cells := cells
  let mut x := padding
  for column in List.range columns do
    let start ← product? limit row columns
    let i ← sum? limit start column
    if count ≤ i then
      break
    cells := cells ++ [⟨x, y, size.1, size.2⟩]
    x := x + (size.1 + padding)
  return cells

/-- Adds the cells row by row. -/
def addRows? (limit : Nat) (size : Float × Float) (padding : Float) (columns count rows : Nat)
    (cells : List Box) : Option (List Box) := do
  let mut cells := cells
  let mut y := padding
  for row in List.range rows do
    cells ← addRow? limit size padding columns count row y cells
    y := y + (size.2 + padding)
  return cells

/-- The cells of a grid by two nested loops. -/
def gridByLoops? (limit room : Nat) (box : Box) (count columns : Nat) (padding : Float) :
    Option (List Box) := do
  if count = 0 then
    return []
  let columns := gridColumns count columns
  let rows ← quotientUp? count columns
  let width ← share? limit box.width padding columns
  let height ← share? limit box.height padding rows
  let cells ← empty? room count
  addRows? limit (width, height) padding columns count rows cells

theorem quotientUp?_eq (h : 0 < columns) :
    quotientUp? count columns = some (gridRows count columns) := by
  have hdiv := Nat.div_add_mod count columns
  have hmod := Nat.mod_lt count h
  rw [Nat.mul_comm] at hdiv
  rw [quotientUp?, if_neg (Nat.ne_of_gt h), gridRows]
  congr 1
  split
  · refine (Nat.div_eq_of_lt_le ?_ ?_).symm
    · rw [Nat.succ_mul]
      omega
    · rw [Nat.succ_mul, Nat.succ_mul]
      omega
  · refine (Nat.div_eq_of_lt_le ?_ ?_).symm
    · omega
    · rw [Nat.succ_mul]
      omega

/-- The shares of some cells are never those of none; they fail if one more than the number of
cells is too large. -/
theorem share?_eq {extent : Float} {n : Nat} (h : 0 < n) : share? limit extent padding n =
    if n < limit then
      some (atLeastZero ((extent - padding * Float.ofNat (n + 1)) / Float.ofNat n))
    else none := by
  split
  case isTrue hlimit =>
    simp [share?, sum?, quotient?, Decimal.ofNat_beq_zero h, Nat.succ_le_of_lt hlimit]
  case isFalse hlimit =>
    have htoo : ¬ n + 1 ≤ limit := hlimit
    rw [share?, sum?, if_neg htoo]
    rfl

/-- A loop that takes each state to the next one, up to a turn at which it is left. -/
theorem forIn_range'_eq {σ : Type} {turn : Nat → σ → Option (ForInStep σ)} (state : Nat → σ)
    (stop : Nat) {first n : Nat} (hfirst : first ≤ stop)
    (hyield : ∀ i < stop, i < first + n → turn i (state i) = some (.yield (state (i + 1))))
    (hdone : stop < first + n → turn stop (state stop) = some (.done (state stop))) :
    forIn (List.range' first n) (state first) turn = some (state (min stop (first + n))) := by
  induction n generalizing first with
  | zero =>
    rw [Nat.add_zero, Nat.min_eq_right hfirst]
    rfl
  | succ n ih =>
    rw [List.range'_succ, List.forIn_cons]
    rcases Nat.lt_or_eq_of_le hfirst with hlt | heq
    · rw [hyield first hlt (by omega)]
      have hmin : first + (n + 1) = first + 1 + n := by omega
      rw [hmin] at hyield hdone ⊢
      exact ih hlt hyield hdone
    · subst heq
      rw [hdone (by omega), Nat.min_eq_left (by omega)]
      rfl

/-- A row gets its cells, or as many as there are left. -/
theorem addRow?_eq (h : 0 < columns) (hrow : row * columns ≤ count) (hlimit : count ≤ limit) :
    addRow? limit size padding columns count row (stepped padding (size.2 + padding) row)
        (cellsTo size padding columns (row * columns)) =
      some (cellsTo size padding columns (min count ((row + 1) * columns))) := by
  unfold addRow?
  rw [List.range_eq_range']
  refine (congrArg (fun s => s >>= fun s => some s.1)
    (forIn_range'_eq (fun column => (cellsTo size padding columns (row * columns + column),
      stepped padding (size.1 + padding) column)) (count - row * columns) (Nat.zero_le _)
      ?_ ?_)).trans ?_
  · intro column hleft hcolumn
    have hcell : gridCell size padding columns (row * columns + column) =
        ⟨stepped padding (size.1 + padding) column, stepped padding (size.2 + padding) row,
          size.1, size.2⟩ := by
      have hlt : column < columns := by omega
      have hmod : (row * columns + column) % columns = column := by
        rw [Nat.mul_add_mod', Nat.mod_eq_of_lt hlt]
      have hdiv : (row * columns + column) / columns = row := by
        rw [Nat.mul_comm, Nat.mul_add_div h, Nat.div_eq_of_lt hlt, Nat.add_zero]
      rw [gridCell, hmod, hdiv]
    have hstart : row * columns ≤ limit := by omega
    have hi : row * columns + column ≤ limit := by omega
    have hnext : ¬ count ≤ row * columns + column := by omega
    simp only [product?, sum?, if_pos hstart, if_pos hi, if_neg hnext, Option.bind_eq_bind,
      Option.bind_some, ← Nat.add_assoc, cellsTo_succ, hcell]
    rfl
  · intro hstop
    have hstart : row * columns ≤ limit := by omega
    have hlast : row * columns + (count - row * columns) = count := by omega
    simp [product?, sum?, if_pos hstart, hlast, hlimit]
  · have hend : row * columns + min (count - row * columns) (0 + columns) =
        min count ((row + 1) * columns) := by
      rw [Nat.succ_mul]
      omega
    rw [← hend]
    rfl

/-- Rows of the first cells. -/
theorem addRows?_eq (h : 0 < columns) (hlimit : count ≤ limit) :
    addRows? limit size padding columns count (gridRows count columns) [] =
      some (cellsTo size padding columns count) := by
  have hroom : count ≤ gridRows count columns * columns := le_gridRows_mul h
  have hnone : [] = cellsTo size padding columns (min count (0 * columns)) := by
    rw [Nat.zero_mul, Nat.min_zero]
    rfl
  unfold addRows?
  rw [List.range_eq_range', hnone]
  refine (congrArg (fun s => s >>= fun s => some s.1)
    (forIn_range'_eq (fun row => (cellsTo size padding columns (min count (row * columns)),
      stepped padding (size.2 + padding) row)) (gridRows count columns) (Nat.zero_le _)
      ?_ ?_)).trans ?_
  · intro row hrow _
    have hstart := Nat.le_of_lt ((lt_gridRows_iff h).mp hrow)
    simp only [Nat.min_eq_right hstart, addRow?_eq h hstart hlimit]
    rfl
  · intro hstop
    omega
  · have hend : min count (min (gridRows count columns) (0 + gridRows count columns) * columns) =
        count := by
      rw [Nat.zero_add, Nat.min_self, Nat.min_eq_left hroom]
    conv_rhs => rw [← hend]
    rfl

/-- The loops make the cells of the grid, or fail where there are too many rows or cells. -/
theorem gridByLoops?_eq (h : 0 < columns) (hcolumns : columns < limit) (hcount : count ≤ limit) :
    gridByLoops? limit room box count columns padding =
      placeGrid? limit room box count columns padding := by
  unfold gridByLoops? placeGrid?
  split
  case isTrue => rfl
  case isFalse hpos =>
    have hpositive : 0 < gridRows count columns := by
      rw [lt_gridRows_iff h]
      omega
    simp only [gridColumns_of_pos h, quotientUp?_eq h, share?_eq h, share?_eq hpositive,
      if_pos hcolumns, Option.bind_eq_bind, Option.bind_some]
    by_cases hrows : gridRows count columns < limit
    case neg => rw [if_neg hrows, if_neg fun hall => hrows hall.2.1, Option.bind_none]
    rw [if_pos hrows, Option.bind_some, empty?]
    by_cases hroom : count ≤ room
    case neg => rw [if_neg hroom, if_neg fun hall => hroom hall.2.2, Option.bind_none]
    rw [if_pos hroom, if_pos ⟨hcolumns, hrows, hroom⟩, Option.bind_some, placeGrid_eq h]
    exact addRows?_eq h hcount

/-! ## The cells of a grid -/

/-- How cells fill a grid: they are as many as asked for and of one size, a cell stands in the
column of the remainder of its number by the number of columns and in the row of the quotient. -/
structure FillsRows (cells : List Box) (size : Float × Float) (padding : Float)
    (columns count : Nat) : Prop where
  length : cells.length = count
  sized : ∀ cell ∈ cells, (cell.width, cell.height) = size
  x : ∀ i (h : i < cells.length), cells[i].x = stepped padding (size.1 + padding) (i % columns)
  y : ∀ i (h : i < cells.length), cells[i].y = stepped padding (size.2 + padding) (i / columns)
  column : ∀ i j (h : i < cells.length) (h' : j < cells.length),
    i % columns = j % columns → cells[i].x = cells[j].x
  row : ∀ i j (h : i < cells.length) (h' : j < cells.length),
    i / columns = j / columns → cells[i].y = cells[j].y

theorem fillsRows_cellsTo (size : Float × Float) (padding : Float) (columns count : Nat) :
    FillsRows (cellsTo size padding columns count) size padding columns count := by
  have hcell : ∀ i (h : i < (cellsTo size padding columns count).length),
      (cellsTo size padding columns count)[i] = gridCell size padding columns i := by
    intro i h
    simp [cellsTo]
  refine ⟨by simp [cellsTo], ?_, ?_, ?_, ?_, ?_⟩
  · intro cell hmem
    obtain ⟨i, -, rfl⟩ := List.mem_map.mp hmem
    rfl
  · intro i h
    rw [hcell i h]
    rfl
  · intro i h
    rw [hcell i h]
    rfl
  · intro i j h h' hcolumn
    rw [hcell i h, hcell j h', gridCell, gridCell, hcolumn]
  · intro i j h h' hrow
    rw [hcell i h, hcell j h', gridCell, gridCell, hrow]

/-- A grid with a given number of columns has as many cells as asked for, all of one size, and
they fill its rows in order. Two nested loops make the same cells, and nothing is ever divided by
zero. Their only failures are one more than the number of rows that is no count, and a list
without room for the cells. -/
theorem grid_fills_rows (box : Box) (count : Nat) (padding : Float) {columns : Nat}
    (h : 0 < columns) :
    FillsRows (placeGrid box count columns padding) (gridSize box count columns padding) padding
        columns count ∧
      ∀ limit room, count ≤ limit → columns < limit →
        gridByLoops? limit room box count columns padding =
            placeGrid? limit room box count columns padding ∧
          (gridRows count columns < limit → count ≤ room →
            placeGrid? limit room box count columns padding =
              some (placeGrid box count columns padding)) := by
  refine ⟨?_, fun limit room hcount hcolumns => ⟨gridByLoops?_eq h hcolumns hcount, ?_⟩⟩
  · rw [placeGrid_eq h]
    exact fillsRows_cellsTo _ padding columns count
  · intro hrows hroom
    unfold placeGrid?
    split
    case isTrue hzero => rw [placeGrid, if_pos hzero]
    case isFalse =>
      rw [gridColumns_of_pos h]
      exact if_pos ⟨hcolumns, hrows, hroom⟩

/-- Three cells in two columns, the second row half full. -/
theorem grid_fills_rows_three :
    let box : Box := ⟨10, 20, 100, 50⟩
    0 < 2 ∧ 3 ≤ largestCount ∧ 2 < largestCount ∧ gridRows 3 2 < largestCount ∧
      3 ≤ largestLength ∧
      placeGrid box 3 2 10 == [⟨10, 10, 35, 10⟩, ⟨55, 10, 35, 10⟩, ⟨10, 30, 35, 10⟩] ∧
      gridSize box 3 2 10 = (35, 10) ∧
      FillsRows (placeGrid box 3 2 10) (gridSize box 3 2 10) 10 2 3 ∧
      gridByLoops? largestCount largestLength box 3 2 10 = some (placeGrid box 3 2 10) := by
  intro box
  obtain ⟨hfills, hloops⟩ := grid_fills_rows box 3 10 (by decide : 0 < 2)
  obtain ⟨hsame, hplaced⟩ := hloops largestCount largestLength (by decide) (by decide)
  refine ⟨by decide, by decide, by decide, by decide, by decide, by decide +kernel,
    by decide +kernel, hfills, ?_⟩
  exact hsame.trans (hplaced (by decide) (by decide))

/-- Too many cells in a single column. For the largest count one more than the rows is no count;
for one cell more than a list has room for it is, but there are no cells either. -/
theorem too_many_cells_not_placed :
    let box : Box := ⟨0, 0, 100, 50⟩
    let more := largestLength + 1
    0 < 1 ∧ 1 < largestCount ∧
      (¬ gridRows largestCount 1 < largestCount ∧
        (∀ room, gridByLoops? largestCount room box largestCount 1 0 = none) ∧
        place? (.grid 1 0) box largestCount [] = none) ∧
      more ≤ largestCount ∧ gridRows more 1 < largestCount ∧
        gridByLoops? largestCount largestLength box more 1 0 = none ∧
        place? (.grid 1 0) box more [] = none := by
  intro box more
  have hrows : ¬ gridRows largestCount 1 < largestCount := by decide
  have hlength : ¬ more ≤ largestLength := by decide
  have hlargest : ∀ room, placeGrid? largestCount room box largestCount 1 0 = none := by
    intro room
    rw [placeGrid?, if_neg (by decide), gridColumns_of_pos Nat.one_pos,
      if_neg fun hall => hrows hall.2.1]
  have hmore : placeGrid? largestCount largestLength box more 1 0 = none := by
    rw [placeGrid?, if_neg (by decide), gridColumns_of_pos Nat.one_pos,
      if_neg fun hall => hlength hall.2.2]
  refine ⟨by decide, by decide, ⟨hrows, fun room => ?_, hlargest largestLength⟩, by decide,
    by decide, ?_, hmore⟩
  · rw [gridByLoops?_eq Nat.one_pos (by decide) (Nat.le_refl _)]
    exact hlargest room
  · rw [gridByLoops?_eq Nat.one_pos (by decide) (by decide)]
    exact hmore

end KeyChart.Arrangement
